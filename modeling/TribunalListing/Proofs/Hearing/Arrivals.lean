-- SUMMARY: What any sequence of records makes of a hearing history, whatever the order in which they arrive.
import Mathlib.Data.List.Nodup
import Mathlib.Data.List.Perm.Basic
import TribunalListing.Proofs.Hearing.History

/-!
# Arrivals

Records arrive late, twice, or not in the order of their versions, and a history remembers none of
those that it has dropped. What it comes to can still be said in one sentence about all that has
arrived: each hearing has one entry, in the order in which the hearings were first heard of, and the
entry is the record that prevails, the last one among those of the highest version. `Tells` says so.
It holds of a history without repeated hearings and its own entries, and each arrival keeps it.
-/

namespace TribunalListing.HearingHistory

/-- The hearings that some records are about. -/
def ids (records : List HearingRecord) : List String :=
  records.map (·.hearingId)

/-- The history after records have come in, one after the other. -/
def takeIn (history : HearingHistory) (records : List HearingRecord) : HearingHistory :=
  records.foldl (fun history record => history.merge record) history

/-- Among the arrivals, the record is the last one of the highest version for its hearing. -/
def Prevails (record : HearingRecord) (arrivals : List HearingRecord) : Prop :=
  ∃ earlier later, arrivals = earlier ++ record :: later ∧
    (∀ r ∈ earlier, r.hearingId = record.hearingId → r.version ≤ record.version) ∧
    ∀ r ∈ later, r.hearingId = record.hearingId → r.version < record.version

/-- No two different records for the same hearing have the same version. -/
def Untied (arrivals : List HearingRecord) : Prop :=
  ∀ r ∈ arrivals, ∀ r' ∈ arrivals, r.hearingId = r'.hearingId → r.version = r'.version → r = r'

variable {record r r' : HearingRecord} {history : HearingHistory}
  {arrivals arrivals' records : List HearingRecord}

@[simp] theorem ids_nil : ids [] = [] := rfl

@[simp] theorem ids_cons : ids (record :: records) = record.hearingId :: ids records := rfl

@[simp] theorem ids_append : ids (records ++ arrivals) = ids records ++ ids arrivals :=
  List.map_append

theorem mem_ids (h : r ∈ records) : r.hearingId ∈ ids records :=
  List.mem_map_of_mem h

/-! ## Prevailing records -/

namespace Prevails

theorem mem (h : Prevails r arrivals) : r ∈ arrivals := by
  obtain ⟨earlier, later, rfl, -, -⟩ := h
  simp

/-- No arrival for the same hearing has a higher version. -/
theorem version_le (h : Prevails r arrivals) (hmem : r' ∈ arrivals)
    (hid : r'.hearingId = r.hearingId) : r'.version ≤ r.version := by
  obtain ⟨earlier, later, rfl, hearlier, hlater⟩ := h
  rcases List.mem_append.mp hmem with hmem | hmem
  · exact hearlier r' hmem hid
  · rcases List.mem_cons.mp hmem with rfl | hmem
    · exact Int64.le_refl _
    · exact Int64.le_of_lt (hlater r' hmem hid)

/-- For one hearing, one record prevails. -/
theorem eq (h : Prevails r arrivals) (h' : Prevails r' arrivals)
    (hid : r.hearingId = r'.hearingId) : r = r' := by
  have hversion : r.version = r'.version :=
    Int64.le_antisymm (h'.version_le h.mem hid) (h.version_le h'.mem hid.symm)
  obtain ⟨earlier, later, rfl, -, hlater⟩ := h
  obtain ⟨earlier', later', hsplit, -, hlater'⟩ := h'
  -- if one of them came before the other, then the other one would have the higher version
  rcases List.append_eq_append_iff.mp hsplit with ⟨between, rfl, hrest⟩ | ⟨between, rfl, hrest⟩
  · cases between with
    | nil => exact (List.cons.inj hrest).1
    | cons first between =>
      have hmem : r' ∈ later := by
        rw [(List.cons.inj hrest).2]
        simp
      exact absurd (hlater r' hmem hid.symm) (hversion ▸ Int64.lt_irrefl)
  · cases between with
    | nil => exact (List.cons.inj hrest).1.symm
    | cons first between =>
      have hmem : r ∈ later' := by
        rw [(List.cons.inj hrest).2]
        simp
      exact absurd (hlater' r hmem hid) (hversion ▸ Int64.lt_irrefl)

/-- A record that is not older than all the others for its hearing prevails once it arrives. -/
theorem concat_self
    (h : ∀ r ∈ arrivals, r.hearingId = record.hearingId → r.version ≤ record.version) :
    Prevails record (arrivals ++ [record]) :=
  ⟨arrivals, [], rfl, h, by simp⟩

/-- An arrival for another hearing, or of a lower version, does not change what prevails. -/
theorem concat (h : Prevails r arrivals)
    (hrecord : record.hearingId = r.hearingId → record.version < r.version) :
    Prevails r (arrivals ++ [record]) := by
  obtain ⟨earlier, later, rfl, hearlier, hlater⟩ := h
  refine ⟨earlier, later ++ [record], by simp, hearlier, ?_⟩
  exact List.forall_mem_append.mpr ⟨hlater, by simpa using hrecord⟩

end Prevails

/-! ## One arrival -/

/-- A record for a new hearing adds its hearing at the end; any other leaves the hearings as they
are. -/
theorem ids_merge (record : HearingRecord) (history : HearingHistory) :
    ids (history.merge record) =
      if record.hearingId ∈ ids history then ids history
      else ids history ++ [record.hearingId] := by
  induction history with
  | nil => simp [merge]
  | cons kept rest ih =>
    simp only [merge]
    split
    next hid => split <;> simp [hid]
    next hid =>
      simp only [ids_cons, List.mem_cons, Ne.symm hid, false_or, ih]
      split <;> rfl

theorem nodup_ids_merge (h : (ids history).Nodup) : (ids (history.merge record)).Nodup := by
  rw [ids_merge]
  split
  next => exact h
  next hnew =>
    rw [← List.concat_eq_append]
    exact h.concat hnew

/-- An entry after a record has come in is the record, or an entry from before: of another hearing,
or of the same one at a higher version. -/
theorem mem_merge (h : (ids history).Nodup) (hr : r ∈ history.merge record) :
    (r = record ∧ ∀ kept ∈ history, kept.hearingId = record.hearingId →
        kept.version ≤ record.version) ∨
      (r ∈ history ∧ (record.hearingId = r.hearingId → record.version < r.version)) := by
  induction history with
  | nil =>
    obtain rfl := List.mem_singleton.mp hr
    exact .inl ⟨rfl, by simp⟩
  | cons kept rest ih =>
    rw [ids_cons, List.nodup_cons] at h
    obtain ⟨hnotin, hrest⟩ := h
    have hothers : ∀ other ∈ rest, other.hearingId ≠ kept.hearingId :=
      fun other hother heq => hnotin (heq ▸ mem_ids hother)
    simp only [merge] at hr
    split at hr
    next hid =>
      have hbehind (hmem : r ∈ rest) : record.hearingId = r.hearingId →
          record.version < r.version := fun heq =>
        absurd (heq.symm.trans hid.symm) (hothers r hmem)
      split at hr
      next hlower =>
        rcases List.mem_cons.mp hr with rfl | hmem
        · exact .inr ⟨List.mem_cons_self, fun _ => hlower⟩
        · exact .inr ⟨List.mem_cons_of_mem _ hmem, hbehind hmem⟩
      next hlower =>
        rcases List.mem_cons.mp hr with rfl | hmem
        · refine .inl ⟨rfl, List.forall_mem_cons.mpr ⟨fun _ => Int64.not_lt.mp hlower, ?_⟩⟩
          exact fun other hother heq => absurd (heq.trans hid.symm) (hothers other hother)
        · exact .inr ⟨List.mem_cons_of_mem _ hmem, hbehind hmem⟩
    next hid =>
      rcases List.mem_cons.mp hr with rfl | hmem
      · exact .inr ⟨List.mem_cons_self, fun heq => absurd heq.symm hid⟩
      · rcases ih hrest hmem with ⟨rfl, hall⟩ | ⟨hkept, hlower⟩
        · exact .inl ⟨rfl, List.forall_mem_cons.mpr ⟨fun heq => absurd heq hid, hall⟩⟩
        · exact .inr ⟨List.mem_cons_of_mem _ hkept, hlower⟩

/-- A record that is older than an entry for its hearing, or the same, changes nothing. -/
theorem merge_eq_self (h : (ids history).Nodup) (hr : r ∈ history)
    (hid : record.hearingId = r.hearingId) (hold : record = r ∨ record.version < r.version) :
    history.merge record = history := by
  induction history with
  | nil => cases hr
  | cons kept rest ih =>
    rw [ids_cons, List.nodup_cons] at h
    obtain ⟨hnotin, hrest⟩ := h
    rcases List.mem_cons.mp hr with rfl | hmem
    · rcases hold with rfl | hlower
      · simp [merge]
      · simp [merge, hid, hlower]
    · have hne : kept.hearingId ≠ record.hearingId := by
        rw [hid]
        exact fun heq => hnotin (heq ▸ mem_ids hmem)
      rw [merge, if_neg hne, ih hrest hmem]

/-! ## What a history tells of the arrivals -/

theorem eraseDups_of_nodup {as : List String} (h : as.Nodup) : as.eraseDups = as := by
  induction as with
  | nil => rfl
  | cons a as ih =>
    obtain ⟨hnotin, hrest⟩ := List.nodup_cons.mp h
    have hfilter : as.filter (fun b => !b == a) = as :=
      List.filter_eq_self.mpr fun b hb => by simpa using ne_of_mem_of_not_mem hb hnotin
    rw [List.eraseDups_cons, hfilter, ih hrest]

/-- The history has one entry for each hearing that there were arrivals for, in the order in which
the first of them came, and each entry prevails among the arrivals. -/
structure Tells (arrivals : List HearingRecord) (history : HearingHistory) : Prop where
  nodup : (ids history).Nodup
  ids_eq : ids history = (ids arrivals).eraseDups
  prevails : ∀ kept ∈ history, Prevails kept arrivals

namespace Tells

/-- A history without repeated hearings tells of its own entries. -/
theorem refl (h : (ids history).Nodup) : Tells history history := by
  refine ⟨h, (eraseDups_of_nodup h).symm, fun kept hkept => ?_⟩
  obtain ⟨earlier, later, rfl⟩ := List.append_of_mem hkept
  rw [ids_append, ids_cons, List.nodup_middle, List.nodup_cons, List.mem_append] at h
  refine ⟨earlier, later, rfl, fun r hr hid => ?_, fun r hr hid => ?_⟩
  · exact absurd (.inl (hid ▸ mem_ids hr)) h.1
  · exact absurd (.inr (hid ▸ mem_ids hr)) h.1

theorem mem_ids_iff (h : Tells arrivals history) {hearingId : String} :
    hearingId ∈ ids history ↔ hearingId ∈ ids arrivals := by
  rw [h.ids_eq, List.mem_eraseDups]

/-- Each arrival finds an entry for its hearing. -/
theorem exists_entry (h : Tells arrivals history) (hr : r ∈ arrivals) :
    ∃ kept ∈ history, kept.hearingId = r.hearingId :=
  List.mem_map.mp (h.mem_ids_iff.mpr (mem_ids hr))

/-- A history tells of one more arrival once it has taken it in. -/
theorem merge (h : Tells arrivals history) (record : HearingRecord) :
    Tells (arrivals ++ [record]) (history.merge record) := by
  refine ⟨nodup_ids_merge h.nodup, ?_, fun kept hkept => ?_⟩
  · rw [ids_merge, ids_append, List.eraseDups_append, ← h.ids_eq]
    by_cases hknown : record.hearingId ∈ ids history
    · simp [hknown, List.removeAll, h.mem_ids_iff.mp hknown]
    · simp [hknown, List.removeAll, mt h.mem_ids_iff.mpr hknown, List.eraseDups_cons]
  · rcases mem_merge h.nodup hkept with ⟨rfl, hhighest⟩ | ⟨hkept, hlower⟩
    · -- the entry that the record replaced was not older than any arrival before it
      refine .concat_self fun r hr hid => ?_
      obtain ⟨entry, hentry, hentryId⟩ := h.exists_entry hr
      exact Int64.le_trans ((h.prevails entry hentry).version_le hr hentryId.symm)
        (hhighest entry hentry (hentryId.trans hid))
    · exact (h.prevails kept hkept).concat hlower

/-- A history tells of all arrivals once it has taken them in. -/
theorem takeIn (h : Tells arrivals history) (records : List HearingRecord) :
    Tells (arrivals ++ records) (history.takeIn records) := by
  induction records generalizing arrivals history with
  | nil =>
    rw [List.append_nil]
    exact h
  | cons record records ih =>
    have hrest := ih (h.merge record)
    rw [List.append_assoc] at hrest
    exact hrest

/-- The entries are exactly the records that prevail. -/
theorem mem_iff (h : Tells arrivals history) : r ∈ history ↔ Prevails r arrivals := by
  refine ⟨h.prevails r, fun hr => ?_⟩
  obtain ⟨kept, hkept, hid⟩ := h.exists_entry hr.mem
  rw [← (h.prevails kept hkept).eq hr hid]
  exact hkept

/-- The entry for a hearing is not older than any arrival for it. -/
theorem exists_newest (h : Tells arrivals history) (hr : r ∈ arrivals) :
    ∃ kept ∈ history, kept.hearingId = r.hearingId ∧ r.version ≤ kept.version := by
  obtain ⟨kept, hkept, hid⟩ := h.exists_entry hr
  exact ⟨kept, hkept, hid, (h.prevails kept hkept).version_le hr hid.symm⟩

/-- A record that is older than an arrival for its hearing changes nothing any more. -/
theorem merge_late (h : Tells arrivals history) (hr : r ∈ arrivals)
    (hid : record.hearingId = r.hearingId) (hlower : record.version < r.version) :
    history.merge record = history := by
  obtain ⟨kept, hkept, hkeptId, hversion⟩ := h.exists_newest hr
  exact merge_eq_self h.nodup hkept (hid.trans hkeptId.symm)
    (.inr (Int64.lt_of_lt_of_le hlower hversion))

/-- Where versions are not tied, a record that has arrived before changes nothing any more. -/
theorem merge_repeated (h : Tells arrivals history) (huntied : Untied arrivals)
    (hr : record ∈ arrivals) : history.merge record = history := by
  obtain ⟨kept, hkept, hid, hversion⟩ := h.exists_newest hr
  refine merge_eq_self h.nodup hkept hid.symm ?_
  by_cases hsame : record.version = kept.version
  · exact .inl (huntied record hr kept (h.prevails kept hkept).mem hid.symm hsame)
  · exact .inr (Int64.lt_of_le_of_ne hversion hsame)

end Tells

/-! ## Any order -/

/-- Where versions are not tied, a record prevails exactly if no arrival for its hearing has a
higher version, wherever it stands. -/
theorem prevails_iff_of_untied (huntied : Untied arrivals) :
    Prevails r arrivals ↔ r ∈ arrivals ∧
      ∀ r' ∈ arrivals, r'.hearingId = r.hearingId → r'.version ≤ r.version := by
  refine ⟨fun h => ⟨h.mem, fun r' => h.version_le⟩, fun ⟨hr, hhighest⟩ => ?_⟩
  have hnone : Tells [] [] := .refl List.nodup_nil
  have htells : Tells arrivals (takeIn [] arrivals) := hnone.takeIn arrivals
  obtain ⟨kept, hkept, hid, hversion⟩ := htells.exists_newest hr
  have hprevails := htells.prevails kept hkept
  have hsame : r.version = kept.version :=
    Int64.le_antisymm hversion (hhighest kept hprevails.mem hid)
  rw [huntied r hr kept hprevails.mem hid.symm hsame]
  exact hprevails

/-- Where versions are not tied, it does not matter in which order records arrive. -/
theorem prevails_perm (huntied : Untied arrivals) (hperm : arrivals.Perm arrivals') :
    Prevails r arrivals ↔ Prevails r arrivals' := by
  have huntied' : Untied arrivals' := fun r hr r' hr' =>
    huntied r (hperm.mem_iff.mpr hr) r' (hperm.mem_iff.mpr hr')
  simp only [prevails_iff_of_untied huntied, prevails_iff_of_untied huntied', hperm.mem_iff]

theorem Tells.perm {history' : HearingHistory} (h : Tells arrivals history)
    (h' : Tells arrivals' history') (huntied : Untied arrivals) (hperm : arrivals.Perm arrivals') :
    history.Perm history' := by
  refine (List.perm_ext_iff_of_nodup (List.Nodup.of_map _ h.nodup)
    (List.Nodup.of_map _ h'.nodup)).mpr fun r => ?_
  rw [h.mem_iff, h'.mem_iff, prevails_perm huntied hperm]

/-- Whatever records come into a history without repeated hearings, one after the other: no hearing
is repeated afterwards, the hearings of the history stay in place, and new ones follow in the order
in which they are first heard of. The entry for a hearing is the record that prevails among the
entries from before and the arrivals after them. A record is news when it arrives exactly if it
changes the history. A record that is older than another one for its hearing changes nothing once
that one has arrived, and no entry is older than any arrival for its hearing. Where no two different
records for a hearing have the same version, the order of arrival does not matter, and a record that
arrives again changes nothing. -/
theorem history_tells_arrivals (h : (ids history).Nodup) :
    (ids (history.takeIn records)).Nodup ∧
    ids (history.takeIn records) =
      ids history ++ ((ids records).filter (· ∉ ids history)).eraseDups ∧
    (∀ r, r ∈ history.takeIn records ↔ Prevails r (history ++ records)) ∧
    (∀ front record back, records = front ++ record :: back →
      (isNews record (history.takeIn front) = true ↔
        history.takeIn (front ++ [record]) ≠ history.takeIn front)) ∧
    (∀ r ∈ history ++ records,
      (∃ kept ∈ history.takeIn records, kept.hearingId = r.hearingId ∧ r.version ≤ kept.version) ∧
      ∀ late, late.hearingId = r.hearingId → late.version < r.version →
        (history.takeIn records).merge late = history.takeIn records) ∧
    (Untied (history ++ records) →
      (∀ records', records.Perm records' →
        (history.takeIn records).Perm (history.takeIn records')) ∧
      ∀ r ∈ history ++ records, (history.takeIn records).merge r = history.takeIn records) := by
  have htells := (Tells.refl h).takeIn records
  refine ⟨htells.nodup, ?places, fun r => htells.mem_iff, ?news, fun r hr => ⟨?newest, ?late⟩,
    fun huntied => ⟨fun records' hperm => ?order, fun r hr => ?repeated⟩⟩
  case places =>
    rw [htells.ids_eq, ids_append, List.eraseDups_append, eraseDups_of_nodup h]
    simp [List.removeAll]
  case news =>
    rintro front record back -
    rw [isNews_iff, takeIn, takeIn, List.foldl_concat]
  case newest => exact htells.exists_newest hr
  case late => exact fun late => htells.merge_late hr
  case order =>
    exact htells.perm ((Tells.refl h).takeIn records') huntied (hperm.append_left history)
  case repeated => exact htells.merge_repeated huntied hr

/-- Two hearings, the second of which has been updated before. -/
def twoHearings : HearingHistory :=
  [⟨"h1", 1, .hearingRequested⟩, ⟨"h2", 3, .listed⟩]

/-- An old record of the second hearing, a new hearing, and two records of the first one, the newer
of which comes first. -/
def disorderedRecords : List HearingRecord :=
  [ ⟨"h2", 2, .updateRequested⟩, ⟨"h3", 1, .hearingRequested⟩, ⟨"h1", 3, .cancelled⟩,
    ⟨"h1", 2, .listed⟩ ]

/-- The newest record of each hearing is left, and the same ones are left in the opposite order. -/
theorem history_tells_arrivals_disordered :
    (ids twoHearings).Nodup ∧ Untied (twoHearings ++ disorderedRecords) ∧
    ids (twoHearings.takeIn disorderedRecords) = ["h1", "h2", "h3"] ∧
    ⟨"h1", 3, .cancelled⟩ ∈ twoHearings.takeIn disorderedRecords ∧
    (twoHearings.takeIn disorderedRecords).Perm
      (twoHearings.takeIn disorderedRecords.reverse) := by
  have hnodup : (ids twoHearings).Nodup := by decide
  have huntied : Untied (twoHearings ++ disorderedRecords) := by
    unfold Untied
    decide
  obtain ⟨-, hids, hentries, -, -, horder⟩ := history_tells_arrivals hnodup
  refine ⟨hnodup, huntied, ?_, ?_, (horder huntied).1 _ (List.reverse_perm _).symm⟩
  · rw [hids]
    decide
  · refine (hentries _).mpr ⟨twoHearings ++ disorderedRecords.take 2, disorderedRecords.drop 3, ?_⟩
    exact ⟨rfl, by decide, by decide⟩

end TribunalListing.HearingHistory
