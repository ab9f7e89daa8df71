-- SUMMARY: A record that comes in changes a hearing history exactly if it is news, and a history only grows by it.
import TribunalListing.Hearing.History

/-!
# Growing histories

Taking in a record never takes anything away: every hearing keeps its place in the history, at the
same version or a higher one. Where the record brings nothing new, the history stays as it is.
-/

namespace TribunalListing.HearingHistory

variable {record : HearingRecord} {before after : HearingHistory}

/-! ## News -/

theorem isNews_cons {kept : HearingRecord} {rest : HearingHistory} :
    isNews record (kept :: rest) =
      if kept.hearingId = record.hearingId then kept ≠ record && !(record.version < kept.version)
      else isNews record rest := by
  unfold isNews
  rw [List.find?_cons]
  by_cases hid : kept.hearingId = record.hearingId
  · simp [hid]
  · simp [hid]

/-- A record is news exactly if taking it in changes the history. -/
theorem isNews_iff {history : HearingHistory} :
    isNews record history = true ↔ history.merge record ≠ history := by
  induction history with
  | nil => simp [isNews, merge]
  | cons kept rest ih =>
    rw [isNews_cons, merge]
    by_cases hid : kept.hearingId = record.hearingId
    · by_cases hlower : record.version < kept.version
      · simp [hid, hlower]
      · rw [if_pos hid, if_pos hid, if_neg hlower]
        simp only [hlower, decide_false, Bool.not_false, Bool.and_true, decide_eq_true_eq, ne_eq,
          List.cons.injEq, and_true]
        exact not_congr eq_comm
    · simp [hid, ih]

/-! ## Growing -/

/-- Every record of the first history has kept its place in the second one, for the same hearing and
at a version that is no lower. What follows in the second one is new. -/
inductive Grows : HearingHistory → HearingHistory → Prop where
  | nil (after : HearingHistory) : Grows [] after
  | cons {kept now : HearingRecord} {before after : HearingHistory}
      (hearingId : now.hearingId = kept.hearingId) (version : kept.version ≤ now.version) :
      Grows before after → Grows (kept :: before) (now :: after)

/-- The version that a history has for a hearing. -/
def versionOf? (history : HearingHistory) (hearingId : String) : Option Int64 :=
  (history.find? (·.hearingId = hearingId)).map (·.version)

namespace Grows

theorem refl (history : HearingHistory) : Grows history history := by
  induction history with
  | nil => exact .nil []
  | cons kept rest ih => exact .cons rfl (Int64.le_refl _) ih

theorem trans {between : HearingHistory} (h : Grows before between) (h' : Grows between after) :
    Grows before after := by
  induction h generalizing after with
  | nil => exact .nil after
  | cons hid hversion _ ih =>
    cases h' with
    | cons hid' hversion' h' =>
      exact .cons (hid'.trans hid) (Int64.le_trans hversion hversion') (ih h')

/-- The version of a hearing never goes down: its first record stays the first one. -/
theorem le_versionOf? (h : Grows before after) {hearingId : String} {version : Int64}
    (hversion : before.versionOf? hearingId = some version) :
    ∃ later, after.versionOf? hearingId = some later ∧ version ≤ later := by
  induction h with
  | nil => cases hversion
  | @cons kept now before after hid hle h ih =>
    rw [versionOf?, List.find?_cons] at hversion ⊢
    rw [hid]
    by_cases hfirst : kept.hearingId = hearingId
    · simp only [hfirst, decide_true, Option.map_some, Option.some.injEq] at hversion ⊢
      subst hversion
      exact ⟨now.version, rfl, hle⟩
    · simp only [hfirst, decide_false] at hversion ⊢
      exact ih hversion

end Grows

/-- A history grows by taking in a record. -/
theorem grows_merge (history : HearingHistory) : Grows history (history.merge record) := by
  induction history with
  | nil => exact .nil _
  | cons kept rest ih =>
    rw [merge]
    split
    next hid =>
      split
      next => exact .refl _
      next hlower => exact .cons hid.symm (Int64.not_lt.mp hlower) (.refl rest)
    next => exact .cons rfl (Int64.le_refl _) ih

/-! ## What a merge leaves -/

/-- Once a record has come in, the first record for its hearing is the record itself, or one of a
higher version that was there before. -/
theorem find?_merge (record : HearingRecord) (history : HearingHistory) :
    ∃ kept, (history.merge record).find? (·.hearingId = record.hearingId) = some kept ∧
      (kept = record ∨ record.version < kept.version) := by
  induction history with
  | nil => exact ⟨record, by simp [merge], .inl rfl⟩
  | cons kept rest ih =>
    simp only [merge]
    split
    next hid =>
      split
      next hlower => exact ⟨kept, by simp [hid], .inr hlower⟩
      next => exact ⟨record, by simp, .inl rfl⟩
    next hid => simpa [hid] using ih

/-- Taking in a record for the second time changes nothing. -/
theorem merge_merge (record : HearingRecord) (history : HearingHistory) :
    (history.merge record).merge record = history.merge record := by
  induction history with
  | nil => simp [merge, Int64.lt_irrefl]
  | cons kept rest ih =>
    simp only [merge]
    split
    next hid =>
      split
      next hlower => simp [merge, hid, hlower]
      next => simp [merge, Int64.lt_irrefl]
    next hid => simp [merge, hid, ih]

end TribunalListing.HearingHistory
