-- SUMMARY: The text of a hearing history tells it apart from the history after a record has come in.
import Mathlib.Data.List.Basic
import TribunalListing.Audit
import TribunalListing.Proofs.Hearing.History
import TribunalListing.Proofs.Text.Numeral

/-!
# Texts of histories

The text of a history joins entries `id@version:STATUS` with semicolons. An id may contain any of
these separators, so different histories can have the same text. A history and what becomes of it
when a record comes in never do, unless they are the same: they differ in one entry, which is either
new or stands for the same hearing as before, and the rest of the text is equal.
-/

namespace TribunalListing

/-! ## Entries -/

/-- The text of a number has no colon in it. -/
theorem colon_notMem_toString (n : Int) : ':' ∉ (toString n).toList := by
  have hdigits : ∀ m : Nat, ':' ∉ m.repr.toList := fun m hm =>
    absurd (Text.isDigit_of_mem_toString hm) (by decide)
  rw [Int.toString_eq_repr, Int.repr_eq_if]
  split
  next => exact hdigits _
  next =>
    rw [String.toList_append, List.mem_append]
    exact not_or_intro (by decide) (hdigits _)

theorem HearingStatus.ofCode?_code (s : HearingStatus) : Vocabulary.ofCode? s.code = some s := by
  cases s <;> rfl

theorem HearingStatus.code_injective {s s' : HearingStatus} (h : s.code = s'.code) : s = s' := by
  have hread := ofCode?_code s
  rw [h, ofCode?_code s'] at hread
  exact (Option.some.inj hread).symm

theorem HearingStatus.colon_notMem_code (s : HearingStatus) : ':' ∉ s.code.toList := by
  cases s <;> decide

namespace HearingRecord

/-- What the text of a history has for one record. -/
def entry (r : HearingRecord) : String :=
  r.hearingId ++ "@" ++ toString r.version.toInt ++ ":" ++ r.status.code

theorem entry_ne_empty (r : HearingRecord) : r.entry ≠ "" := by
  simp [entry]

/-- Two records of one hearing are the same if their entries are. -/
theorem eq_of_entry_eq {r r' : HearingRecord} (hid : r.hearingId = r'.hearingId)
    (h : r.entry = r'.entry) : r = r' := by
  obtain ⟨id, version, status⟩ := r
  obtain ⟨id', version', status'⟩ := r'
  obtain rfl : id = id' := hid
  simp only [entry, String.append_assoc, String.append_right_inj] at h
  have hchars : (toString version.toInt).toList ++ ':' :: status.code.toList =
      (toString version'.toInt).toList ++ ':' :: status'.code.toList := by
    simpa using congrArg String.toList h
  -- the last colon of an entry is the only one after the id
  obtain ⟨hversion, -, hstatus⟩ := (List.append_cons_inj_of_notMem
    (colon_notMem_toString version.toInt) (HearingStatus.colon_notMem_code status)).mp hchars
  have hint : version.toInt = version'.toInt :=
    Text.toString_int_injective (String.toList_inj.mp hversion)
  rw [HearingStatus.code_injective (String.toList_inj.mp hstatus), Int64.toInt_inj.mp hint]

end HearingRecord

/-! ## Histories -/

namespace HearingHistory

variable {record kept : HearingRecord} {rest history : HearingHistory}

@[simp] theorem text_nil : text [] = "" := rfl

@[simp] theorem text_singleton (r : HearingRecord) : text [r] = r.entry :=
  String.intercalate_singleton

theorem text_cons (r : HearingRecord) (hne : rest ≠ []) :
    text (r :: rest) = r.entry ++ ";" ++ text rest := by
  have hmap : rest.map (fun r => s!"{r.hearingId}@{r.version.toInt}:{r.status.code}") ≠ [] := by
    simpa using hne
  rw [text, List.map_cons, String.intercalate_cons_of_ne_nil hmap]
  rfl

theorem merge_ne_nil (record : HearingRecord) (history : HearingHistory) :
    history.merge record ≠ [] := by
  cases history with
  | nil => simp [merge]
  | cons kept rest =>
    simp only [merge]
    split
    next => split <;> simp
    next => simp

/-- The first entry of a text is determined by the rest. -/
theorem entry_eq_of_text_eq (h : text (record :: rest) = text (kept :: rest)) :
    record.entry = kept.entry := by
  by_cases hnil : rest = []
  · subst hnil
    simpa using h
  · simpa [text_cons _ hnil, String.append_left_inj] using h

/-- A record that comes in changes the text of a history exactly if it changes the history. -/
theorem text_merge_eq_iff : text (history.merge record) = text history ↔
    history.merge record = history := by
  refine ⟨fun h => ?_, congrArg text⟩
  induction history with
  | nil =>
    simp only [merge, text_singleton, text_nil] at h
    exact absurd h record.entry_ne_empty
  | cons kept rest ih =>
    simp only [merge] at h ⊢
    split
    next hid =>
      split
      next => rfl
      next hlower =>
        simp only [hid, if_true, hlower, if_false] at h
        rw [HearingRecord.eq_of_entry_eq hid.symm (entry_eq_of_text_eq h)]
    next hid =>
      simp only [hid, if_false] at h
      rw [text_cons _ (merge_ne_nil record rest)] at h
      by_cases hnil : rest = []
      · -- a text cannot be longer than itself
        subst hnil
        rw [text_singleton, String.append_assoc, String.append_eq_left_iff,
          String.append_eq_empty_iff] at h
        exact absurd h.1 (by decide)
      · rw [text_cons _ hnil, String.append_right_inj] at h
        rw [ih h]

end HearingHistory

/-- So does the text that an audit event keeps. -/
theorem HistoryText.of_merge_eq_iff {record : HearingRecord} {history : HearingHistory} :
    HistoryText.of (history.merge record) = HistoryText.of history ↔
      history.merge record = history := by
  rw [← HearingHistory.text_merge_eq_iff]
  exact HistoryText.mk.injEq _ _ ▸ Iff.rfl

end TribunalListing
