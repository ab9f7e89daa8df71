-- SUMMARY: The text of a date is read back as the date.
import TribunalListing.Json.Wire
import TribunalListing.Proofs.Text.Numeral

/-!
# Texts of dates

Every date of the calendar can be told by its text. The sign of the year comes first and is there
only for years before year zero, so that a text without a sign starts with a digit; year, month and
day have their fixed widths, which are wide enough for all of them.
-/

namespace TribunalListing

theorem daysInMonth_le (year : Int) (month : Nat) : daysInMonth year month ≤ 31 := by
  unfold daysInMonth
  split
  · split <;> decide
  all_goals decide

namespace Date

/-- A date is found again by its year, month and day. -/
theorem of?_self (d : Date) : of? d.year d.month d.day = some d :=
  dif_pos d.isCalendarDay

/-- The numbers of a date, with the sign of its year set apart. -/
theorem signed_natAbs_year (d : Date) :
    (if d.year < 0 then -(d.year.natAbs : Int) else d.year.natAbs) = d.year := by
  split <;> omega

/-- The digits of year, month and day are read as the date, once the sign of the year is known. -/
theorem takeUnsigned_digits (d : Date) :
    takeUnsigned (d.year < 0) (Text.fixedDigits 4 d.year.natAbs ++
      '-' :: (Text.fixedDigits 2 d.month ++ '-' :: (Text.fixedDigits 2 d.day ++ []))) =
      some (d, []) := by
  obtain ⟨hlow, hhigh, -, hmonth, -, hday⟩ := d.isCalendarDay
  have hbound := daysInMonth_le d.year d.month
  have hyears (rest : List Char) := Text.takeDigits_fixedDigits_append
    (show 0 < 4 by decide) (show d.year.natAbs < 10 ^ 4 by omega) rest
  have hmonths (rest : List Char) := Text.takeDigits_fixedDigits_append
    (show 0 < 2 by decide) (show d.month < 10 ^ 2 by omega) rest
  have hdays (rest : List Char) := Text.takeDigits_fixedDigits_append
    (show 0 < 2 by decide) (show d.day < 10 ^ 2 by omega) rest
  simp only [takeUnsigned, hyears, hmonths, hdays, Option.bind_eq_bind, Option.bind_some,
    decide_eq_true_eq, signed_natAbs_year, of?_self]
  rfl

/-- A text whose first character is a digit has no sign. -/
theorem takeSigned_digit {k : Nat} (hk : k < 10) (cs : List Char) :
    takeSigned (Nat.digitChar k :: cs) = takeUnsigned false (Nat.digitChar k :: cs) := by
  have hsign : Nat.digitChar k ≠ '-' ∧ Nat.digitChar k ≠ '+' := by
    revert k
    decide
  unfold takeSigned
  split
  next h => exact absurd (List.cons.inj h).1 hsign.1
  next h => exact absurd (List.cons.inj h).1 hsign.2
  next => rfl

/-- The text of a date is read as that date. -/
theorem ofText?_text (d : Date) : ofText? d.text = some d := by
  have hsigned : takeSigned d.chars = some (d, []) := by
    rw [← takeUnsigned_digits d, chars]
    by_cases hnegative : d.year < 0
    · simp [hnegative, takeSigned]
    · have hyear : Text.fixedDigits 4 d.year.natAbs =
          Nat.digitChar (d.year.natAbs / 10 / 10 / 10 % 10) ::
            (Text.fixedDigits 4 d.year.natAbs).tail := rfl
      have hfirst : d.year.natAbs / 10 / 10 / 10 % 10 < 10 := Nat.mod_lt _ (by decide)
      rw [hyear]
      simp [hnegative, takeSigned_digit hfirst]
  rw [ofText?, text, String.toList_ofList, hsigned]

end Date

instance : LawfulWire Date where
  decode_encode d := d.ofText?_text
  encode_ne_null _ h := by cases h

end TribunalListing
