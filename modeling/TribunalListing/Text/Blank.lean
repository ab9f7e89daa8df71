-- SUMMARY: White space in the Unicode sense, trimming, and blank texts.

/-!
# Blank text

Case data is typed by hand, so every comparison against "nothing was written" goes through
white space in the Unicode sense. `trim` cuts white space off both ends; a text is blank when
nothing is left of it.
-/

namespace TribunalListing.Text

/-! ## White space -/

/-- The code points with the Unicode property `White_Space`. Zero-width characters and the
separators `U+001C` to `U+001F` are not among them. -/
def isSpace (c : Char) : Bool :=
  let n := c.toNat
  (0x09 ≤ n && n ≤ 0x0D) || n == 0x20 || n == 0x85 || n == 0xA0 || n == 0x1680 ||
    (0x2000 ≤ n && n ≤ 0x200A) || n == 0x2028 || n == 0x2029 || n == 0x202F || n == 0x205F ||
    n == 0x3000

/-- Cuts white space off the front of a list of characters. -/
def trimLeft (cs : List Char) : List Char :=
  cs.dropWhile isSpace

/-- Cuts white space off both ends of a list of characters. -/
def trimChars (cs : List Char) : List Char :=
  (trimLeft (trimLeft cs).reverse).reverse

/-- The text without the white space at its ends. -/
def trim (s : String) : String :=
  String.ofList (trimChars s.toList)

/-- A text is blank when all of it is white space. -/
def isBlank (s : String) : Bool :=
  s.toList.all isSpace

/-- A value is written when it is present and not blank. -/
def written : Option String → Option String
  | some s => if isBlank s then none else some s
  | none => none

/-- Nothing is written: the value is absent or blank. -/
def unwritten (value : Option String) : Bool :=
  (written value).isNone

/-! ## Laws -/

theorem trimLeft_eq_nil_iff {cs : List Char} :
    trimLeft cs = [] ↔ cs.all isSpace = true := by
  induction cs with
  | nil => simp [trimLeft]
  | cons c cs ih =>
    by_cases hc : isSpace c = true
    · rw [trimLeft, List.dropWhile_cons_of_pos hc, ← trimLeft, ih, List.all_cons, hc,
        Bool.true_and]
    · simp [trimLeft, hc]

theorem all_isSpace_trimLeft {cs : List Char} :
    (trimLeft cs).all isSpace = cs.all isSpace := by
  induction cs with
  | nil => rfl
  | cons c cs ih =>
    by_cases hc : isSpace c = true
    · simpa [trimLeft, List.dropWhile_cons, hc] using ih
    · simp [trimLeft, hc]

theorem trimChars_eq_nil_iff {cs : List Char} :
    trimChars cs = [] ↔ cs.all isSpace = true := by
  rw [trimChars, List.reverse_eq_nil_iff, trimLeft_eq_nil_iff, List.all_reverse,
    all_isSpace_trimLeft]

/-- Trimming leaves nothing exactly of a blank text. -/
theorem trim_eq_empty_iff {s : String} : trim s = "" ↔ isBlank s = true := by
  rw [trim, isBlank, ← trimChars_eq_nil_iff]
  constructor
  · intro h
    have := congrArg String.toList h
    simpa using this
  · intro h
    simp [h]

@[simp] theorem written_none : written none = none := rfl

theorem written_some {s : String} :
    written (some s) = if isBlank s then none else some s := rfl

theorem written_eq_some_iff {value : Option String} {s : String} :
    written value = some s ↔ value = some s ∧ isBlank s = false := by
  cases value with
  | none => simp
  | some t =>
    rw [written_some]
    split <;> rename_i h
    · constructor
      · intro hn
        cases hn
      · rintro ⟨ht, hb⟩
        cases ht
        simp [h] at hb
    · constructor
      · intro ht
        cases ht
        exact ⟨rfl, by simpa using h⟩
      · rintro ⟨ht, _⟩
        exact ht

theorem written_written (value : Option String) : written (written value) = written value := by
  cases hvalue : written value with
  | none => rfl
  | some s => rw [written_some, (written_eq_some_iff.mp hvalue).2, if_neg Bool.false_ne_true]

/-- What is written comes before what stands in for it. -/
theorem written_or (value other : Option String) :
    written ((written value).or other) = (written value).or (written other) := by
  cases hvalue : written value with
  | none => rfl
  | some s => rw [Option.some_or, Option.some_or, ← hvalue, written_written]

end TribunalListing.Text
