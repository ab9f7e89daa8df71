-- SUMMARY: A number that is written in decimal digits is read back, as a numeral, at a fixed width and as a party id.
import Mathlib.Algebra.Group.Nat.Defs
import TribunalListing.Case.Identity

/-!
# Numbers as party ids

Ids are handed out as decimal numbers and counted by reading them again. So everything about fresh
ids rests on one fact: the decimal text of a number that is within the limit denotes that number. It
follows that different numbers make different ids, and that no id made from a number is blank.
Numerals of a fixed width, as dates have them, are read back too.
-/

namespace TribunalListing

namespace Text

/-! ## Reading digits -/

theorem digitValue?_digitChar {d : Nat} (h : d < 10) : digitValue? (Nat.digitChar d) = some d := by
  revert d
  decide

theorem readDigitsOnto_append (value : Nat) (cs ds : List Char) :
    readDigitsOnto value (cs ++ ds) =
      (readDigitsOnto value cs).bind (readDigitsOnto · ds) := by
  induction cs generalizing value with
  | nil => rfl
  | cons c cs ih =>
    simp only [List.cons_append, readDigitsOnto]
    cases digitValue? c with
    | none => rfl
    | some d => exact ih _

/-- The digits of a number are read as that number: the last digit comes off the end. -/
theorem readDigitsOnto_toDigits (n : Nat) : readDigitsOnto 0 (Nat.toDigits 10 n) = some n := by
  induction n using Nat.strongRecOn with
  | ind n ih =>
    by_cases hn : n < 10
    · rw [Nat.toDigits_of_lt_base hn]
      simp [readDigitsOnto, digitValue?_digitChar hn]
    · have hlast : n % 10 < 10 := Nat.mod_lt n (by decide)
      rw [Nat.toDigits_of_base_le (by decide) (by omega), readDigitsOnto_append,
        ih (n / 10) (by omega)]
      simp only [Option.bind_some, readDigitsOnto, digitValue?_digitChar hlast]
      congr 1
      omega

theorem isDigit_of_mem_toString {n : Nat} {c : Char} (h : c ∈ (toString n).toList) :
    c.isDigit = true := by
  rw [Nat.toString_eq_repr, Nat.toList_repr] at h
  exact Nat.isDigit_of_mem_toDigits (by decide) (by decide) h

theorem readNatural_toString {limit n : Nat} (h : n ≤ limit) :
    readNatural limit (toString n) = some n := by
  have hplus : dropPlus (toString n).toList = Nat.toDigits 10 n := by
    rw [Nat.toString_eq_repr, Nat.toList_repr]
    have hdigits : ∀ c ∈ Nat.toDigits 10 n, c.isDigit = true := fun c hc =>
      Nat.isDigit_of_mem_toDigits (by decide) (by decide) hc
    unfold dropPlus
    split
    next cs hcs => exact absurd (hdigits '+' (by simp [hcs])) (by decide)
    next => rfl
  have hread : readDigits (Nat.toDigits 10 n) = some n := by
    have hne : Nat.toDigits 10 n ≠ [] := Nat.toDigits_ne_nil
    unfold readDigits
    split
    next hnil => exact absurd hnil hne
    next => exact readDigitsOnto_toDigits n
  rw [readNatural, hplus, hread]
  simp [h]

/-- Different numbers are written differently. -/
theorem toString_nat_injective {m n : Nat} (h : toString m = toString n) : m = n := by
  have hm := readNatural_toString (Nat.le_max_left m n)
  rw [h, readNatural_toString (Nat.le_max_right m n)] at hm
  exact (Option.some.inj hm).symm

/-- Different numbers are written differently with a sign, too. -/
theorem toString_int_injective {m n : Int} (h : toString m = toString n) : m = n := by
  -- a minus sign is no digit, so both numbers are negative or neither is
  have hsign : ∀ j k : Nat, j.repr ≠ "-" ++ k.repr := by
    intro j k hjk
    have hminus : '-' ∈ (toString j).toList := by
      rw [Nat.toString_eq_repr, hjk]
      simp
    exact absurd (isDigit_of_mem_toString hminus) (by decide)
  rw [Int.toString_eq_repr, Int.toString_eq_repr, Int.repr_eq_if, Int.repr_eq_if] at h
  split at h <;> split at h
  · have hnat : m.toNat = n.toNat := toString_nat_injective h
    omega
  · exact absurd h (hsign _ _)
  · exact absurd h.symm (hsign _ _)
  · have hnat : (-m).toNat = (-n).toNat :=
      toString_nat_injective ((String.append_right_inj "-").mp h)
    omega

/-! ## Numerals of fixed width -/

theorem length_fixedDigits (width n : Nat) : (fixedDigits width n).length = width := by
  induction width generalizing n with
  | zero => rfl
  | succ width ih => simp [fixedDigits, ih]

/-- The last digits of a number are read as what is left of it. -/
theorem readDigitsOnto_fixedDigits (width n : Nat) :
    readDigitsOnto 0 (fixedDigits width n) = some (n % 10 ^ width) := by
  induction width generalizing n with
  | zero => simp [fixedDigits, readDigitsOnto, Nat.mod_one]
  | succ width ih =>
    have hlast : n % 10 < 10 := Nat.mod_lt n (by decide)
    have hsplit : 10 * (n / 10 % 10 ^ width) + n % 10 = n % 10 ^ (width + 1) := by
      rw [Nat.pow_succ', Nat.mod_mul, Nat.add_comm]
    simp [fixedDigits, readDigitsOnto_append, ih, readDigitsOnto, digitValue?_digitChar hlast,
      hsplit]

/-- A number of so many digits comes off the front of a text as it was put there. -/
theorem takeDigits_fixedDigits_append {width n : Nat} (hwidth : 0 < width) (hn : n < 10 ^ width)
    (rest : List Char) : takeDigits width (fixedDigits width n ++ rest) = some (n, rest) := by
  have hread : readDigits (fixedDigits width n) = some n := by
    have hlength := length_fixedDigits width n
    have honto := readDigitsOnto_fixedDigits width n
    rw [Nat.mod_eq_of_lt hn] at honto
    cases hdigits : fixedDigits width n with
    | nil =>
      rw [hdigits, List.length_nil] at hlength
      omega
    | cons c cs => rwa [hdigits] at honto
  have htake : (fixedDigits width n ++ rest).take width = fixedDigits width n :=
    List.take_left' (length_fixedDigits width n)
  have hdrop : (fixedDigits width n ++ rest).drop width = rest :=
    List.drop_left' (length_fixedDigits width n)
  rw [takeDigits, htake, hdrop, if_pos (length_fixedDigits width n), hread]
  rfl

/-! ## Trimming -/

theorem trimLeft_of_not_isSpace {cs : List Char} (h : ∀ c ∈ cs, isSpace c = false) :
    trimLeft cs = cs := by
  cases cs with
  | nil => rfl
  | cons c cs => simp [trimLeft, h c (by simp)]

/-- Trimming changes nothing where no character is white space. -/
theorem trim_of_not_isSpace {s : String} (h : ∀ c ∈ s.toList, isSpace c = false) : trim s = s := by
  have hreverse : ∀ c ∈ s.toList.reverse, isSpace c = false := fun c hc =>
    h c (List.mem_reverse.mp hc)
  rw [trim, trimChars, trimLeft_of_not_isSpace h, trimLeft_of_not_isSpace hreverse,
    List.reverse_reverse, String.ofList_toList]

/-- The start of something trimmed has no white space in front. -/
theorem trimLeft_of_isPrefix {cs start : List Char} (h : start <+: trimLeft cs) :
    trimLeft start = start := by
  obtain ⟨rest, hrest⟩ := h
  cases start with
  | nil => rfl
  | cons c start =>
    have hc := List.head?_dropWhile_not isSpace cs
    rw [← trimLeft, ← hrest] at hc
    simp only [List.cons_append, List.head?_cons] at hc
    simp [trimLeft, hc]

/-- Trimming twice is trimming once. -/
@[simp] theorem trim_trim (s : String) : trim (trim s) = trim s := by
  have hback : (trimLeft (trimLeft s.toList).reverse).reverse <+: trimLeft s.toList := by
    rw [← List.reverse_suffix, List.reverse_reverse]
    exact List.dropWhile_suffix _
  have hfront := trimLeft_of_isPrefix hback
  have hend := trimLeft_of_isPrefix (List.prefix_refl (trimLeft (trimLeft s.toList).reverse))
  simp only [trim, String.toList_ofList, trimChars]
  rw [hfront, List.reverse_reverse, hend]

theorem isSpace_of_isDigit {c : Char} (h : c.isDigit = true) : isSpace c = false := by
  have hlow : 48 ≤ c.toNat := by
    simp only [Char.isDigit, Bool.and_eq_true, decide_eq_true_eq] at h
    exact UInt32.le_iff_toNat_le.mp h.1
  have hhigh : c.toNat ≤ 57 := by
    simp only [Char.isDigit, Bool.and_eq_true, decide_eq_true_eq] at h
    exact UInt32.le_iff_toNat_le.mp h.2
  simp only [isSpace, Bool.or_eq_false_iff, Bool.and_eq_false_iff, decide_eq_false_iff_not,
    beq_eq_false_iff_ne, ne_eq]
  omega

end Text

/-! ## Party ids -/

theorem partyNumber?_toString {n : Nat} (h : n ≤ maxPartyNumber) :
    partyNumber? (toString n) = some n := by
  rw [partyNumber?, Text.trim_of_not_isSpace fun c hc =>
    Text.isSpace_of_isDigit (Text.isDigit_of_mem_toString hc)]
  exact Text.readNatural_toString h

@[simp] theorem partyNumber?_trim (id : String) :
    partyNumber? (Text.trim id) = partyNumber? id := by
  rw [partyNumber?, Text.trim_trim, partyNumber?]

/-- A numeric id is not blank. -/
theorem isBlank_of_partyNumber? {id : String} {n : Nat} (h : partyNumber? id = some n) :
    Text.isBlank id = false := by
  cases hblank : Text.isBlank id with
  | false => rfl
  | true =>
    rw [partyNumber?, Text.trim_eq_empty_iff.mpr hblank] at h
    cases h

end TribunalListing
