-- SUMMARY: Decimal numerals with a limit, as they are read from ids and from arguments.

/-!
# Numerals

A numeral is a run of the digits `0` to `9`, with leading zeros allowed. The readers here take a
whole text or nothing, and take no number above a given limit.
-/

namespace TribunalListing.Text

/-! ## Digits -/

/-- The value of one of the digits `0` to `9`. -/
def digitValue? (c : Char) : Option Nat :=
  if '0' ≤ c ∧ c ≤ '9' then some (c.toNat - '0'.toNat) else none

/-- Reads digits onto a number that stands to their left. -/
def readDigitsOnto (value : Nat) : List Char → Option Nat
  | [] => some value
  | c :: cs =>
    match digitValue? c with
    | some d => readDigitsOnto (10 * value + d) cs
    | none => none

/-- The number that a non-empty run of digits denotes. -/
def readDigits : List Char → Option Nat
  | [] => none
  | cs => readDigitsOnto 0 cs

/-! ## Numerals with a limit -/

/-- The characters after a single leading plus sign, if there is one. -/
def dropPlus : List Char → List Char
  | '+' :: cs => cs
  | cs => cs

/-- Reads an unsigned numeral of at most `limit`; one leading plus sign is allowed. -/
def readNatural (limit : Nat) (s : String) : Option Nat :=
  (readDigits (dropPlus s.toList)).filter (· ≤ limit)

/-- Reads a signed numeral that denotes a number from zero to `limit`, so a minus sign is allowed
before zero alone. -/
def readSignedNatural (limit : Nat) (s : String) : Option Nat :=
  match s.toList with
  | '-' :: cs => (readDigits cs).filter (· = 0)
  | _ => readNatural limit s

/-! ## Numerals of fixed width -/

/-- The last `width` decimal digits of a number, padded on the left with zeros. -/
def fixedDigits : Nat → Nat → List Char
  | 0, _ => []
  | width + 1, n => fixedDigits width (n / 10) ++ [Nat.digitChar (n % 10)]

/-- Takes exactly `width` digits off the front of a text and returns their number and the rest. -/
def takeDigits (width : Nat) (cs : List Char) : Option (Nat × List Char) :=
  if (cs.take width).length = width then
    (readDigits (cs.take width)).map (·, cs.drop width)
  else none

end TribunalListing.Text
