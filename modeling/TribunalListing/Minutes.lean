-- SUMMARY: Durations in whole minutes, with arithmetic that stops at the largest one.
import TribunalListing.Json.Wire

/-!
# Minutes

Durations are whole minutes in 32 bits. Sums and products that would not fit stop at the largest
duration instead of wrapping around.
-/

namespace TribunalListing

abbrev Minutes := UInt32

namespace Minutes

/-- The largest duration, in minutes. -/
def maximum : Nat := 4294967295

/-- A number of minutes, or the largest duration where the number is greater. -/
def capped (n : Nat) : Minutes :=
  UInt32.ofNat (min n maximum)

def plus (a b : Minutes) : Minutes :=
  capped (a.toNat + b.toNat)

/-- A multiple of a duration, stopping at the largest. -/
def times (factor : Nat) (a : Minutes) : Minutes :=
  capped (a.toNat * factor)

theorem toNat_capped (n : Nat) : (capped n).toNat = min n maximum := by
  have h : min n maximum < 4294967296 := by
    have : maximum < 4294967296 := by decide
    omega
  simp only [capped, UInt32.toNat_ofNat']
  exact Nat.mod_eq_of_lt h

theorem toNat_plus (a b : Minutes) : (plus a b).toNat = min (a.toNat + b.toNat) maximum :=
  toNat_capped _

end Minutes

end TribunalListing
