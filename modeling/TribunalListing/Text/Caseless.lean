-- SUMMARY: Comparison of texts that takes no notice of the case of the letters A to Z.

/-!
# Caseless comparison

Catalogue names are matched without regard to case, but only for the letters `A` to `Z`: any
other letter, accented or not, has to be written as it stands in the catalogue.
-/

namespace TribunalListing.Text

/-- Two texts agree up to the case of the letters `A` to `Z`. -/
def sameCaseless (s t : String) : Bool :=
  s.toList.map Char.toLower == t.toList.map Char.toLower

end TribunalListing.Text
