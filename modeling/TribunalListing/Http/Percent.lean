-- SUMMARY: Percent encoding of texts, and form encoding of query values.
import TribunalListing.Json.Reader

/-!
# Percent encoding

A byte that cannot stand in a URL as it is stands there as a percent sign and two hexadecimal
digits. Texts are taken as their UTF-8 bytes.
-/

namespace TribunalListing.Http

/-! ## Encoding -/

def upperHexDigit (n : Nat) : Char :=
  (Nat.digitChar n).toUpper

/-- A byte as a percent sign and two digits. -/
def percentByte (b : UInt8) : List Char :=
  ['%', upperHexDigit (b.toNat / 16), upperHexDigit (b.toNat % 16)]

/-- A character with all of its bytes encoded. -/
def percentChar (c : Char) : List Char :=
  c.toString.toUTF8.toList.flatMap percentByte

/-- A text with the characters of a set encoded; characters outside ASCII always are. -/
def percentEncode (encoded : Char → Bool) (cs : List Char) : List Char :=
  cs.flatMap fun c => if encoded c || 0x80 ≤ c.toNat then percentChar c else [c]

/-- A query value as a form writes it: space is plus; letters, digits and four marks stand. -/
def formEncode (s : String) : String :=
  String.ofList <| s.toList.flatMap fun c =>
    if c = ' ' then ['+']
    else if c.isAlphanum || c = '*' || c = '-' || c = '.' || c = '_' then [c]
    else percentChar c

/-! ## Decoding -/

/-- The bytes of a text with its percent signs resolved. A percent sign without two digits after it
stands for itself. -/
def percentBytes : List Char → List UInt8
  | [] => []
  | '%' :: a :: b :: cs =>
    match Json.hexValue? a, Json.hexValue? b with
    | some x, some y => UInt8.ofNat (16 * x + y) :: percentBytes cs
    | _, _ => 0x25 :: percentBytes (a :: b :: cs)
  | c :: cs => c.toString.toUTF8.toList ++ percentBytes cs

/-- The text with its percent signs resolved, if the bytes are UTF-8. -/
def percentDecode? (s : String) : Option String :=
  String.fromUTF8? ⟨(percentBytes s.toList).toArray⟩

end TribunalListing.Http
