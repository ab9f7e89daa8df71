-- SUMMARY: How values of a type stand in JSON: the encoding, the decoding, and the rules for the members of a record.
import TribunalListing.Calendar.Date
import TribunalListing.Json.Value

/-!
# Values on the wire

`Wire α` says how a value of type `α` is written as JSON and which JSON is read as one. A record
is written as an object and read by its keys. A key must not stand twice, keys that the record does
not know are passed over, and there are three ways to treat a key that is absent: `required`,
`optional` (absent and null are both none) and `withDefault` (absent is the default, null is not).
For a record `X`, `X.members` is what a value is written as, and `X.ofMembers?` reads it.

More is read than is ever written. An array is read as the record whose values it lists, and an
object whose only member is null as the term of a vocabulary that its key stands for.
-/

namespace TribunalListing

/-- A type whose values cross the wire. -/
class Wire (α : Type) where
  /-- The JSON that a value is written as. -/
  encode : α → Json
  /-- The value that a piece of JSON is read as, if it has the right shape. -/
  decode : Json → Option α

export Wire (encode decode)

/-- What is written can be read back, and is never mistaken for nothing. -/
class LawfulWire (α : Type) [Wire α] : Prop where
  decode_encode : ∀ a : α, decode (encode a) = some a
  encode_ne_null : ∀ a : α, encode a ≠ Json.null

attribute [simp] LawfulWire.decode_encode LawfulWire.encode_ne_null

/-! ## Plain values -/

instance : Wire String where
  encode := .string
  decode
    | .string s => some s
    | _ => none

instance : Wire Bool where
  encode := .bool
  decode
    | .bool b => some b
    | _ => none

instance : Wire UInt32 where
  encode n := .integer n.toNat
  decode
    | .integer n => if 0 ≤ n ∧ n < 4294967296 then some (UInt32.ofNat n.toNat) else none
    | _ => none

instance : Wire Int64 where
  encode n := .integer n.toInt
  decode
    | .integer n =>
      if -9223372036854775808 ≤ n ∧ n ≤ 9223372036854775807 then some (Int64.ofInt n) else none
    | _ => none

instance : Wire Date where
  encode d := .string d.text
  decode
    | .string s => Date.ofText? s
    | _ => none

/-- Decodes every item, or none if one has the wrong shape. -/
def decodeItems {α : Type} [Wire α] : List Json → Option (List α)
  | [] => some []
  | j :: js => do
    let a ← decode j
    let rest ← decodeItems js
    return a :: rest

instance {α : Type} [Wire α] : Wire (List α) where
  encode as := .array (as.map encode)
  decode
    | .array items => decodeItems items
    | _ => none

/-- An optional value is written as null when it is absent. -/
def encodeOption {α : Type} [Wire α] : Option α → Json
  | some a => encode a
  | none => .null

/-- Null is read as no value. -/
def decodeOption {α : Type} [Wire α] : Json → Option (Option α)
  | .null => some none
  | j => (decode j).map some

/-! ## Closed vocabularies -/

/-- A closed vocabulary: finitely many terms, each written as a code of its own. -/
class Vocabulary (α : Type) where
  /-- Every term. -/
  terms : List α
  /-- The code that a term is written as. -/
  code : α → String

def Vocabulary.ofCode? {α : Type} [Vocabulary α] (s : String) : Option α :=
  (terms : List α).find? fun a => code a == s

/-- The code in a piece of JSON that stands for a term. -/
def Json.code? : Json → Option String
  | .string code => some code
  | .object [(code, .null)] => some code
  | _ => none

instance (priority := low) {α : Type} [Vocabulary α] : Wire α where
  encode a := .string (Vocabulary.code a)
  decode j := j.code?.bind Vocabulary.ofCode?

/-! ## Records -/

/-- The members of an object, in the order in which they stand. -/
abbrev Members := List (String × Json)

/-- What stands under a key. -/
inductive Entry where
  | absent
  | once (value : Json)
  | repeated

namespace Members

/-- The members of a piece of JSON that is an object. -/
def of? : Json → Option Members
  | .object members => some members
  | _ => none

/-- The members of a record with the given keys: those of an object, or the items of an array, each
under its key. There may be as many items as there are keys, or up to `spare` fewer. -/
def ofRecord? (keys : List String) (spare : Nat) : Json → Option Members
  | .object members => some members
  | .array items =>
    if items.length ≤ keys.length ∧ keys.length ≤ items.length + spare then some (keys.zip items)
    else none
  | _ => none

/-- What stands under a key. -/
def entry (members : Members) (key : String) : Entry :=
  match members.filter (·.1 == key) with
  | [] => .absent
  | [(_, value)] => .once value
  | _ => .repeated

/-- The value under a key that must be there. -/
def required {α : Type} [Wire α] (members : Members) (key : String) : Option α :=
  match members.entry key with
  | .once value => decode value
  | _ => none

/-- The value under a key that may be absent or null. -/
def optional {α : Type} [Wire α] (members : Members) (key : String) : Option (Option α) :=
  match members.entry key with
  | .absent => some none
  | .once value => decodeOption value
  | .repeated => none

/-- The value under a key, or a default where the key is absent. -/
def withDefault {α : Type} [Wire α] (members : Members) (key : String) (fallback : α) : Option α :=
  match members.entry key with
  | .absent => some fallback
  | .once value => decode value
  | .repeated => none

end Members

/-- Reads a record. Its keys stand in the order in which every value of it is written, and the last
`spare` of them have defaults. -/
def decodeRecord {α : Type} [Inhabited α] (members : α → Members)
    (ofMembers? : Members → Option α) (spare : Nat := 0) (j : Json) : Option α :=
  (Members.ofRecord? ((members default).map (·.1)) spare j).bind ofMembers?

/-! ## Laws -/

instance : LawfulWire String where
  decode_encode _ := rfl
  encode_ne_null _ h := by cases h

instance : LawfulWire Bool where
  decode_encode _ := rfl
  encode_ne_null _ h := by cases h

instance : LawfulWire UInt32 where
  decode_encode n := by
    have h : (n.toNat : Int) < 4294967296 := by
      have := n.toNat_lt
      omega
    simp [encode, decode, h]
  encode_ne_null _ h := by cases h

instance : LawfulWire Int64 where
  decode_encode n := by
    have low : -9223372036854775808 ≤ n.toInt := n.le_toInt
    have high : n.toInt < 9223372036854775808 := n.toInt_lt
    simp only [encode, decode]
    rw [if_pos ⟨low, by omega⟩, Int64.ofInt_toInt]
  encode_ne_null _ h := by cases h

theorem decodeItems_map_encode {α : Type} [Wire α] [LawfulWire α] (as : List α) :
    decodeItems (as.map encode) = some as := by
  induction as with
  | nil => rfl
  | cons a as ih => simp [decodeItems, ih]

instance {α : Type} [Wire α] [LawfulWire α] : LawfulWire (List α) where
  decode_encode as := decodeItems_map_encode as
  encode_ne_null _ h := by cases h

@[simp] theorem decodeOption_encodeOption {α : Type} [Wire α] [LawfulWire α] (a : Option α) :
    decodeOption (encodeOption a) = some a := by
  cases a with
  | none => rfl
  | some a =>
    have h := LawfulWire.encode_ne_null a
    simp only [encodeOption]
    generalize hj : (encode a : Json) = j at h
    cases j with
    | null => exact absurd rfl h
    | _ => simp [decodeOption, ← hj]

end TribunalListing
