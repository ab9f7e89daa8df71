-- SUMMARY: What records and vocabularies need so that their values survive the wire.
import TribunalListing.Json.Wire

/-!
# Values that survive the wire

A value survives the wire if it is read back as it was written. Whether the values of a type do is
a matter of its parts. A term of a vocabulary has to be found by its code. A record has to read each
of its members off the key that the member was written under, and the key must not stand twice;
whatever stands under other keys makes no difference.
-/

namespace TribunalListing

/-- The values of a type survive the wire. -/
structure SurvivesWire (α : Type) [Wire α] : Prop where
  /-- Every value is read back as it was written. -/
  decode_encode : ∀ a : α, decode (encode a) = some a
  /-- A value that was read once is the same when it has been written and read again. -/
  decode_again : ∀ (j : Json) (a : α), decode j = some a → decode (encode a) = some a

theorem survivesWire (α : Type) [Wire α] [LawfulWire α] : SurvivesWire α :=
  ⟨LawfulWire.decode_encode, fun _ a _ => LawfulWire.decode_encode a⟩

/-! ## Vocabularies -/

/-- A vocabulary in which every term is found by its code. -/
class LawfulVocabulary (α : Type) [Vocabulary α] : Prop where
  ofCode?_code : ∀ a : α, Vocabulary.ofCode? (Vocabulary.code a) = some a

instance (priority := low) {α : Type} [Vocabulary α] [LawfulVocabulary α] : LawfulWire α where
  decode_encode := LawfulVocabulary.ofCode?_code
  encode_ne_null _ h := by cases h

/-! ## Members of records -/

namespace Members

variable {α : Type} [Wire α] {members : Members} {key key' : String} {value : Json}

theorem entry_cons_self (h : key ∉ members.map (·.1)) :
    entry ((key, value) :: members) key = .once value := by
  have hrest : members.filter (·.1 == key) = [] := by
    rw [List.filter_eq_nil_iff]
    intro m hm hkey
    exact h (List.mem_map.mpr ⟨m, hm, beq_iff_eq.mp hkey⟩)
  simp [entry, hrest]

theorem entry_cons_of_ne (h : key' ≠ key) :
    entry ((key', value) :: members) key = entry members key := by
  simp [entry, h]

@[simp] theorem required_cons_of_ne (h : key' ≠ key) :
    (required ((key', value) :: members) key : Option α) = required members key := by
  rw [required, entry_cons_of_ne h, required]

@[simp] theorem optional_cons_of_ne (h : key' ≠ key) :
    (optional ((key', value) :: members) key : Option (Option α)) = optional members key := by
  rw [optional, entry_cons_of_ne h, optional]

@[simp] theorem withDefault_cons_of_ne (h : key' ≠ key) (fallback : α) :
    withDefault ((key', value) :: members) key fallback = withDefault members key fallback := by
  rw [withDefault, entry_cons_of_ne h, withDefault]

variable [LawfulWire α]

@[simp] theorem required_cons_self (h : key ∉ members.map (·.1)) (a : α) :
    required ((key, encode a) :: members) key = some a := by
  rw [required, entry_cons_self h]
  exact LawfulWire.decode_encode a

@[simp] theorem optional_cons_self (h : key ∉ members.map (·.1)) (a : Option α) :
    optional ((key, encodeOption a) :: members) key = some a := by
  rw [optional, entry_cons_self h]
  exact decodeOption_encodeOption a

@[simp] theorem withDefault_cons_self (h : key ∉ members.map (·.1)) (a fallback : α) :
    withDefault ((key, encode a) :: members) key fallback = some a := by
  rw [withDefault, entry_cons_self h]
  exact LawfulWire.decode_encode a

end Members

/-- A record survives the wire if the members that it is written as are read as the record. That it
is written as its members and read from them holds by definition. -/
theorem LawfulWire.of_record {α : Type} [Wire α] (members : α → Members)
    (ofMembers? : Members → Option α) (h : ∀ a, ofMembers? (members a) = some a)
    (hencode : ∀ a : α, encode a = .object (members a) := by exact fun _ => rfl)
    (hdecode : ∀ m : Members, decode (.object m) = ofMembers? m := by exact fun _ => rfl) :
    LawfulWire α where
  decode_encode a := by rw [hencode, hdecode, h]
  encode_ne_null a hnull := by
    rw [hencode] at hnull
    cases hnull

/-- A record is read from an array of its values, too, as long as all values of it are written under
the same keys. -/
theorem decodeRecord_values {α : Type} [Inhabited α] {members : α → Members}
    {ofMembers? : Members → Option α} {a : α} (h : ofMembers? (members a) = some a)
    (hkeys : (members a).map (·.1) = (members default).map (·.1)) (spare : Nat) :
    decodeRecord members ofMembers? spare (.array ((members a).map (·.2))) = some a := by
  have hlength : ((members a).map (·.2)).length = ((members a).map (·.1)).length := by simp
  have hzip : ((members a).map (·.1)).zip ((members a).map (·.2)) = members a := by
    rw [List.zip_map', List.map_id']
  rw [decodeRecord, ← hkeys, Members.ofRecord?, if_pos ⟨by omega, by omega⟩, hzip,
    Option.bind_some, h]

end TribunalListing
