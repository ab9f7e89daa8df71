-- SUMMARY: Reference tables survive the wire.
import TribunalListing.Proofs.Case.Wire
import TribunalListing.Reference.Wire

/-!
# Reference tables survive the wire

The durations of an entry are read from among its other members, so they have to pass over the two
codes that the entry is looked up by.
-/

namespace TribunalListing

theorem BaseDurations.ofMembers?_members (d : BaseDurations) :
    ofMembers? d.members = some d := by
  simp [ofMembers?, members]

/-- A member that durations do not know is passed over. -/
theorem BaseDurations.ofMembers?_cons {key : String} {value : Json} {members : Members}
    (h : key ∉ ["paper", "faceToFace", "interpreter"]) :
    ofMembers? ((key, value) :: members) = ofMembers? members := by
  simp only [List.mem_cons, List.not_mem_nil, or_false, not_or] at h
  simp [ofMembers?, h]

instance : LawfulWire BaseDurations :=
  .of_record BaseDurations.members BaseDurations.ofMembers?
    BaseDurations.ofMembers?_members

instance : LawfulWire SessionCategory :=
  .of_record SessionCategory.members SessionCategory.ofMembers?
    fun c => by simp [SessionCategory.ofMembers?, SessionCategory.members]

instance : LawfulWire VenueEntry :=
  .of_record VenueEntry.members VenueEntry.ofMembers?
    fun v => by simp [VenueEntry.ofMembers?, VenueEntry.members]

instance : LawfulWire LanguageEntry :=
  .of_record LanguageEntry.members LanguageEntry.ofMembers?
    fun l => by simp [LanguageEntry.ofMembers?, LanguageEntry.members]

/-- The codes of an entry stand under keys that its durations do not know. -/
theorem DurationEntry.ofMembers?_members (e : DurationEntry) :
    ofMembers? e.members = some e := by
  have hdurations : BaseDurations.ofMembers? e.members = some e.durations := by
    rw [members, BaseDurations.ofMembers?_cons (by decide),
      BaseDurations.ofMembers?_cons (by decide), BaseDurations.ofMembers?_members]
  have hkeys : ∀ key ∈ ["benefitCode", "issueCode"], key ∉ e.durations.members.map (·.1) := by
    simp [BaseDurations.members]
  simp [ofMembers?, hdurations]
  simp [members, hkeys]

instance : LawfulWire DurationEntry :=
  .of_record DurationEntry.members DurationEntry.ofMembers?
    DurationEntry.ofMembers?_members

instance : LawfulWire ExtraTimeEntry :=
  .of_record ExtraTimeEntry.members ExtraTimeEntry.ofMembers?
    fun e => by simp [ExtraTimeEntry.ofMembers?, ExtraTimeEntry.members]

instance : LawfulWire SessionCategoryEntry :=
  .of_record SessionCategoryEntry.members SessionCategoryEntry.ofMembers?
    fun e => by simp [SessionCategoryEntry.ofMembers?, SessionCategoryEntry.members]

instance : LawfulWire ReferenceTables :=
  .of_record ReferenceTables.members ReferenceTables.ofMembers?
    fun t => by simp [ReferenceTables.ofMembers?, ReferenceTables.members]

end TribunalListing
