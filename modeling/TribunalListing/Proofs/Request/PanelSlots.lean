-- SUMMARY: What each slot of a session category adds to the panel: its role, unless that is there already, and its specialism or that of a doctor.
import Mathlib.Data.List.Basic
import TribunalListing.Proofs.Request.NamedMembers

/-!
# Slots of the panel

The slots of a session category are gone through in order, and what a slot adds to the panel depends
on the slots before it: the doctor specialisms of the case are handed out in turn, and a role is
listed once. A slot may add nothing. Where something stands on the panel then does not tell which
slot it is from, and the turns have to be counted on the slots themselves.
-/

namespace TribunalListing

/-! ## Going through a list -/

section

variable {α β : Type} {f : List α → α → Option β}

/-- What the elements of a list give, in order, where each may give something that depends on those
before it. -/
def gather (f : List α → α → Option β) (xs : List α) : List β :=
  xs.zipIdx.filterMap fun (x, i) => f (xs.take i) x

/-- One more element at the end changes nothing for those before it. -/
theorem gather_concat (xs : List α) (x : α) :
    gather f (xs ++ [x]) = gather f xs ++ (f xs x).toList := by
  have hbefore : ∀ p ∈ xs.zipIdx, f ((xs ++ [x]).take p.2) p.1 = f (xs.take p.2) p.1 := by
    intro p hp
    have hlt : p.2 < xs.length := List.snd_lt_of_mem_zipIdx hp
    rw [List.take_append_of_le_length (Nat.le_of_lt hlt)]
  have hlast : f ((xs ++ [x]).take xs.length) x = f xs x := by rw [List.take_left]
  unfold gather
  rw [List.zipIdx_append, List.filterMap_append, List.filterMap_congr hbefore, Nat.zero_add]
  simp only [List.zipIdx_singleton, List.filterMap_cons, List.filterMap_nil, hlast]
  cases f xs x <;> rfl

end

/-! ## Specialisms -/

/-- The reference of the doctor specialism that a field of the case names, if it is known. -/
def doctorReference? (field : Option String) : Option String :=
  (field.bind DoctorSpecialism.ofCaseCode?).map (·.reference)

section

variable {doctors : List (Option String)} {slots : List PanelMemberType} {slot : PanelMemberType}

theorem slotSpecialisms_cons_medical (h : slot.isMedicallyQualified = true) :
    slotSpecialisms doctors (slot :: slots) =
      (doctorReference? (doctors.head?.getD none)).toList ++ slotSpecialisms doctors.tail slots := by
  simp only [slotSpecialisms, h, if_true, doctorReference?]
  cases (doctors.head?.getD none).bind DoctorSpecialism.ofCaseCode? <;> rfl

theorem slotSpecialisms_cons_other (h : slot.isMedicallyQualified = false) :
    slotSpecialisms doctors (slot :: slots) =
      slot.specialismReference :: slotSpecialisms doctors slots := by
  simp only [slotSpecialisms, h, Bool.false_eq_true, if_false]

/-- Every medically qualified slot uses up a turn, whether or not it gives anything. -/
theorem slotSpecialisms_append (doctors : List (Option String)) (slots more : List PanelMemberType) :
    slotSpecialisms doctors (slots ++ more) =
      slotSpecialisms doctors slots ++
        slotSpecialisms (doctors.drop (slots.countP (·.isMedicallyQualified))) more := by
  induction slots generalizing doctors with
  | nil => rfl
  | cons slot slots ih =>
    rw [List.cons_append]
    cases hslot : slot.isMedicallyQualified with
    | true =>
      rw [slotSpecialisms_cons_medical hslot, slotSpecialisms_cons_medical hslot, ih,
        List.countP_cons_of_pos hslot, List.append_assoc, List.drop_tail]
    | false =>
      rw [slotSpecialisms_cons_other hslot, slotSpecialisms_cons_other hslot, ih,
        List.countP_cons_of_neg (by simp [hslot]), List.cons_append]

/-- Without doctors to hand out, all but the medically qualified slots give their own specialism. -/
theorem slotSpecialisms_nil_doctors (slots : List PanelMemberType) :
    slotSpecialisms [] slots =
      (slots.filter (!·.isMedicallyQualified)).map (·.specialismReference) := by
  induction slots with
  | nil => rfl
  | cons slot slots ih =>
    cases hslot : slot.isMedicallyQualified with
    | true =>
      rw [slotSpecialisms_cons_medical hslot, List.filter_cons_of_neg (by simp [hslot])]
      exact ih
    | false =>
      rw [slotSpecialisms_cons_other hslot, List.filter_cons_of_pos (by simp [hslot]),
        List.map_cons, ih]

/-- Slots that no doctor is for use up no turn. -/
theorem slotSpecialisms_append_of_other {others : List PanelMemberType}
    (h : ∀ slot ∈ others, slot.isMedicallyQualified = false) :
    slotSpecialisms doctors (others ++ slots) =
      others.map (·.specialismReference) ++ slotSpecialisms doctors slots := by
  induction others with
  | nil => rfl
  | cons slot others ih =>
    rw [List.forall_mem_cons] at h
    rw [List.cons_append, slotSpecialisms_cons_other h.1, ih h.2, List.map_cons, List.cons_append]

end

/-- The field for the doctor on a medically qualified slot, by the number of such slots before it. -/
def CaseSnapshot.doctorField (c : CaseSnapshot) : Nat → Option String
  | 0 => c.panelDoctorSpecialism
  | 1 => c.secondPanelDoctorSpecialism
  | _ => none

/-- The specialism that a slot adds to the panel, by the slots before it. -/
def CaseSnapshot.specialismAfter? (c : CaseSnapshot) (before : List PanelMemberType)
    (slot : PanelMemberType) : Option String :=
  if slot.isMedicallyQualified then
    doctorReference? (c.doctorField (before.countP (·.isMedicallyQualified)))
  else some slot.specialismReference

/-- The doctor whose turn it is goes by the fields of the case. -/
theorem CaseSnapshot.head?_drop_doctors (c : CaseSnapshot) (turns : Nat) :
    ([c.panelDoctorSpecialism, c.secondPanelDoctorSpecialism].drop turns).head?.getD none =
      c.doctorField turns := by
  match turns with
  | 0 | 1 => rfl
  | _ + 2 => simp [CaseSnapshot.doctorField]

/-- The specialisms of the panel are what the slots add, in order. -/
theorem panelSpecialisms_eq_gather (c : CaseSnapshot) (category : SessionCategory) :
    panelSpecialisms c category = gather c.specialismAfter? category.panelMembers := by
  unfold panelSpecialisms
  induction category.panelMembers using List.reverseRecOn with
  | nil => rfl
  | append_singleton slots slot ih =>
    rw [slotSpecialisms_append, gather_concat, ih, CaseSnapshot.specialismAfter?]
    cases hslot : slot.isMedicallyQualified with
    | true =>
      rw [slotSpecialisms_cons_medical hslot, c.head?_drop_doctors, if_pos rfl]
      simp [slotSpecialisms]
    | false =>
      rw [slotSpecialisms_cons_other hslot, if_neg Bool.false_ne_true]
      rfl

/-! ## Roles -/

/-- The role that a slot adds to the panel, unless a slot before it has. -/
def PanelMemberType.roleAfter? (before : List PanelMemberType) (slot : PanelMemberType) :
    Option String :=
  if slot.reference ∈ before.map (·.reference) then none else some slot.reference

/-- The roles of the panel are what the slots add, in order. -/
theorem roleTypes_eq_gather (category : SessionCategory) :
    roleTypes category = gather PanelMemberType.roleAfter? category.panelMembers := by
  unfold roleTypes
  induction category.panelMembers using List.reverseRecOn with
  | nil => rfl
  | append_singleton slots slot ih =>
    rw [List.map_append, List.map_singleton, eraseDups_concat, gather_concat, ih,
      PanelMemberType.roleAfter?]
    split
    next => exact (List.append_nil _).symm
    next => rfl

/-! ## The panel of a category -/

/-- Each slot of a category adds to the specialisms, in order: its own specialism if it is not
medically qualified, and otherwise the reference of the first doctor of the case, if it is the first
such slot, and of the second one, if it is the second; nothing if that doctor is missing or not
known, and nothing for any further such slot. So if the first doctor is not known, then the first
medically qualified slot adds nothing, and it is still the second one that the second doctor is for.
Each slot adds its role, unless a slot before it has. -/
theorem panel_of_slots (c : CaseSnapshot) (category : SessionCategory) :
    panelSpecialisms c category = gather c.specialismAfter? category.panelMembers ∧
      (∀ before first between second after,
        category.panelMembers = before ++ first :: (between ++ second :: after) →
        (∀ slot ∈ before ++ between, slot.isMedicallyQualified = false) →
        first.isMedicallyQualified = true → second.isMedicallyQualified = true →
        doctorReference? c.panelDoctorSpecialism = none →
        panelSpecialisms c category =
          before.map (·.specialismReference) ++ between.map (·.specialismReference) ++
            (doctorReference? c.secondPanelDoctorSpecialism).toList ++
            (after.filter (!·.isMedicallyQualified)).map (·.specialismReference)) ∧
      roleTypes category = gather PanelMemberType.roleAfter? category.panelMembers := by
  refine ⟨panelSpecialisms_eq_gather c category, ?_, roleTypes_eq_gather category⟩
  intro before first between second after hslots hothers hfirst hsecond hunknown
  rw [List.forall_mem_append] at hothers
  rw [panelSpecialisms, hslots, slotSpecialisms_append_of_other hothers.1,
    slotSpecialisms_cons_medical hfirst, slotSpecialisms_append_of_other hothers.2,
    slotSpecialisms_cons_medical hsecond]
  simp [hunknown, slotSpecialisms_nil_doctors]

/-- A category with three medically qualified slots among others. -/
def mixedCategory : SessionCategory where
  code := "7"
  panelMembers := [.disability, .medical, .judge, .regionalMedical, .judge, .medical, .financial]

/-- A case whose first doctor is not known. -/
def misnamedCase : CaseSnapshot where
  caseId := "1"
  benefitCode := "002"
  issueCode := "DD"
  panelDoctorSpecialism := some "astrologer"
  secondPanelDoctorSpecialism := some "eyeSurgeon"

/-- The second doctor is for the regional medical member. The last medical member comes too late for
a doctor, and adds no role either. -/
theorem panel_of_slots_misnamed :
    panelSpecialisms misnamedCase mixedCategory =
        ["BBA3-DQPM", "BBA3-J", "BBA3-MQPM1-003", "BBA3-J", "BBA3-FQPM"] ∧
      roleTypes mixedCategory = ["44", "58", "84", "69", "50"] := by
  obtain ⟨-, hunshifted, hroles⟩ := panel_of_slots misnamedCase mixedCategory
  constructor
  · exact hunshifted [.disability] .medical [.judge] .regionalMedical [.judge, .medical, .financial]
      rfl (by decide) rfl rfl rfl
  · rw [hroles]
    decide

end TribunalListing
