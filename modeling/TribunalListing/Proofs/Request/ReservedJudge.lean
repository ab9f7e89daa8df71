-- SUMMARY: A hearing is kept from automatic listing by a reserved judge, and by a token that reserves nobody.
import TribunalListing.Proofs.Request.Behaviour
import TribunalListing.Proofs.Request.NamedMembers

/-!
# Reserved judges and automatic listing

Whether a judge is reserved is asked twice: by the panel, which puts the judge on the request, and
by the rule for automatic listing, which is turned off then. For the panel, a token counts if it is
written. For automatic listing it counts if it is there at all. So the two agree on every token that
is not blank, and a blank one keeps a hearing from being listed automatically although no judge is
reserved for it.
-/

namespace TribunalListing

variable {c : CaseSnapshot} {reference : ReferenceData} {options : DerivationOptions}
  {version : Option Int64}

/-! ## Judges on the panel -/

/-- The judge whom a token stands for has to sit on the panel. -/
def Panel.Reserves (panel : Panel) (token : String) : Prop :=
  ∃ id roleType, Designates token id roleType ∧ ⟨id, roleType, .mustInclude⟩ ∈ panel.preferences

/-- A token that stands for somebody has a bar in it, and so it is not blank. -/
theorem Designates.isBlank_eq_false {token id roleType : String}
    (h : Designates token id roleType) : Text.isBlank token = false := by
  obtain ⟨before, after, htoken, -⟩ := h
  unfold Text.isBlank
  rw [htoken, List.all_append, List.all_cons]
  have hbar : Text.isSpace '|' = false := rfl
  rw [hbar, Bool.false_and, Bool.and_false]

section

variable {reservedJudge : Option String} {enabled : Bool} {preferences : List PanelPreference}

/-- A token that is written has to stand for somebody, whose preference is the only one. -/
theorem panelPreferences_of_written {token : String}
    (hwritten : Text.written reservedJudge = some token)
    (h : panelPreferences c reservedJudge enabled = .ok preferences) :
    ∃ id roleType, Designates token id roleType ∧
      preferences = [⟨id, roleType, .mustInclude⟩] := by
  unfold panelPreferences at h
  rw [hwritten] at h
  obtain ⟨candidates, hcandidates, h⟩ := derived_bind_eq_ok_iff.mp h
  cases h
  unfold reservedJudgePreference at hcandidates
  cases htoken : decodeMemberToken token with
  | error e =>
    rw [htoken] at hcandidates
    cases hcandidates
  | ok decoded =>
    rw [htoken] at hcandidates
    cases hcandidates
    obtain ⟨id, roleType⟩ := decoded
    exact ⟨id, roleType, decodeMemberToken_eq_ok_iff.mp htoken, rfl⟩

/-- A token that is not written makes no difference. -/
theorem panelPreferences_of_unwritten (hunwritten : Text.written reservedJudge = none) :
    panelPreferences c reservedJudge enabled = panelPreferences c none enabled := by
  unfold panelPreferences
  rw [hunwritten]
  rfl

end

/-! ## Automatic listing -/

/-- Nothing that is recorded on the case keeps its hearings from being listed automatically; whether
a judge is reserved is another question. -/
structure CaseSnapshot.IsListable (c : CaseSnapshot) : Prop where
  notLinked : c.linkedCases = []
  notConfidential : c.confidential = false
  notFlagged : c.hasUnacceptableBehaviour = false

theorem defaultAutoList_iff : defaultAutoList c = true ↔ c.IsListable := by
  unfold defaultAutoList
  simp only [Bool.and_eq_true, Bool.not_eq_true', List.isEmpty_iff]
  constructor
  · rintro ⟨⟨hlinked, hconfidential⟩, hflagged⟩
    exact ⟨hlinked, hconfidential, hflagged⟩
  · rintro ⟨hlinked, hconfidential, hflagged⟩
    exact ⟨⟨hlinked, hconfidential⟩, hflagged⟩

namespace CaseSnapshot

theorem hasUnacceptableBehaviour_replaceIds (ids : Place → Option String) :
    (c.replaceIds ids).hasUnacceptableBehaviour = c.hasUnacceptableBehaviour := by
  apply hasUnacceptableBehaviour_congr
  · rfl
  · rw [replaceIds, Option.map_map]
    rfl
  · apply List.ext_getElem?
    intro i
    rw [replaceIds, List.getElem?_map, List.getElem?_mapIdx, List.getElem?_map, Option.map_map]
    rfl

/-- What keeps a case from being listed automatically does not depend on ids. -/
theorem isListable_of_withoutIds {d : CaseSnapshot} (h : d.withoutIds = c.withoutIds) :
    d.IsListable ↔ c.IsListable := by
  rw [eq_replaceIds_of_withoutIds h]
  constructor
  · rintro ⟨hlinked, hconfidential, hflagged⟩
    exact ⟨hlinked, hconfidential, (hasUnacceptableBehaviour_replaceIds _).symm.trans hflagged⟩
  · rintro ⟨hlinked, hconfidential, hflagged⟩
    exact ⟨hlinked, hconfidential, (hasUnacceptableBehaviour_replaceIds _).trans hflagged⟩

end CaseSnapshot

/-- Where no override says otherwise, automatic listing is kept up by a case that is listable and
without any token, be it blank or not. -/
theorem autoList_of_ofCase {cascade : Cascade}
    (h : Cascade.ofCase c reference options = .ok cascade)
    (hoverride : c.overrides.autoList = none) :
    cascade.autoList = true ↔ c.IsListable ∧ c.overrides.reservedJudge = none := by
  obtain ⟨_, _, _, -, -, -, rfl⟩ := cascade_ofCase_eq_ok h
  rw [← defaultAutoList_iff]
  simp [Cascade.autoList, Cascade.reservedJudge, hoverride]

/-- A cascade hands on the token that is on the case. -/
theorem reservedJudge_of_ofCase {cascade : Cascade}
    (h : Cascade.ofCase c reference options = .ok cascade) :
    cascade.reservedJudge = c.overrides.reservedJudge := by
  obtain ⟨_, _, _, -, -, -, rfl⟩ := cascade_ofCase_eq_ok h
  exact Option.or_none

/-- The panel of a request is built from the token on the case. -/
theorem preferences_of_requiredPanel {reservedJudge : Option String} {interpreter enabled : Bool}
    {panel : Panel}
    (h : requiredPanel c reference interpreter reservedJudge enabled = .ok panel) :
    panelPreferences c reservedJudge enabled = .ok panel.preferences := by
  unfold requiredPanel at h
  split at h
  next =>
    obtain ⟨category, -, h⟩ := derived_bind_eq_ok_iff.mp h
    obtain ⟨preferences, hpreferences, h⟩ := derived_bind_eq_ok_iff.mp h
    cases h
    exact hpreferences
  next => cases h

/-! ## The panel and automatic listing -/

/-- The panel is made from the token, if that is written: it has to stand for a judge, whose
preference is the only one. A token that is not written reserves nobody, and the preferences are
those of the case without it. -/
theorem reserves_iff_written {reservedJudge : Option String} {interpreter enabled : Bool}
    {panel : Panel}
    (h : requiredPanel c reference interpreter reservedJudge enabled = .ok panel) :
    (∀ token, Text.written reservedJudge = some token →
      ∃ id roleType, Designates token id roleType ∧
        panel.preferences = [⟨id, roleType, .mustInclude⟩]) ∧
    (Text.written reservedJudge = none →
      panelPreferences c none enabled = .ok panel.preferences) ∧
    ((∃ token ∈ reservedJudge, panel.Reserves token) ↔
      (Text.written reservedJudge).isSome = true) := by
  have hpreferences := preferences_of_requiredPanel h
  have hreserved : ∀ token, Text.written reservedJudge = some token →
      ∃ id roleType, Designates token id roleType ∧
        panel.preferences = [⟨id, roleType, .mustInclude⟩] :=
    fun _ hwritten => panelPreferences_of_written hwritten hpreferences
  refine ⟨hreserved, ?_, ?_, ?_⟩
  · intro hunwritten
    rwa [panelPreferences_of_unwritten hunwritten] at hpreferences
  · rintro ⟨token, htoken, id, roleType, hdesignates, -⟩
    have hwritten : Text.written reservedJudge = some token :=
      Text.written_eq_some_iff.mpr ⟨htoken, hdesignates.isBlank_eq_false⟩
    exact Option.isSome_of_eq_some hwritten
  · intro hwritten
    obtain ⟨token, htoken⟩ := Option.isSome_iff_exists.mp hwritten
    obtain ⟨id, roleType, hdesignates, honly⟩ := hreserved token htoken
    refine ⟨token, (Text.written_eq_some_iff.mp htoken).1, id, roleType, hdesignates, ?_⟩
    rw [honly]
    exact List.mem_singleton_self _

/-- On a request whose case does not override automatic listing, the hearing is listed automatically
exactly if the case is listable and has no token of a reserved judge at all, while a judge is
reserved exactly if that token is written. So automatic listing tells whether a judge is reserved,
unless a listable case has a blank token. -/
theorem autoList_iff_unreserved {a : AssembledRequest}
    (h : assembleRequest c reference options version = .ok a)
    (hoverride : c.overrides.autoList = none) :
    (a.request.hearing.autoList = true ↔ c.IsListable ∧ c.overrides.reservedJudge = none) ∧
    (∀ token, Text.written c.overrides.reservedJudge = some token →
      ∃ id roleType, Designates token id roleType ∧
        a.request.hearing.panel.preferences = [⟨id, roleType, .mustInclude⟩]) ∧
    (Text.written c.overrides.reservedJudge = none →
      panelPreferences a.case none options.adjournmentEnabled =
        .ok a.request.hearing.panel.preferences) ∧
    ((∃ token ∈ c.overrides.reservedJudge, a.request.hearing.panel.Reserves token) ↔
      (Text.written c.overrides.reservedJudge).isSome = true) ∧
    ((a.request.hearing.autoList = true ↔ c.IsListable ∧
        ¬ ∃ token ∈ c.overrides.reservedJudge, a.request.hearing.panel.Reserves token) ↔
      (c.IsListable → ∀ token ∈ c.overrides.reservedJudge, Text.isBlank token = false)) := by
  obtain ⟨hassign, hrequest⟩ := assembleRequest_eq_ok h
  obtain ⟨cascade, _, _, panel, hcascade, -, -, -, hpanel, hparts⟩ := requestFor_eq_ok hrequest
  have hrest := (CaseSnapshot.filled_of_assignIdsAbove hassign).rest
  have hoverrides : a.case.overrides = c.overrides :=
    (congrArg CaseSnapshot.overrides hrest :)
  have hhearing : a.request.hearing.panel = panel ∧
      a.request.hearing.autoList = cascade.autoList := by
    rw [hparts]
    exact ⟨rfl, rfl⟩
  have hauto := autoList_of_ofCase hcascade (hoverrides ▸ hoverride)
  rw [CaseSnapshot.isListable_of_withoutIds hrest, hoverrides, ← hhearing.2] at hauto
  rw [reservedJudge_of_ofCase hcascade, hoverrides, ← hhearing.1] at hpanel
  obtain ⟨hwritten, hunwritten, hreserves⟩ := reserves_iff_written hpanel
  refine ⟨hauto, hwritten, hunwritten, hreserves, ?_⟩
  rw [hauto, hreserves]
  cases hjudge : c.overrides.reservedJudge with
  | none => simp [Text.written]
  | some token => cases hblank : Text.isBlank token <;> simp [Text.written, hblank]

/-- An appeal that is listable, and for which a judge may be reserved. -/
def reservingCase (reservedJudge : Option String) : CaseSnapshot where
  caseId := "1"
  benefitCode := "002"
  issueCode := "DD"
  overrides := { venueIds := some ["1001"], reservedJudge }

/-- A judge who is reserved is the one member on the panel, and turns automatic listing off. -/
theorem autoList_iff_unreserved_reserving :
    ∃ a, assembleRequest (reservingCase (some "J9|84")) plainReference {} none = .ok a ∧
      a.request.hearing.panel.preferences = [⟨"J9", "84", .mustInclude⟩] ∧
      a.request.hearing.autoList = false := by
  obtain ⟨a, h, hpreferences⟩ :
      ∃ a, assembleRequest (reservingCase (some "J9|84")) plainReference {} none = .ok a ∧
        a.request.hearing.panel.preferences = [⟨"J9", "84", .mustInclude⟩] := ⟨_, rfl, rfl⟩
  refine ⟨a, h, hpreferences, ?_⟩
  rw [← Bool.not_eq_true, (autoList_iff_unreserved h rfl).1]
  rintro ⟨-, hjudge⟩
  cases hjudge

/-- A blank token reserves nobody, and turns automatic listing off all the same. -/
theorem blank_token_turns_autoList_off :
    (reservingCase (some " ")).IsListable ∧
    ∃ a, assembleRequest (reservingCase (some " ")) plainReference {} none = .ok a ∧
      a.request.hearing.panel.preferences = [] ∧ a.request.hearing.autoList = false ∧
      ¬ ∃ token ∈ (reservingCase (some " ")).overrides.reservedJudge,
        a.request.hearing.panel.Reserves token := by
  refine ⟨⟨rfl, rfl, rfl⟩, _, rfl, rfl, rfl, ?_⟩
  rintro ⟨token, -, id, roleType, -, hmember⟩
  cases hmember

end TribunalListing
