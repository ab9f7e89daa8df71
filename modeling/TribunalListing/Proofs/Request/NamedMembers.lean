-- SUMMARY: Which of the members that an adjournment names its directions reach, and which ones they miss.
import Mathlib.Data.List.Induction
import Mathlib.Data.List.TakeDrop
import TribunalListing.Proofs.Request.Derivation

/-!
# Members named on an adjournment

An adjournment names members by tokens, and directs that they are excluded from the next panel or
that the panel is reserved for them. The directions are meant for judges and for members who are
medically or disability qualified. Each of them is to have one preference, in the order in which
they are first mentioned, and a malformed token is to be an error. This holds of all of them but
regional medical members. Those are medically qualified too, and they are missed unless they are
mentioned earlier under another type.
-/

namespace TribunalListing

/-! ## Tokens -/

/-- A token stands for an id and a role type: they are before and after its first bar, both of them
written, and white space at their ends does not count. -/
def Designates (token id roleType : String) : Prop :=
  ∃ before after : String,
    token.toList = before.toList ++ '|' :: after.toList ∧ '|' ∉ before.toList ∧
    Text.isBlank before = false ∧ Text.isBlank after = false ∧
    id = Text.trim before ∧ roleType = Text.trim after

/-- The first bar is where a text without a bar ends. -/
theorem span_append_bar {before after : List Char} (h : '|' ∉ before) :
    (before ++ '|' :: after).span (· ≠ '|') = (before, '|' :: after) := by
  have hbefore : ∀ c ∈ before, decide (c ≠ '|') = true := by
    intro c hc
    exact decide_eq_true fun hbar => h (hbar ▸ hc)
  rw [List.span_eq_takeWhile_dropWhile, List.takeWhile_append_of_pos hbefore,
    List.dropWhile_append_of_pos hbefore]
  simp

theorem eq_append_bar_of_span {chars before after : List Char} {c : Char}
    (h : chars.span (· ≠ '|') = (before, c :: after)) :
    chars = before ++ '|' :: after ∧ '|' ∉ before := by
  rw [List.span_eq_takeWhile_dropWhile] at h
  obtain ⟨rfl, hdrop⟩ := Prod.mk.inj h
  have hbar : c = '|' := by
    have hhead := List.head?_dropWhile_not (fun c => decide (c ≠ '|')) chars
    rw [hdrop] at hhead
    simpa using hhead
  subst hbar
  constructor
  · rw [← hdrop, List.takeWhile_append_dropWhile]
  · intro hmem
    have hall := List.all_eq_true.mp (List.all_takeWhile (p := fun c => decide (c ≠ '|'))) _ hmem
    simp at hall

theorem splitAtBar_eq_some_iff {token before after : String} :
    splitAtBar token = some (before, after) ↔
      token.toList = before.toList ++ '|' :: after.toList ∧ '|' ∉ before.toList := by
  unfold splitAtBar
  constructor
  · intro h
    split at h
    next hspan =>
      cases h
      rw [String.toList_ofList, String.toList_ofList]
      exact eq_append_bar_of_span hspan
    next => cases h
  · rintro ⟨htoken, hbar⟩
    rw [htoken, span_append_bar hbar]
    simp only [String.ofList_toList]

/-- What is read from a token is what it stands for. -/
theorem decodeMemberToken_eq_ok_iff {token id roleType : String} :
    decodeMemberToken token = .ok (id, roleType) ↔ Designates token id roleType := by
  unfold decodeMemberToken Designates
  constructor
  · intro h
    split at h
    next before after hsplit =>
      obtain ⟨htoken, hbar⟩ := splitAtBar_eq_some_iff.mp hsplit
      split at h
      next => cases h
      next hwritten =>
        cases h
        rw [Bool.or_eq_true, not_or, Bool.not_eq_true, Bool.not_eq_true] at hwritten
        exact ⟨before, after, htoken, hbar, hwritten.1, hwritten.2, rfl, rfl⟩
    next => cases h
  · rintro ⟨before, after, htoken, hbar, hbefore, hafter, rfl, rfl⟩
    rw [splitAtBar_eq_some_iff.mpr ⟨htoken, hbar⟩]
    simp [hbefore, hafter]

/-- A token that stands for nothing is reported as it is. -/
theorem decodeMemberToken_eq_error {token : String} {e : DerivationError}
    (h : decodeMemberToken token = .error e) : e = .invalidPanelMemberToken token := by
  unfold decodeMemberToken at h
  split at h
  · split at h <;> cases h
    rfl
  · cases h
    rfl

/-! ## Preferences for members -/

section

variable {m : NamedPanelMember} {members : List NamedPanelMember} {requirement : PanelRequirement}

/-- The id that the token of a member stands for; none if the token is malformed. -/
def NamedPanelMember.id? (m : NamedPanelMember) : Option String :=
  (decodeMemberToken m.member).toOption.map (·.1)

/-- A member has the id that its token stands for, whatever the role type in the token. -/
theorem NamedPanelMember.id?_eq_some_iff {id : String} :
    m.id? = some id ↔ ∃ roleType, Designates m.member id roleType := by
  simp only [← decodeMemberToken_eq_ok_iff]
  unfold id?
  cases decodeMemberToken m.member with
  | ok decoded =>
    obtain ⟨id', roleType⟩ := decoded
    simp [Except.toOption]
  | error e => simp [Except.toOption]

/-- The preference for a member, if its token stands for an id. -/
def NamedPanelMember.preference? (m : NamedPanelMember) (requirement : PanelRequirement) :
    Option PanelPreference :=
  m.id?.map (⟨·, m.memberType.reference, requirement⟩)

theorem NamedPanelMember.isNone_preference? (m : NamedPanelMember)
    (requirement : PanelRequirement) : (m.preference? requirement).isNone = m.id?.isNone := by
  rw [preference?, Option.isNone_map]

theorem NamedPanelMember.preference_eq :
    m.preference requirement =
      match m.preference? requirement with
      | some p => .ok p
      | none => .error (.invalidPanelMemberToken m.member) := by
  unfold preference preference? id?
  cases htoken : decodeMemberToken m.member with
  | ok decoded => rfl
  | error e =>
    rw [decodeMemberToken_eq_error htoken]
    rfl

/-- There are preferences for all members, unless a token is malformed. Then the first one that is
malformed is reported. -/
theorem mapM_preference :
    members.mapM (·.preference requirement) =
      match members.find? (·.id?.isNone) with
      | some m => .error (.invalidPanelMemberToken m.member)
      | none => .ok (members.filterMap (·.preference? requirement)) := by
  induction members with
  | nil => rfl
  | cons m members ih =>
    rw [List.mapM_cons, ih, NamedPanelMember.preference_eq, List.find?_cons,
      ← m.isNone_preference? requirement, List.filterMap_cons]
    cases m.preference? requirement with
    | none => rfl
    | some p => cases members.find? (·.id?.isNone) <;> rfl

end

/-! ## The first preference for each member -/

section

variable {ps : List PanelPreference} {p : PanelPreference}

/-- A preference is kept if none is for the same member yet. -/
theorem firstPerMember_concat :
    firstPerMember (ps ++ [p]) =
      if p.memberId ∈ (firstPerMember ps).map (·.memberId) then firstPerMember ps
      else firstPerMember ps ++ [p] := by
  have hany : (firstPerMember ps).any (·.memberId == p.memberId) =
      decide (p.memberId ∈ (firstPerMember ps).map (·.memberId)) := by
    rw [Bool.eq_iff_iff, List.any_eq_true, decide_eq_true_eq, List.mem_map]
    simp only [beq_iff_eq]
  unfold firstPerMember at hany ⊢
  rw [List.foldl_append, List.foldl_cons, List.foldl_nil, hany]
  simp only [decide_eq_true_eq]

/-- An id at the end counts if it is new. -/
theorem eraseDups_concat (ids : List String) (id : String) :
    (ids ++ [id]).eraseDups = if id ∈ ids then ids.eraseDups else ids.eraseDups ++ [id] := by
  rw [List.eraseDups_append]
  split
  next h => simp [List.removeAll, h]
  next h => simp [List.removeAll, h, List.eraseDups_cons]

/-- The ids are those of all preferences, each once, in the order in which they first occur. -/
theorem map_memberId_firstPerMember :
    (firstPerMember ps).map (·.memberId) = (ps.map (·.memberId)).eraseDups := by
  induction ps using List.reverseRecOn with
  | nil => rfl
  | append_singleton ps p ih =>
    have hmem : p.memberId ∈ (firstPerMember ps).map (·.memberId) ↔
        p.memberId ∈ ps.map (·.memberId) := by
      rw [ih, List.mem_eraseDups]
    simp only [firstPerMember_concat, hmem, List.map_append, List.map_singleton, eraseDups_concat]
    split
    next => exact ih
    next => rw [List.map_append, ih, List.map_singleton]

/-- A preference that is kept is the first one for its member. -/
theorem find?_of_mem_firstPerMember (h : p ∈ firstPerMember ps) :
    ps.find? (·.memberId == p.memberId) = some p := by
  induction ps using List.reverseRecOn with
  | nil => cases h
  | append_singleton ps q ih =>
    have hkept : p ∈ firstPerMember ps ∨
        q.memberId ∉ (firstPerMember ps).map (·.memberId) ∧ p = q := by
      rw [firstPerMember_concat] at h
      split at h
      next => exact .inl h
      next hnew =>
        exact (List.mem_append.mp h).imp_right fun hq => ⟨hnew, List.mem_singleton.mp hq⟩
    rw [List.find?_append]
    rcases hkept with hkept | ⟨hnew, rfl⟩
    · rw [ih hkept, Option.some_or]
    · rw [map_memberId_firstPerMember, List.mem_eraseDups] at hnew
      have hnone : ps.find? (·.memberId == p.memberId) = none := by
        rw [List.find?_eq_none]
        intro q hq hsame
        exact hnew (List.mem_map.mpr ⟨q, hq, beq_iff_eq.mp hsame⟩)
      rw [hnone]
      simp

end

/-! ## Directions -/

/-- The directions of an adjournment are meant for members of this kind: for judges, and for members
who are medically or disability qualified. -/
def PanelMemberType.isDirected (memberType : PanelMemberType) : Bool :=
  memberType = .judge || memberType.isMedicallyQualified || memberType = .disability

/-- The members for whom directions are meant. -/
def directedMembers (members : List NamedPanelMember) : List NamedPanelMember :=
  members.filter (·.memberType.isDirected)

/-- The members for whom directions are meant, without regional medical members. -/
def reachedMembers (members : List NamedPanelMember) : List NamedPanelMember :=
  (directedMembers members).filter (·.memberType ≠ .regionalMedical)

/-- Preferences that put a requirement on members. -/
structure Directs (members : List NamedPanelMember) (requirement : PanelRequirement)
    (preferences : List PanelPreference) : Prop where
  /-- The ids are those of the members, each once, in the order of their first mention. -/
  ids : preferences.map (·.memberId) = (members.filterMap (·.id?)).eraseDups
  /-- The type is that of the first mention. -/
  first : ∀ p ∈ preferences, ∃ m, members.find? (·.id? == some p.memberId) = some m ∧
    p.memberType = m.memberType.reference
  requirement : ∀ p ∈ preferences, p.requirement = requirement

/-- Directions are carried out on members: a malformed token is reported, and without one, they
all have the preference that they are to have. -/
structure CarriesOut (members : List NamedPanelMember) (requirement : PanelRequirement)
    (result : Derived (List PanelPreference)) : Prop where
  malformed_iff : (∃ token, result = .error (.invalidPanelMemberToken token)) ↔
    ∃ m ∈ members, m.id? = none
  directs : ∀ preferences, result = .ok preferences → Directs members requirement preferences

section

variable {members : List NamedPanelMember} {requirement : PanelRequirement}

theorem NamedPanelMember.map_memberId_preference? (m : NamedPanelMember) :
    (m.preference? requirement).map (·.memberId) = m.id? := by
  rw [preference?, Option.map_map]
  exact Option.map_id'

theorem NamedPanelMember.any_preference? (m : NamedPanelMember) (id : String) :
    (m.preference? requirement).any (·.memberId == id) = (m.id? == some id) := by
  unfold preference?
  cases m.id? <;> rfl

/-- To keep the first preference for each member is to carry out the directions on them. -/
theorem directs_firstPerMember :
    Directs members requirement
      (firstPerMember (members.filterMap (·.preference? requirement))) := by
  have hfirst : ∀ p ∈ firstPerMember (members.filterMap (·.preference? requirement)),
      ∃ m, members.find? (·.id? == some p.memberId) = some m ∧
        m.preference? requirement = some p := by
    intro p hp
    have hfind := find?_of_mem_firstPerMember hp
    simp only [List.find?_filterMap, NamedPanelMember.any_preference?] at hfind
    exact Option.bind_eq_some_iff.mp hfind
  refine ⟨?ids, ?first, ?requirement⟩
  case ids =>
    rw [map_memberId_firstPerMember, List.map_filterMap]
    simp only [NamedPanelMember.map_memberId_preference?]
  case first =>
    intro p hp
    obtain ⟨m, hm, hpreference⟩ := hfirst p hp
    obtain ⟨id, -, rfl⟩ := Option.map_eq_some_iff.mp hpreference
    exact ⟨m, hm, rfl⟩
  case requirement =>
    intro p hp
    obtain ⟨m, -, hpreference⟩ := hfirst p hp
    obtain ⟨id, -, rfl⟩ := Option.map_eq_some_iff.mp hpreference
    rfl

end

/-- The members that are looked at are those that directions reach. -/
theorem filter_isNamedOnAdjournment (members : List NamedPanelMember) :
    members.filter (·.memberType.isNamedOnAdjournment) = reachedMembers members := by
  rw [reachedMembers, directedMembers, List.filter_filter]
  apply List.filter_congr
  intro m _
  cases m.memberType <;> rfl

/-- The preferences for the members on an adjournment in progress, where no judge is reserved. -/
theorem panelPreferences_of_directions {c : CaseSnapshot} {reservedJudge : Option String}
    {exclusion : PanelExclusion} {requirement : PanelRequirement}
    (hprogress : c.adjournment.inProgress = true) (hjudge : Text.written reservedJudge = none)
    (hexclusion : c.adjournment.panelMembersExcluded = some exclusion)
    (hrequirement : exclusion.requirement? = some requirement) :
    panelPreferences c reservedJudge true =
      match (reachedMembers c.adjournment.panelMembers).find? (·.id?.isNone) with
      | some m => .error (.invalidPanelMemberToken m.member)
      | none => .ok (firstPerMember
          ((reachedMembers c.adjournment.panelMembers).filterMap (·.preference? requirement))) := by
  have hpreferences : c.adjournment.preferences =
      (reachedMembers c.adjournment.panelMembers).mapM (·.preference requirement) := by
    simp only [Adjournment.preferences, hexclusion, Option.bind_some, hrequirement,
      filter_isNamedOnAdjournment]
  simp only [panelPreferences, hjudge, hprogress, Bool.and_self, if_true, hpreferences,
    mapM_preference]
  split <;> rfl

/-! ## Members who are overlooked -/

/-- A regional medical member is overlooked if nobody with the id that its token stands for is
mentioned before it under a type that directions reach. -/
def Overlooks (members : List NamedPanelMember) : Prop :=
  ∃ before m after, members = before ++ m :: after ∧ m.memberType = .regionalMedical ∧
    ∀ id, m.id? = some id → ∀ m' ∈ reachedMembers before, m'.id? ≠ some id

section

variable {members : List NamedPanelMember} {requirement : PanelRequirement}
  {preferences : List PanelPreference}

theorem mem_reachedMembers_iff {m : NamedPanelMember} :
    m ∈ reachedMembers members ↔ m ∈ directedMembers members ∧ m.memberType ≠ .regionalMedical := by
  rw [reachedMembers, List.mem_filter, decide_eq_true_eq]

theorem directedMembers_append (members others : List NamedPanelMember) :
    directedMembers (members ++ others) = directedMembers members ++ directedMembers others :=
  List.filter_append ..

theorem reachedMembers_append (members others : List NamedPanelMember) :
    reachedMembers (members ++ others) = reachedMembers members ++ reachedMembers others := by
  rw [reachedMembers, directedMembers_append, List.filter_append]
  rfl

theorem Overlooks.append (h : Overlooks members) (others : List NamedPanelMember) :
    Overlooks (members ++ others) := by
  obtain ⟨before, m, after, rfl, hregional, hnew⟩ := h
  exact ⟨before, m, after ++ others, by simp, hregional, hnew⟩

/-- What comes after the same kept preferences is kept of it alike. -/
theorem firstPerMember_append_congr {ps qs : List PanelPreference}
    (h : firstPerMember ps = firstPerMember qs) (others : List PanelPreference) :
    firstPerMember (ps ++ others) = firstPerMember (qs ++ others) := by
  unfold firstPerMember at h ⊢
  rw [List.foldl_append, List.foldl_append, h]

/-- Only regional medical members are told apart from those that directions reach. -/
theorem reached_or_regional (m : NamedPanelMember) :
    reachedMembers [m] = directedMembers [m] ∨
      m.memberType = .regionalMedical ∧ directedMembers [m] = [m] ∧ reachedMembers [m] = [] := by
  obtain ⟨member, memberType⟩ := m
  cases memberType with
  | regionalMedical => exact .inr ⟨rfl, rfl, rfl⟩
  | judge | medical | disability | financial => exact .inl rfl

/-- Where nobody is overlooked, regional medical members make no difference to the preferences. -/
theorem firstPerMember_of_not_overlooks (h : ¬ Overlooks members) :
    firstPerMember ((directedMembers members).filterMap (·.preference? requirement)) =
      firstPerMember ((reachedMembers members).filterMap (·.preference? requirement)) := by
  induction members using List.reverseRecOn with
  | nil => rfl
  | append_singleton members m ih =>
    have hbefore := ih fun hover => h (hover.append _)
    rw [directedMembers_append, reachedMembers_append, List.filterMap_append,
      List.filterMap_append]
    rcases reached_or_regional m with hsame | ⟨hregional, hdirected, hreached⟩
    · rw [hsame]
      exact firstPerMember_append_congr hbefore _
    · obtain ⟨id, hid, earlier, hearlier, hmentioned⟩ :
          ∃ id, m.id? = some id ∧ ∃ m' ∈ reachedMembers members, m'.id? = some id := by
        by_contra hnew
        exact h ⟨members, m, [], rfl, hregional,
          fun id hid m' hm' hsame => hnew ⟨id, hid, m', hm', hsame⟩⟩
      have hpreference : m.preference? requirement =
          some ⟨id, m.memberType.reference, requirement⟩ := by
        rw [NamedPanelMember.preference?, hid]
        rfl
      have hkept : id ∈ (firstPerMember
          ((directedMembers members).filterMap (·.preference? requirement))).map (·.memberId) := by
        rw [directs_firstPerMember.ids, List.mem_eraseDups, List.mem_filterMap]
        exact ⟨earlier, (mem_reachedMembers_iff.mp hearlier).1, hmentioned⟩
      have hlast : [m].filterMap (·.preference? requirement) =
          [⟨id, m.memberType.reference, requirement⟩] := by
        rw [List.filterMap_cons, hpreference, List.filterMap_nil]
      rw [hdirected, hreached, hlast, firstPerMember_concat, if_pos hkept, List.filterMap_nil,
        List.append_nil]
      exact hbefore

theorem PanelMemberType.eq_regionalMedical_of_reference {memberType : PanelMemberType}
    (h : memberType.reference = PanelMemberType.regionalMedical.reference) :
    memberType = .regionalMedical := by
  cases memberType with
  | regionalMedical => rfl
  | judge | medical | disability | financial => exact absurd h (by decide)

/-- The type of a preference tells whether it goes back to a regional medical member. So where the
same preferences are for all members and for those that directions reach, nobody is overlooked. -/
theorem not_overlooks_of_directs (hwritten : ∀ m ∈ directedMembers members, m.id? ≠ none)
    (hdirected : Directs (directedMembers members) requirement preferences)
    (hreached : Directs (reachedMembers members) requirement preferences) :
    ¬ Overlooks members := by
  rintro ⟨before, m, after, rfl, hregional, hnew⟩
  have hcons : directedMembers (m :: after) = m :: directedMembers after := by
    rw [directedMembers, List.filter_cons_of_pos (by rw [hregional]; rfl)]
    rfl
  have hm : m ∈ directedMembers (before ++ m :: after) := by
    rw [directedMembers_append, hcons]
    exact List.mem_append_right _ List.mem_cons_self
  obtain ⟨id, hid⟩ := Option.ne_none_iff_exists'.mp (hwritten m hm)
  have hmember : id ∈ preferences.map (·.memberId) := by
    rw [hdirected.ids, List.mem_eraseDups, List.mem_filterMap]
    exact ⟨m, hm, hid⟩
  obtain ⟨p, hp, rfl⟩ := List.mem_map.mp hmember
  obtain ⟨first, hfirst, htype⟩ := hdirected.first p hp
  obtain ⟨other, hother, htype'⟩ := hreached.first p hp
  have hfirstRegional : first.memberType = .regionalMedical := by
    rw [directedMembers_append, hcons, List.find?_append] at hfirst
    cases hearlier : (directedMembers before).find? (·.id? == some p.memberId) with
    | none =>
      rw [hearlier, Option.none_or, List.find?_cons_of_pos (by rw [hid]; exact beq_self_eq_true _)]
        at hfirst
      exact Option.some.inj hfirst ▸ hregional
    | some earlier =>
      rw [hearlier, Option.some_or] at hfirst
      obtain rfl := Option.some.inj hfirst
      by_contra hother
      exact hnew _ hid earlier
        (mem_reachedMembers_iff.mpr ⟨List.mem_of_find?_eq_some hearlier, hother⟩)
        (by simpa using List.find?_some hearlier)
  have hotherRegional : other.memberType = .regionalMedical := by
    apply PanelMemberType.eq_regionalMedical_of_reference
    rw [← htype', htype, hfirstRegional]
  exact (mem_reachedMembers_iff.mp (List.mem_of_find?_eq_some hother)).2 hotherRegional

end

/-! ## How far directions are carried out -/

section

variable {members : List NamedPanelMember} {requirement : PanelRequirement}
  {result : Derived (List PanelPreference)} {preferences : List PanelPreference}

theorem CarriesOut.of_error {m : NamedPanelMember}
    (h : result = .error (.invalidPanelMemberToken m.member)) (hm : m ∈ members)
    (hmalformed : m.id? = none) : CarriesOut members requirement result := by
  subst h
  refine ⟨⟨fun _ => ⟨m, hm, hmalformed⟩, fun _ => ⟨m.member, rfl⟩⟩, ?_⟩
  intro preferences hok
  cases hok

theorem CarriesOut.of_ok (h : result = .ok preferences) (hwritten : ∀ m ∈ members, m.id? ≠ none)
    (hdirects : Directs members requirement preferences) :
    CarriesOut members requirement result := by
  subst h
  constructor
  · constructor
    · rintro ⟨token, herror⟩
      cases herror
    · rintro ⟨m, hm, hmalformed⟩
      exact absurd hmalformed (hwritten m hm)
  · intro preferences' hok
    cases hok
    exact hdirects

/-- A malformed token of a regional medical member is overlooked, whatever is mentioned before. -/
theorem id?_ne_none_of_not_overlooks (h : ¬ Overlooks members)
    (hwritten : ∀ m ∈ reachedMembers members, m.id? ≠ none) :
    ∀ m ∈ directedMembers members, m.id? ≠ none := by
  intro m hm hmalformed
  by_cases hregional : m.memberType = .regionalMedical
  · obtain ⟨before, after, hsplit⟩ := List.append_of_mem (List.mem_filter.mp hm).1
    refine h ⟨before, m, after, hsplit, hregional, ?_⟩
    intro id hid
    rw [hmalformed] at hid
    cases hid
  · exact hwritten m (mem_reachedMembers_iff.mpr ⟨hm, hregional⟩) hmalformed

/-- The preferences of those whom directions reach are the ones for all, if nobody is overlooked. -/
theorem carriesOut_directedMembers_iff
    (h : result =
      .ok (firstPerMember ((reachedMembers members).filterMap (·.preference? requirement))))
    (hwritten : ∀ m ∈ reachedMembers members, m.id? ≠ none) :
    CarriesOut (directedMembers members) requirement result ↔ ¬ Overlooks members := by
  constructor
  · intro hcarried
    have hdirected : ∀ m ∈ directedMembers members, m.id? ≠ none := by
      intro m hm hmalformed
      obtain ⟨token, herror⟩ := hcarried.malformed_iff.mpr ⟨m, hm, hmalformed⟩
      rw [h] at herror
      cases herror
    exact not_overlooks_of_directs hdirected (hcarried.directs _ h) directs_firstPerMember
  · intro hnobody
    rw [← firstPerMember_of_not_overlooks hnobody] at h
    exact .of_ok h (id?_ne_none_of_not_overlooks hnobody hwritten) directs_firstPerMember

end

/-- On an adjournment in progress, where no judge is reserved, directions are carried out on all
members for whom they are meant but regional medical members, and the first malformed token among
theirs is the only thing that can be wrong. They are carried out on regional medical members as
well exactly if none of these is overlooked, or if there is a malformed token anyway. -/
theorem directions_carried_out_iff (c : CaseSnapshot) (reservedJudge : Option String)
    (requirement : PanelRequirement) (hprogress : c.adjournment.inProgress = true)
    (hjudge : Text.written reservedJudge = none)
    (hdirection : c.adjournment.panelMembersExcluded = some .yes ∧ requirement = .exclude ∨
      c.adjournment.panelMembersExcluded = some .reserved ∧ requirement = .mustInclude) :
    CarriesOut (reachedMembers c.adjournment.panelMembers) requirement
      (panelPreferences c reservedJudge true) ∧
    (∀ e, panelPreferences c reservedJudge true = .error e ↔
      ∃ m, (reachedMembers c.adjournment.panelMembers).find? (·.id?.isNone) = some m ∧
        e = .invalidPanelMemberToken m.member) ∧
    (CarriesOut (directedMembers c.adjournment.panelMembers) requirement
        (panelPreferences c reservedJudge true) ↔
      (Overlooks c.adjournment.panelMembers →
        ∃ m ∈ reachedMembers c.adjournment.panelMembers, m.id? = none)) := by
  have hpreferences : panelPreferences c reservedJudge true =
      match (reachedMembers c.adjournment.panelMembers).find? (·.id?.isNone) with
      | some m => .error (.invalidPanelMemberToken m.member)
      | none => .ok (firstPerMember
          ((reachedMembers c.adjournment.panelMembers).filterMap
            (·.preference? requirement))) := by
    rcases hdirection with ⟨hexclusion, rfl⟩ | ⟨hexclusion, rfl⟩
    · exact panelPreferences_of_directions hprogress hjudge hexclusion rfl
    · exact panelPreferences_of_directions hprogress hjudge hexclusion rfl
  generalize c.adjournment.panelMembers = members at hpreferences ⊢
  cases hfind : (reachedMembers members).find? (·.id?.isNone) with
  | some m =>
    rw [hfind] at hpreferences
    have hm : m ∈ reachedMembers members := List.mem_of_find?_eq_some hfind
    have hmalformed : m.id? = none := by simpa using List.find?_some hfind
    refine ⟨.of_error hpreferences hm hmalformed, ?_, fun _ _ => ⟨m, hm, hmalformed⟩, fun _ =>
      .of_error hpreferences (mem_reachedMembers_iff.mp hm).1 hmalformed⟩
    intro e
    rw [hpreferences]
    simp [eq_comm]
  | none =>
    rw [hfind] at hpreferences
    have hwritten : ∀ m ∈ reachedMembers members, m.id? ≠ none := by
      intro m hm hmalformed
      exact List.find?_eq_none.mp hfind m hm (by rw [hmalformed]; rfl)
    refine ⟨.of_ok hpreferences hwritten directs_firstPerMember, ?_, ?_⟩
    · intro e
      rw [hpreferences]
      simp
    · rw [carriesOut_directedMembers_iff hpreferences hwritten]
      apply imp_congr_right
      intro _
      constructor
      · exact False.elim
      · rintro ⟨m, hm, hmalformed⟩
        exact hwritten m hm hmalformed

/-- An appeal that was adjourned with directions about members who are named. -/
def adjournedWith (exclusion : PanelExclusion) (members : List NamedPanelMember) :
    CaseSnapshot where
  caseId := "1"
  benefitCode := "002"
  issueCode := "DD"
  adjournment := {
    inProgress := true
    panelMembersExcluded := some exclusion
    panelMembers := members }

/-- Members among whom there is one that is named twice, and one with a malformed token. -/
def repeatedMembers : List NamedPanelMember :=
  [⟨"F3", .financial⟩, ⟨" J1 |84", .judge⟩, ⟨"D2|44", .disability⟩, ⟨"J1|58", .medical⟩]

/-- The member who is named twice has one preference, under the type that is mentioned first and
without the white space in its token. The malformed token stands for nobody, but no directions are
meant for that member. -/
theorem directions_carried_out_iff_repeated :
    panelPreferences (adjournedWith .reserved repeatedMembers) (some " ") true =
      .ok [⟨"J1", "84", .mustInclude⟩, ⟨"D2", "44", .mustInclude⟩] ∧
    Directs (reachedMembers repeatedMembers) .mustInclude
      [⟨"J1", "84", .mustInclude⟩, ⟨"D2", "44", .mustInclude⟩] ∧
    (∃ roleType, Designates " J1 |84" "J1" roleType) ∧
    ∀ id roleType, ¬ Designates "F3" id roleType := by
  have h : panelPreferences (adjournedWith .reserved repeatedMembers) (some " ") true =
      .ok [⟨"J1", "84", .mustInclude⟩, ⟨"D2", "44", .mustInclude⟩] := rfl
  refine ⟨h, (directions_carried_out_iff (adjournedWith .reserved repeatedMembers) (some " ")
    .mustInclude rfl rfl (.inr ⟨rfl, rfl⟩)).1.directs _ h,
    (NamedPanelMember.id?_eq_some_iff (m := ⟨" J1 |84", .judge⟩)).mp rfl, ?_⟩
  intro id roleType hdesignates
  cases (NamedPanelMember.id?_eq_some_iff (m := ⟨"F3", .financial⟩)).mpr ⟨roleType, hdesignates⟩

/-- A judge is excluded as directed, and a regional medical member is not. -/
theorem exclusion_overlooks_regionalMedical :
    let members : List NamedPanelMember := [⟨"J1|84", .judge⟩, ⟨"R7|69", .regionalMedical⟩]
    let result := panelPreferences (adjournedWith .yes members) none true
    PanelMemberType.regionalMedical.isMedicallyQualified = true ∧
      result = .ok [⟨"J1", "84", .exclude⟩] ∧
      ¬ CarriesOut (directedMembers members) .exclude result := by
  intro members result
  have hresult : result = .ok [⟨"J1", "84", .exclude⟩] := rfl
  refine ⟨rfl, hresult, ?_⟩
  intro hcarried
  have hids := (hcarried.directs _ hresult).ids
  exact absurd hids (by decide)

end TribunalListing
