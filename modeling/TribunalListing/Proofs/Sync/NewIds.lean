-- SUMMARY: The ids that a merge puts at places: those that were sent for these very places, and fresh numbers.
import TribunalListing.Proofs.Request.Records
import TribunalListing.Proofs.Sync.Merge

/-!
# New ids after a merge

Between the derivation of a request and the merge of its outcome, parties may have come, gone or
changed their places. An id that was sent is copied to its own place only, and for an other party
only if the name there is still the same. Whoever is left without an id is given a number above all
that were sent for a party and all that a party holds on the case by now. So no id that was sent for
one place comes to another one. The respondent has no place, and the number on its record does not
count: it can come to a party.
-/

namespace TribunalListing.Outcome

open CaseSnapshot

variable {o : Outcome} {current : CaseSnapshot}

/-- What stands at a place after parties were numbered stood there before, or is a number above all
on the case and above all on the snapshot that the request was derived from. -/
theorem idAt_numberParties_eq_or (o : Outcome) (c : CaseSnapshot) (place : Place) :
    (o.numberParties c).1.idAt place = c.idAt place ∨
      ∃ n, (o.numberParties c).1.idAt place = some (toString n) ∧
        partyNumber? (toString n) = some n ∧
        c.highestPartyNumber < n ∧ o.derived.highestPartyNumber < n := by
  unfold numberParties
  split
  next numbered h =>
    rcases idAt_of_assignIdsAbove_eq_or h place with hkept | ⟨id, hid, hnew⟩
    · exact .inl hkept
    · obtain ⟨n, hn, hhighest, hfloor, rfl⟩ := partyNumber?_of_assigned h hid
      exact .inr ⟨n, hnew, hn, hhighest, hfloor⟩
  next => exact .inl rfl

/-- The two ways in which a merge puts an id at a place: it is offered by the snapshot of the
outcome for this place, or it is a number above all that are held on either side. -/
theorem idAt_merged_new {place : Place}
    (hnew : (o.merged current).idAt place ≠ current.idAt place) :
    (∃ id, (o.merged current).idAt place = some id ∧
        o.derived.offeredId? current place = some id) ∨
      ∃ n, (o.merged current).idAt place = some (toString n) ∧
        partyNumber? (toString n) = some n ∧ o.derived.highestPartyNumber < n ∧
        ∀ other id m, current.idAt other = some id → partyNumber? id = some m → m < n := by
  rw [idAt_merged] at hnew ⊢
  rcases idAt_numberParties_eq_or o (o.derived.copyIds (o.recordHearing current)) place with
    hkept | ⟨n, hn, hnumber, hhighest, hderived⟩
  · rcases idAt_copyIds_eq_or o.derived (o.recordHearing current) place with
      hsame | ⟨id, hid, hoffered⟩
    · exact absurd (hkept.trans hsame) hnew
    · exact .inl ⟨id, hkept.trans hid, hoffered⟩
  · refine .inr ⟨n, hn, hnumber, hderived, ?_⟩
    intro other id m hid hm
    -- copying leaves every number of the current case where it is
    have hcopied : m ≤ (o.derived.copyIds (o.recordHearing current)).highestPartyNumber :=
      filled_copyIds.le_highestPartyNumber (c := o.recordHearing current) hid hm
    exact Nat.lt_of_le_of_lt hcopied hhighest

/-- An id that a merge puts at a place is the one that the snapshot of the outcome holds at that
same place, an other party being of the same name there, or it is a number above every number that
is held at any place, active or not, of that snapshot and of the current case. So an id that was
sent for some place comes to no other place, unless it was sent for that one too. Nothing is said of
the respondent, who has no place. -/
theorem newIds_of_mergeInto {s : CaseSnapshot} (h : o.mergeInto current = some s) {place : Place}
    (hnew : s.idAt place ≠ current.idAt place) :
    ∃ id, s.idAt place = some id ∧
      ((o.derived.isActive place = true ∧ o.derived.idAt place = some id ∧
          ∀ i, place.otherIndex? = some i → ∃ p q, o.derived.otherParties[i]? = some p ∧
            current.otherParties[i]? = some q ∧ p.name = q.name) ∨
        ∃ n, id = toString n ∧
          (∀ other id' m, o.derived.idAt other = some id' → partyNumber? id' = some m → m < n) ∧
          (∀ other id' m, current.idAt other = some id' → partyNumber? id' = some m → m < n)) ∧
      ∀ other, o.derived.idAt other = some id →
        o.derived.isActive place = true ∧ o.derived.idAt place = some id := by
  rw [eq_merged_of_mergeInto h] at hnew ⊢
  rcases idAt_merged_new hnew with ⟨id, hid, hoffered⟩ | ⟨n, hn, hnumber, hderived, hcurrent⟩
  · obtain ⟨hactive, hsame, hheld, -⟩ := offeredId?_eq_some_iff.mp hoffered
    exact ⟨id, hid, .inl ⟨hactive, hheld, sameParty_iff.mp hsame⟩, fun _ _ => ⟨hactive, hheld⟩⟩
  · have habove : ∀ other id' m, o.derived.idAt other = some id' → partyNumber? id' = some m →
        m < n := by
      intro other id' m hid hm
      exact Nat.lt_of_le_of_lt (le_highestPartyNumber hid hm) hderived
    refine ⟨toString n, hn, .inr ⟨n, rfl, habove, hcurrent⟩, ?_⟩
    -- a number above all that were sent was not sent itself
    intro other hsent
    exact absurd (habove other _ n hsent hnumber) (Nat.lt_irrefl n)

/-- The snapshot of the adjourned appeal with an id for the representative, who has withdrawn since;
a joint party has been added instead. -/
def withdrawnCase : CaseSnapshot :=
  { adjournedCase with
    representative := none
    jointParty := some { hasJointParty := some .yes } }

/-- The joint party is not given the id that was sent for the representative. -/
theorem newIds_of_mergeInto_withdrawn :
    ∃ s, adjournedOutcome.mergeInto withdrawnCase = some s ∧
      adjournedOutcome.derived.idAt .representative = some "2" ∧
      s.idAt .jointParty ≠ withdrawnCase.idAt .jointParty ∧
      s.idAt .jointParty = some "3" ∧ s.idAt .jointParty ≠ some "2" := by
  obtain ⟨s, hs, hthree⟩ : ∃ s, adjournedOutcome.mergeInto withdrawnCase = some s ∧
      s.idAt .jointParty = some "3" := ⟨_, rfl, rfl⟩
  have hnew : s.idAt .jointParty ≠ withdrawnCase.idAt .jointParty := by
    rw [hthree]
    decide
  obtain ⟨id, hid, -, hsent⟩ := newIds_of_mergeInto hs hnew
  refine ⟨s, hs, rfl, hnew, hthree, ?_⟩
  intro htwo
  obtain rfl := Option.some.inj (hid.symm.trans htwo)
  obtain ⟨hactive, -⟩ := hsent .representative rfl
  cases hactive

/-- An appeal whose respondent has the number after the appellant's. -/
def numberedRespondent : CaseSnapshot where
  caseId := "1"
  benefitCode := "002"
  issueCode := "DD"
  appellant := { id := some "1" }
  respondent := { partyId := "2" }
  overrides := { venueIds := some ["1001"] }

/-- The appeal after a joint party has been added. -/
def joinedCase : CaseSnapshot :=
  { numberedRespondent with jointParty := some { hasJointParty := some .yes } }

/-- The outcome of asking for a hearing of the appeal, before the joint party was added. -/
def joinedOutcome : Outcome where
  action := .create
  hearing := ⟨"h", 1, .hearingRequested⟩
  derived := numberedRespondent
  clearAdjournment := false

/-- The joint party is given the id that was sent for the respondent, and that the respondent still
has. -/
theorem newIds_overlook_respondent :
    ∃ (a : AssembledRequest) (s : CaseSnapshot),
      assembleRequest numberedRespondent plainReference {} none = .ok a ∧
      a.case = joinedOutcome.derived ∧
      (∃ record ∈ a.request.parties, record.partyRole = .respondent ∧ record.partyId = "2") ∧
      joinedCase.respondent.partyId = "2" ∧ joinedCase.idAt .jointParty = none ∧
      joinedOutcome.mergeInto joinedCase = some s ∧ s.idAt .jointParty = some "2" :=
  ⟨_, _, rfl, rfl, ⟨_, .tail _ (.head _), rfl, rfl⟩, rfl, rfl, rfl, rfl⟩

end TribunalListing.Outcome
