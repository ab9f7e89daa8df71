-- SUMMARY: Deriving again from a case whose parties have ids gives the same request.
import TribunalListing.Proofs.Case.Identity
import TribunalListing.Proofs.Request.Derivation

/-!
# Deriving again

A request depends on the case without its history, and its version is put on it last. So once the
parties of a case have their ids, it is the same request that is derived from the case, whatever has
come into its history and whichever version is to be updated. In the same way, a change of the case
that has nothing to do with ids can be followed from the request of the case with ids assigned to
that of the case itself.
-/

namespace TribunalListing

variable {c : CaseSnapshot} {reference : ReferenceData} {options : DerivationOptions}
  {version : Option Int64}

theorem requestFor_hearings (history : HearingHistory) :
    requestFor { c with hearings := history } reference options version =
      requestFor c reference options version := rfl

/-- The version goes nowhere but into the details of the request. -/
theorem requestFor_version (version' : Option Int64) :
    requestFor c reference options version' =
      ({ · with request := ⟨version'⟩ }) <$> requestFor c reference options version := by
  simp only [requestFor, map_bind, map_pure]

/-- A request is derived again from the case that it was derived from, with ids assigned, whatever
its history. No id is handed out any more. -/
theorem assembleRequest_again {a : AssembledRequest}
    (h : assembleRequest c reference options version = .ok a) (history : HearingHistory)
    (version' : Option Int64) :
    assembleRequest { a.case with hearings := history } reference options version' =
      .ok {
        request := { a.request with request := ⟨version'⟩ }
        case := { a.case with hearings := history }
        assignedIds := [] } := by
  obtain ⟨hassign, hrequest⟩ := assembleRequest_eq_ok h
  have hvacant : { a.case with hearings := history }.vacantPlaces = [] :=
    CaseSnapshot.vacantPlaces_of_assignIdsAbove
      (CaseSnapshot.assignIdsAbove_hearings hassign history)
  have hassign' : { a.case with hearings := history }.assignIds =
      .ok ({ a.case with hearings := history }, []) :=
    CaseSnapshot.assignIdsAbove_of_vacantPlaces_eq_nil hvacant 0
  have hrequest' : requestFor { a.case with hearings := history } reference options version' =
      .ok { a.request with request := ⟨version'⟩ } := by
    rw [requestFor_hearings, requestFor_version version', hrequest]
    rfl
  refine derived_bind_eq_ok_iff.mpr ⟨_, hassign', ?_⟩
  exact derived_bind_eq_ok_iff.mpr ⟨_, hrequest', rfl⟩

/-- A change of the case that has nothing to do with ids and does not show in the request, once ids
are assigned, shows in nothing but the case that is given back. -/
theorem assembleRequest_of_sparesIds {f : CaseSnapshot → CaseSnapshot}
    (hf : CaseSnapshot.SparesIds f)
    (hrequest : ∀ d : CaseSnapshot, d.withoutIds = c.withoutIds →
      requestFor (f d) reference options version = requestFor d reference options version) :
    assembleRequest (f c) reference options version =
      (assembleRequest c reference options version).map fun a => { a with case := f a.case } := by
  have hassign := hf.assignIdsAbove c 0
  simp only [assembleRequest, CaseSnapshot.assignIds, hassign]
  cases hids : c.assignIdsAbove 0 with
  | error e => rfl
  | ok numbering =>
    obtain ⟨numbered, ids⟩ := numbering
    have hsame := hrequest numbered (CaseSnapshot.filled_of_assignIdsAbove hids).rest
    simp only [Except.map, bind, Except.bind, hsame]
    cases requestFor numbered reference options version <;> rfl

end TribunalListing
