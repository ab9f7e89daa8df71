-- SUMMARY: Which ids the client of the hearing service keeps apart: those that are sent unchanged.
import TribunalListing.Http.Client
import TribunalListing.Proofs.Http.Url

/-!
# Targets

The client writes the id of a hearing or a case into the path of a URL as it is, and the URL is read
again before anything is sent. Whatever the id, it is the same service that is asked. But with a
slash, a question mark, a hash sign or dots in the id, what the service is asked about need not be
the id: it may be another id, or something that is no id at all. The ids that are kept apart are
those in which there is nothing to encode, to cut off or to resolve.
-/

namespace TribunalListing.Http

/-! ## Parts that are sent unchanged -/

/-- The text is one part of a path: nothing in it ends the part, and it is not resolved. -/
structure IsSegment (part : List Char) : Prop where
  bare : ∀ c ∈ part, c ≠ '/' ∧ c ≠ '?' ∧ c ≠ '#'
  not_oneDot : isOneDot part = false
  not_twoDots : isTwoDots part = false

/-- The text is sent unchanged where one part of a path is wanted. -/
structure IsVerbatim (part : List Char) : Prop where
  stands : ∀ c ∈ part, standsInPath c = true
  not_oneDot : isOneDot part = false
  not_twoDots : isTwoDots part = false

namespace IsVerbatim

variable {folder part : List Char}

theorem isSegment (h : IsVerbatim part) : IsSegment part :=
  ⟨fun c hc => ne_of_standsInPath (h.stands c hc), h.not_oneDot, h.not_twoDots⟩

theorem isSlash_eq_false (h : IsVerbatim part) : ∀ c ∈ part, isSlash c = false :=
  fun c hc => (standsInPath_iff.mp (h.stands c hc)).2.1

/-- A property of characters that a slash has, and all characters that are sent unchanged. -/
theorem forall_mem_append {p : Char → Prop} (hfolder : IsVerbatim folder) (hpart : IsVerbatim part)
    (hslash : p '/') (hstands : ∀ c, standsInPath c = true → p c) :
    ∀ c ∈ folder ++ '/' :: part, p c := by
  rw [List.forall_mem_append, List.forall_mem_cons]
  exact ⟨fun c hc => hstands c (hfolder.stands c hc), hslash,
    fun c hc => hstands c (hpart.stands c hc)⟩

theorem cleanRest_append (hfolder : IsVerbatim folder) (hpart : IsVerbatim part) :
    cleanRest (folder ++ '/' :: part) = folder ++ '/' :: part :=
  cleanRest_eq_self (hfolder.forall_mem_append hpart (by decide) fun _ => lt_of_standsInPath)

theorem pathPart_append (hfolder : IsVerbatim folder) (hpart : IsVerbatim part) :
    pathPart (folder ++ '/' :: part) = folder ++ '/' :: part := by
  have hbare := hfolder.forall_mem_append hpart (by decide) fun _ h => (ne_of_standsInPath h).2
  have hpath := Http.pathPart_append hbare []
  rwa [List.append_nil, show pathPart [] = [] from rfl, List.append_nil] at hpath

theorem queryPart_append (hfolder : IsVerbatim folder) (hpart : IsVerbatim part) :
    queryPart (folder ++ '/' :: part) = [] := by
  have hbare := hfolder.forall_mem_append hpart (by decide) fun _ h => (ne_of_standsInPath h).2
  have hquery := Http.queryPart_append hbare []
  rwa [List.append_nil] at hquery

theorem splitOnP_append (hfolder : IsVerbatim folder) (hpart : IsVerbatim part) :
    (folder ++ '/' :: part).splitOnP isSlash = [folder, part] := by
  rw [List.splitOnP_append_cons_of_forall_mem hfolder.isSlash_eq_false '/' rfl,
    List.splitOnP_eq_singleton hpart.isSlash_eq_false]

theorem pathText_append (hfolder : IsVerbatim folder) (hpart : IsVerbatim part)
    (kept : List (List Char)) :
    pathText (part :: folder :: kept).reverse =
      pathText kept.reverse ++ '/' :: (folder ++ '/' :: part) := by
  rw [List.reverse_cons, List.reverse_cons, Http.pathText_append, Http.pathText_append,
    pathText_singleton, pathText_singleton, percentEncode_eq_self hfolder.stands,
    percentEncode_eq_self hpart.stands, List.append_assoc, List.cons_append]

end IsVerbatim

/-! ## The service of a client -/

/-- The client is for the service at an address: its URL names it, where the address is read with a
slash at its end. There is an authority to talk to, the path is not followed by anything else, and
the token can be shown. -/
structure Client.IsFor (client : Client) (root : Address) : Prop where
  reads : Address.ofUrl? (client.baseUrl ++ "/") = some root
  authority : root.authority ≠ ""
  bare : '?' ∉ client.baseUrl.toList ∧ '#' ∉ client.baseUrl.toList
  token : ∀ token ∈ client.token, isHeaderText token = true

namespace Client

variable {client : Client} {root : Address}

/-- The scheme is at the start of the client's own URL. -/
theorem IsFor.exists_outer (h : client.IsFor root) :
    ∃ outer, (∀ c ∈ outer, c ≠ '?' ∧ c ≠ '#') ∧ root = Address.ofRest (outer ++ ['/']) ∧
      ∀ below, Address.afterScheme? (cleanStart client.baseUrl.toList ++ below) =
        some (outer ++ below) := by
  have hslash : "/".toList = ['/'] := rfl
  have hclean : cleanRest [] = [] := rfl
  have hreads := h.reads
  rw [Address.ofUrl?_eq, String.toList_append, hslash, cleanUrl_append, hclean] at hreads
  obtain ⟨rest, hrest, rfl⟩ := Option.map_eq_some_iff.mp hreads
  have hlength : 7 ≤ (cleanStart client.baseUrl.toList).length := by
    by_contra hshort
    have hnil : rest = [] := by
      rw [Address.eq_drop_of_afterScheme? hrest, List.drop_eq_nil_iff, List.length_append,
        List.length_singleton]
      omega
    -- with nothing behind the scheme there would be no authority
    exact h.authority (hnil ▸ rfl)
  rw [Address.afterScheme?_append _ hlength] at hrest
  obtain ⟨outer, houter, rfl⟩ := Option.map_eq_some_iff.mp hrest
  refine ⟨outer, ?_, rfl, fun below => ?_⟩
  · intro c hc
    rw [Address.eq_drop_of_afterScheme? houter] at hc
    have hstart := List.mem_of_mem_filter (List.mem_of_mem_drop hc)
    have hbase : c ∈ client.baseUrl.toList := (List.dropWhile_suffix _).mem hstart
    exact ⟨fun heq => h.bare.1 (heq ▸ hbase), fun heq => h.bare.2 (heq ▸ hbase)⟩
  · rw [Address.afterScheme?_append _ hlength, houter, Option.map_some]

/-- Whatever comes below the URL of the client, the authority is that of the service, and the path
is read from the levels that the service is at. -/
theorem IsFor.exists_ofUrl? (h : client.IsFor root) :
    ∃ kept, root.path = pathText kept.reverse ++ ['/'] ∧ root.query = [] ∧
      ∀ url below : String, url.toList = client.baseUrl.toList ++ '/' :: below.toList →
        Address.ofUrl? url = some
          { authority := root.authority
            path := pathText (resolveDots kept
              ((pathPart (cleanRest below.toList)).splitOnP isSlash))
            query := queryPart (cleanRest below.toList) } := by
  obtain ⟨outer, hbare, rfl, hscheme⟩ := h.exists_outer
  obtain ⟨kept, hkept⟩ := Address.exists_ofRest_append hbare
  have hlevels : resolveDots kept ((pathPart []).splitOnP isSlash) = kept.reverse ++ [[]] := by
    have hnil : (pathPart []).splitOnP isSlash = [[]] := List.splitOnP_nil
    rw [hnil, resolveDots_cons_of_not_dots rfl rfl, resolveDots, List.reverse_cons]
  refine ⟨kept, ?_, ?_, fun url below hurl => ?_⟩
  · rw [hkept, hlevels, pathText_append]
    rfl
  · rw [hkept]
    rfl
  · rw [Address.ofUrl?_eq, hurl, cleanUrl_append, hscheme, Option.map_some, hkept, hkept]

theorem IsFor.query_eq_nil (h : client.IsFor root) : root.query = [] := by
  obtain ⟨-, -, hquery, -⟩ := h.exists_ofUrl?
  exact hquery

end Client

/-! ## Calls about an id -/

/-- The calls that are about an id, with the folder below the service that the id is written into:
hearings are in one folder, and the hearings of a case are listed under another. -/
inductive AsksIn : String → (String → ServiceCall) → Prop where
  | update (request : HearingRequest) : AsksIn "hearing" (.update · request)
  | cancel (request : CancelRequest) : AsksIn "hearing" (.cancel · request)
  | get : AsksIn "hearing" .get
  | list : AsksIn "hearings" .list

section

variable {folder : String} {call : String → ServiceCall}

theorem AsksIn.callQuery_eq (hcall : AsksIn folder call) (id : String) :
    callQuery (call id) = .ok [] := by
  cases hcall <;> rfl

theorem AsksIn.path_eq (hcall : AsksIn folder call) (id : String) :
    (callShape (call id)).2.1.toList = '/' :: (folder ++ "/" ++ id).toList := by
  cases hcall <;> simp [callShape]

theorem AsksIn.isVerbatim (hcall : AsksIn folder call) : IsVerbatim folder.toList := by
  cases hcall <;> exact ⟨List.all_eq_true.mp rfl, rfl, rfl⟩

end

/-! ## Requests -/

namespace Client

/-- The target of the request for a call, if there is a request. -/
def target? (client : Client) (call : ServiceCall) : Option String :=
  (client.request call).toOption.map (·.address.target)

variable {client : Client} {root : Address} {folder : String} {call : String → ServiceCall}

theorem IsFor.all_isHeaderText (h : client.IsFor root) :
    (client.token.map ("Bearer " ++ ·)).all isHeaderText = true := by
  cases htoken : client.token with
  | none => rfl
  | some token =>
    have hshown := h.token token htoken
    rw [isHeaderText] at hshown
    rw [Option.map_some, Option.all_some, isHeaderText, String.toList_append, List.all_append,
      hshown]
    rfl

/-- A call about an id is sent to the address that its URL names. -/
theorem IsFor.request_eq (h : client.IsFor root) (hcall : AsksIn folder call) {id : String}
    {address : Address}
    (haddress : Address.ofUrl? (client.baseUrl ++ (callShape (call id)).2.1) = some address) :
    client.request (call id) =
      .ok ⟨(callShape (call id)).1, address, client.token.map ("Bearer " ++ ·),
        (callShape (call id)).2.2⟩ := by
  unfold request
  rw [hcall.callQuery_eq]
  simp only [haddress, h.all_isHeaderText, if_true]
  change Except.ok (ServiceRequest.mk _ (address.withQuery []) _ _) = _
  rw [address.withQuery_nil]

/-- Whatever the id, there is a request, and it goes to the authority of the service, with the id
read from the level below the folder. -/
theorem IsFor.exists_request (h : client.IsFor root) (hcall : AsksIn folder call) :
    ∃ kept, root.target.toList = pathText kept.reverse ++ ['/'] ∧
      ∀ id, ∃ request, client.request (call id) = .ok request ∧
        Address.ofUrl? (client.baseUrl ++ (callShape (call id)).2.1) = some request.address ∧
        request.address =
          { authority := root.authority
            path := pathText (resolveDots kept
              ((pathPart (cleanRest (folder ++ "/" ++ id).toList)).splitOnP isSlash))
            query := queryPart (cleanRest (folder ++ "/" ++ id).toList) } := by
  obtain ⟨kept, hpath, hquery, haddress⟩ := h.exists_ofUrl?
  refine ⟨kept, by rw [Address.toList_target_of_query hquery, hpath], fun id => ?_⟩
  have hid := haddress (client.baseUrl ++ (callShape (call id)).2.1) (folder ++ "/" ++ id)
    (by rw [String.toList_append, hcall.path_eq])
  exact ⟨_, h.request_eq hcall hid, hid, rfl⟩

theorem target?_of_request {c : ServiceCall} {request : ServiceRequest}
    (h : client.request c = .ok request) : client.target? c = some request.address.target := by
  rw [target?, h]
  rfl

/-- An id that is sent unchanged is one part of the path, below the folder. -/
theorem IsFor.target?_of_isVerbatim (h : client.IsFor root) (hcall : AsksIn folder call)
    {id : String} (hid : IsVerbatim id.toList) :
    client.target? (call id) = some (root.target ++ folder ++ "/" ++ id) := by
  have hfolder := hcall.isVerbatim
  obtain ⟨kept, hroot, hrequest⟩ := h.exists_request hcall
  obtain ⟨request, hrequest, -, haddress⟩ := hrequest id
  have hbelow : (folder ++ "/" ++ id).toList = folder.toList ++ '/' :: id.toList := by simp
  rw [hbelow, hfolder.cleanRest_append hid, hfolder.pathPart_append hid,
    hfolder.queryPart_append hid, hfolder.splitOnP_append hid,
    resolveDots_cons_of_not_dots hfolder.not_oneDot hfolder.not_twoDots,
    resolveDots_cons_of_not_dots hid.not_oneDot hid.not_twoDots, resolveDots,
    hfolder.pathText_append hid] at haddress
  have htarget : request.address.target = root.target ++ folder ++ "/" ++ id := by
    apply String.toList_injective
    rw [Address.toList_target_of_query (haddress ▸ rfl), haddress]
    simp [hroot]
  rw [target?_of_request hrequest, htarget]

/-- A part of a path that the service is asked about has nothing in it to encode. -/
theorem IsFor.isVerbatim_of_target? (h : client.IsFor root) (hcall : AsksIn folder call)
    {id segment : String} (hsegment : IsSegment segment.toList)
    (htarget : client.target? (call id) = some (root.target ++ folder ++ "/" ++ segment)) :
    IsVerbatim segment.toList := by
  obtain ⟨_, -, hrequest⟩ := h.exists_request hcall
  obtain ⟨request, hrequest, haddress, -⟩ := hrequest id
  rw [target?_of_request hrequest, Option.some_inj] at htarget
  have hroot : '?' ∉ root.target.toList := by
    intro hmem
    rw [Address.toList_target_of_query h.query_eq_nil] at hmem
    have hsent := Address.eq_slash_or_standsInPath_of_mem_path h.reads hmem
    exact absurd hsent (by decide)
  have hquery : request.address.query = [] := by
    apply Address.query_eq_nil_of_target
    rw [htarget]
    simp only [String.toList_append, List.mem_append, not_or]
    refine ⟨⟨⟨hroot, fun hmem => (hcall.isVerbatim.isSegment.bare _ hmem).2.1 rfl⟩, by decide⟩,
      fun hmem => (hsegment.bare _ hmem).2.1 rfl⟩
  refine ⟨fun c hc => ?_, hsegment.not_oneDot, hsegment.not_twoDots⟩
  have hsent : c ∈ request.address.path := by
    rw [← Address.toList_target_of_query hquery, htarget, String.toList_append]
    exact List.mem_append_right _ hc
  exact (Address.eq_slash_or_standsInPath_of_mem_path haddress hsent).resolve_left
    (hsegment.bare c hc).1

/-! ## Ids that are kept apart -/

/-- The calls about some ids are kept apart below the address of the service: each asks for one part
of a path below the folder, and for different ids they do not ask for the same. -/
structure KeepsApart (client : Client) (root : Address) (folder : String)
    (call : String → ServiceCall) (ids : String → Prop) : Prop where
  below : ∀ id, ids id → ∃ segment : String, IsSegment segment.toList ∧
    client.target? (call id) = some (root.target ++ folder ++ "/" ++ segment)
  apart : ∀ id other, ids id → ids other → id ≠ other →
    client.target? (call id) ≠ client.target? (call other)

end Client

/-- Whatever the id of a hearing or a case, a call about it goes to the service. An id that is sent
unchanged is asked for as one part of a path below the folder, and so all of these ids are kept
apart. They are as many as there can be: among any more ids there is one that is not asked for as
one part of a path below the folder, or that is taken for another. -/
theorem keepsApart_iff_isVerbatim {client : Client} {root : Address} {folder : String}
    {call : String → ServiceCall} (h : client.IsFor root) (hcall : AsksIn folder call) :
    (∀ id, ∃ request, client.request (call id) = .ok request ∧
      request.address.authority = root.authority) ∧
    (∀ id : String, IsVerbatim id.toList →
      client.target? (call id) = some (root.target ++ folder ++ "/" ++ id)) ∧
    ∀ ids : String → Prop, (∀ id : String, IsVerbatim id.toList → ids id) →
      (client.KeepsApart root folder call ids ↔ ∀ id, ids id → IsVerbatim id.toList) := by
  refine ⟨fun id => ?_, fun id => h.target?_of_isVerbatim hcall, fun ids hall => ⟨?_, ?_⟩⟩
  · obtain ⟨_, -, hrequest⟩ := h.exists_request hcall
    obtain ⟨request, hrequest, -, haddress⟩ := hrequest id
    exact ⟨request, hrequest, haddress ▸ rfl⟩
  · intro hapart id hid
    obtain ⟨segment, hsegment, htarget⟩ := hapart.below id hid
    have hverbatim := h.isVerbatim_of_target? hcall hsegment htarget
    by_contra hnot
    have hne : id ≠ segment := fun heq => hnot (heq ▸ hverbatim)
    apply hapart.apart id segment hid (hall segment hverbatim) hne
    rw [htarget, h.target?_of_isVerbatim hcall hverbatim]
  · intro hverbatim
    refine ⟨fun id hid => ⟨id, (hverbatim id hid).isSegment,
      h.target?_of_isVerbatim hcall (hverbatim id hid)⟩, ?_⟩
    intro id other hid hother hne hsame
    rw [h.target?_of_isVerbatim hcall (hverbatim id hid),
      h.target?_of_isVerbatim hcall (hverbatim other hother), Option.some_inj] at hsame
    exact hne (by simpa using hsame)

/-- A client of a service that is not at the top of its authority. -/
def localClient : Client := Client.of "http://localhost:8080/api/" (some "token")

/-- Where the service is. -/
def localRoot : Address where
  authority := "localhost:8080"
  path := "/api/".toList
  query := []

/-- The ids of hearings that are sent unchanged are kept apart, and not all ids are. -/
theorem keepsApart_iff_isVerbatim_local :
    localClient.IsFor localRoot ∧ localClient.target? (.get "H1") = some "/api/hearing/H1" ∧
      (localClient.KeepsApart localRoot "hearing" .get fun id => IsVerbatim id.toList) ∧
      ¬ localClient.KeepsApart localRoot "hearing" .get fun _ => True := by
  have hlocal : localClient.IsFor localRoot := ⟨rfl, by decide, by decide, by decide⟩
  obtain ⟨-, hverbatim, hiff⟩ := keepsApart_iff_isVerbatim hlocal .get
  refine ⟨hlocal, hverbatim "H1" ⟨List.all_eq_true.mp rfl, rfl, rfl⟩, ?_, fun hapart => ?_⟩
  · exact (hiff _ fun _ hid => hid).mpr fun _ hid => hid
  · have hhash := (hiff _ fun _ _ => trivial).mp hapart "H1#2" trivial
    exact absurd (hhash.stands '#' (by decide)) (by decide)

/-- Different ids are taken for one another: what is behind a hash sign is cut off, a space is sent
as if it had been encoded in the id, and two dots lead back out of an id. -/
theorem targets_coincide :
    localClient.target? (.get "H1#2") = localClient.target? (.get "H1") ∧
      localClient.target? (.get "H 1") = localClient.target? (.get "H%201") ∧
      localClient.target? (.list "7/../8") = localClient.target? (.list "8") ∧
      localClient.target? (.get "H1") = some "/api/hearing/H1" := by
  decide +kernel

end TribunalListing.Http
