-- SUMMARY: How a URL is read that is put together from the URL of a service and a path below it.
import Mathlib.Data.List.DropRight
import TribunalListing.Http.Url

/-!
# URLs put together from two parts

The path of a URL is split, its dots are resolved and its characters are encoded, all of it after
the text of the URL has been put together. Where a slash is between two parts of the text, they can
be read one after the other: the first part comes down to an authority and to the levels that are
reached so far, and the second part is read from there.
-/

namespace TribunalListing.Http

/-! ## Encoding a part -/

/-- The character stands in a part of a path as it is. -/
def standsInPath (c : Char) : Bool :=
  !isEncodedInPath c && !isSlash c && c.toNat < 0x80

theorem standsInPath_iff {c : Char} :
    standsInPath c = true ↔ isEncodedInPath c = false ∧ isSlash c = false ∧ c.toNat < 0x80 := by
  simp [standsInPath, and_assoc]

section

variable {c : Char} {part : List Char}

theorem lt_of_standsInPath (h : standsInPath c = true) : 0x20 < c.toNat := by
  have hencoded := (standsInPath_iff.mp h).1
  by_contra hmargin
  rw [isEncodedInPath, isControl, Bool.or_eq_false_iff, Bool.or_eq_false_iff,
    decide_eq_false_iff_not] at hencoded
  have hspace : c = ' ' := Char.toNat_inj.mp (show c.toNat = 0x20 by omega)
  exact absurd hencoded.2 (hspace ▸ by decide)

theorem ne_of_standsInPath (h : standsInPath c = true) : c ≠ '/' ∧ c ≠ '?' ∧ c ≠ '#' := by
  refine ⟨?_, ?_, ?_⟩ <;> rintro rfl <;> exact absurd h (by decide)

theorem percentEncode_eq_self (h : ∀ c ∈ part, standsInPath c = true) :
    percentEncode isEncodedInPath part = part := by
  induction part with
  | nil => rfl
  | cons c part ih =>
    rw [List.forall_mem_cons] at h
    obtain ⟨hencoded, -, hascii⟩ := standsInPath_iff.mp h.1
    have hkept : (isEncodedInPath c || decide (0x80 ≤ c.toNat)) = false := by
      simp [hencoded, hascii]
    have hpart := ih h.2
    unfold percentEncode at hpart ⊢
    rw [List.flatMap_cons, hkept, hpart]
    rfl

theorem standsInPath_upperHexDigit : ∀ n < 16, standsInPath (upperHexDigit n) = true := by decide

/-- What stands for a character that is encoded need not be encoded again. -/
theorem standsInPath_of_mem_percentChar {d : Char} (h : c ∈ percentChar d) :
    standsInPath c = true := by
  obtain ⟨byte, -, h⟩ := List.mem_flatMap.mp h
  have hhigh : byte.toNat / 16 < 16 := by
    have := byte.toNat_lt
    omega
  have hlow : byte.toNat % 16 < 16 := Nat.mod_lt _ (by decide)
  simp only [percentByte, List.mem_cons, List.not_mem_nil, or_false] at h
  rcases h with rfl | rfl | rfl
  · decide
  · exact standsInPath_upperHexDigit _ hhigh
  · exact standsInPath_upperHexDigit _ hlow

theorem standsInPath_of_mem_percentEncode (hpart : ∀ c ∈ part, isSlash c = false)
    (h : c ∈ percentEncode isEncodedInPath part) : standsInPath c = true := by
  obtain ⟨d, hd, h⟩ := List.mem_flatMap.mp h
  split at h
  next => exact standsInPath_of_mem_percentChar h
  next hkept =>
    obtain rfl := List.mem_singleton.mp h
    rw [Bool.or_eq_true, not_or, Bool.not_eq_true, decide_eq_true_eq, Nat.not_le] at hkept
    exact standsInPath_iff.mpr ⟨hkept.1, hpart _ hd, hkept.2⟩

end

/-! ## Resolving dots -/

section

variable {kept parts : List (List Char)} {part : List Char}

/-- The levels that are reached by one more part, with more to come. -/
def keepPart (kept : List (List Char)) (part : List Char) : List (List Char) :=
  if isTwoDots part then levelUp kept else if isOneDot part then kept else part :: kept

theorem resolveDots_cons (kept : List (List Char)) (part : List Char) (parts : List (List Char)) :
    resolveDots kept (part :: parts) =
      if parts.isEmpty && (isOneDot part || isTwoDots part) then ([] :: keepPart kept part).reverse
      else resolveDots (keepPart kept part) parts := rfl

/-- A part that is not resolved becomes a level of its own, wherever it stands. -/
theorem resolveDots_cons_of_not_dots (hone : isOneDot part = false) (htwo : isTwoDots part = false) :
    resolveDots kept (part :: parts) = resolveDots (part :: kept) parts := by
  simp [resolveDots, hone, htwo]

theorem resolveDots_append {outer : List (List Char)} (hparts : parts ≠ []) :
    resolveDots kept (outer ++ parts) = resolveDots (outer.foldl keepPart kept) parts := by
  induction outer generalizing kept with
  | nil => rfl
  | cons part outer ih =>
    have hmore : (outer ++ parts).isEmpty = false :=
      List.isEmpty_eq_false_iff.mpr (List.append_ne_nil_of_right_ne_nil outer hparts)
    rw [List.cons_append, resolveDots_cons, hmore, Bool.false_and, if_neg Bool.false_ne_true, ih,
      List.foldl_cons]

theorem mem_of_mem_levelUp (h : part ∈ levelUp kept) : part ∈ kept := by
  unfold levelUp at h
  split at h
  · split at h
    · exact h
    · exact List.mem_cons_of_mem _ h
  · exact List.mem_cons_of_mem _ h
  · exact h

theorem mem_keepPart {new : List Char} (h : part ∈ keepPart kept new) :
    part ∈ kept ∨ part = new := by
  unfold keepPart at h
  split at h
  · exact .inl (mem_of_mem_levelUp h)
  · split at h
    · exact .inl h
    · exact (List.mem_cons.mp h).symm

/-- Resolving makes up no parts, but for the empty one at the end. -/
theorem mem_of_mem_resolveDots (h : part ∈ resolveDots kept parts) :
    part ∈ kept ∨ part ∈ parts ∨ part = [] := by
  induction parts generalizing kept with
  | nil => exact .inl (List.mem_reverse.mp h)
  | cons new parts ih =>
    rw [resolveDots_cons] at h
    rw [List.mem_cons]
    split at h
    next =>
      rw [List.mem_reverse, List.mem_cons] at h
      rcases h with rfl | h
      · exact .inr (.inr rfl)
      · exact (mem_keepPart h).imp_right fun h => .inl (.inl h)
    next =>
      rcases ih h with h | h | h
      · exact (mem_keepPart h).imp_right fun h => .inl (.inl h)
      · exact .inr (.inl (.inr h))
      · exact .inr (.inr h)

end

/-! ## Paths -/

theorem pathText_append (parts more : List (List Char)) :
    pathText (parts ++ more) = pathText parts ++ pathText more :=
  List.flatMap_append

theorem pathText_singleton (part : List Char) :
    pathText [part] = '/' :: percentEncode isEncodedInPath part := by
  simp [pathText]

/-- What a text is split into has none of the characters at which it is split. -/
theorem eq_false_of_mem_splitOnP {α : Type} {p : α → Bool} {xs part : List α}
    (h : part ∈ xs.splitOnP p) : ∀ x ∈ part, p x = false := by
  induction xs generalizing part with
  | nil =>
    rw [List.splitOnP_nil, List.mem_singleton] at h
    subst h
    exact List.forall_mem_nil _
  | cons x xs ih =>
    rw [List.splitOnP_cons_eq_if_modifyHead] at h
    split at h
    next =>
      rcases List.mem_cons.mp h with rfl | h
      · exact List.forall_mem_nil _
      · exact ih h
    next hx =>
      obtain ⟨head, parts, hsplit⟩ := List.exists_cons_of_ne_nil (List.splitOnP_ne_nil p xs)
      rw [hsplit] at h ih
      rw [List.modifyHead_cons] at h
      rcases List.mem_cons.mp h with rfl | h
      · rw [List.forall_mem_cons]
        exact ⟨Bool.not_eq_true _ ▸ hx, ih List.mem_cons_self⟩
      · exact ih (List.mem_cons_of_mem _ h)

/-- A path that is sent has slashes, and characters that stand as they are. -/
theorem eq_slash_or_standsInPath_of_mem_readPath {cs : List Char} {c : Char}
    (h : c ∈ readPath cs) : c = '/' ∨ standsInPath c = true := by
  obtain ⟨part, hpart, h⟩ := List.mem_flatMap.mp h
  refine (List.mem_cons.mp h).imp_right fun h => standsInPath_of_mem_percentEncode ?_ h
  rcases mem_of_mem_resolveDots hpart with hpart | hpart | rfl
  · cases hpart
  · exact eq_false_of_mem_splitOnP hpart
  · exact List.forall_mem_nil _

/-- A path that goes on behind a slash is read from the levels that are reached there. -/
theorem exists_readPath_append {outer : List Char} (h : ∀ c ∈ outer.head?, isSlash c = true) :
    ∃ kept, ∀ below,
      readPath (outer ++ '/' :: below) = pathText (resolveDots kept (below.splitOnP isSlash)) := by
  cases outer with
  | nil => exact ⟨[], fun below => rfl⟩
  | cons slash outer =>
    refine ⟨(outer.splitOnP isSlash).foldl keepPart [], fun below => ?_⟩
    have hsplit : (outer ++ '/' :: below).splitOnP isSlash =
        outer.splitOnP isSlash ++ below.splitOnP isSlash :=
      List.splitOnP_append_cons outer below rfl
    rw [readPath, List.cons_append, List.drop_one, List.tail_cons, hsplit,
      resolveDots_append (List.splitOnP_ne_nil isSlash below)]

/-! ## Texts put together -/

section

variable {α : Type} {p : α → Bool} {x : α}

theorem takeWhile_append_stop (xs ys : List α) (h : p x = false) :
    (xs ++ x :: ys).takeWhile p = xs.takeWhile p := by
  rw [List.takeWhile_append, List.takeWhile_cons_of_neg (Bool.not_eq_true _ ▸ h), List.append_nil]
  split
  next hall => exact (List.IsPrefix.eq_of_length (List.takeWhile_prefix p) hall).symm
  next => rfl

theorem dropWhile_append_stop (xs ys : List α) (h : p x = false) :
    (xs ++ x :: ys).dropWhile p = xs.dropWhile p ++ x :: ys := by
  rw [List.dropWhile_append, List.dropWhile_cons_of_neg (Bool.not_eq_true _ ▸ h)]
  split
  next hall => rw [List.isEmpty_iff.mp hall, List.nil_append]
  next => rfl

theorem rdropWhile_append_stop (xs ys : List α) (h : p x = false) :
    (xs ++ x :: ys).rdropWhile p = xs ++ x :: ys.rdropWhile p := by
  have hreverse : (xs ++ x :: ys).reverse = ys.reverse ++ x :: xs.reverse := by simp
  rw [List.rdropWhile, hreverse, dropWhile_append_stop _ _ h, List.reverse_append,
    List.reverse_cons, List.reverse_reverse, List.append_assoc, List.singleton_append]
  rfl

end

/-- The character is cut off where it is at an end of a URL. -/
def isMargin (c : Char) : Bool := c.toNat ≤ 0x20

/-- The character stands in a URL where it is not cut off: it is no tab and no line break. -/
def isUnbroken (c : Char) : Bool := !(c = '\t' || c = '\n' || c = '\r')

/-- The start of a URL, cleaned. -/
def cleanStart (cs : List Char) : List Char :=
  (cs.dropWhile isMargin).filter isUnbroken

/-- The rest of a URL, cleaned. -/
def cleanRest (cs : List Char) : List Char :=
  (cs.rdropWhile isMargin).filter isUnbroken

theorem cleanUrl_eq (cs : List Char) :
    cleanUrl cs = ((cs.dropWhile isMargin).rdropWhile isMargin).filter isUnbroken := rfl

/-- What is on either side of a slash is cleaned on its own. -/
theorem cleanUrl_append (start rest : List Char) :
    cleanUrl (start ++ '/' :: rest) = cleanStart start ++ '/' :: cleanRest rest := by
  have hslash : isMargin '/' = false := rfl
  rw [cleanUrl_eq, dropWhile_append_stop _ _ hslash, rdropWhile_append_stop _ _ hslash,
    List.filter_append, List.filter_cons_of_pos (by decide)]
  rfl

/-- Where nothing is a space or a control character, there is nothing to clean. -/
theorem cleanRest_eq_self {cs : List Char} (h : ∀ c ∈ cs, 0x20 < c.toNat) : cleanRest cs = cs := by
  have hunbroken : ∀ c ∈ cs, isUnbroken c = true := by
    intro c hc
    have hgt := h c hc
    simp only [isUnbroken, Bool.not_eq_true', Bool.or_eq_false_iff, decide_eq_false_iff_not]
    refine ⟨⟨?_, ?_⟩, ?_⟩ <;> rintro rfl <;> exact absurd hgt (by decide)
  have hmargin : cs.rdropWhile isMargin = cs := by
    rw [List.rdropWhile_eq_self_iff]
    intro hne
    simpa [isMargin] using h _ (List.getLast_mem hne)
  rw [cleanRest, hmargin, List.filter_eq_self.mpr hunbroken]

/-! ## Path and query -/

/-- The part of a text that belongs to the path. -/
def pathPart (cs : List Char) : List Char := (cs.takeWhile (· ≠ '#')).takeWhile (· ≠ '?')

/-- The query in a text, encoded. -/
def queryPart (cs : List Char) : List Char :=
  percentEncode isEncodedInQuery (((cs.takeWhile (· ≠ '#')).dropWhile (· ≠ '?')).drop 1)

section

variable {outer : List Char}

theorem pathPart_append (h : ∀ c ∈ outer, c ≠ '?' ∧ c ≠ '#') (below : List Char) :
    pathPart (outer ++ below) = outer ++ pathPart below := by
  rw [pathPart, List.takeWhile_append_of_pos fun c hc => decide_eq_true (h c hc).2,
    List.takeWhile_append_of_pos fun c hc => decide_eq_true (h c hc).1]
  rfl

theorem queryPart_append (h : ∀ c ∈ outer, c ≠ '?' ∧ c ≠ '#') (below : List Char) :
    queryPart (outer ++ below) = queryPart below := by
  rw [queryPart, List.takeWhile_append_of_pos fun c hc => decide_eq_true (h c hc).2,
    List.dropWhile_append_of_pos fun c hc => decide_eq_true (h c hc).1]
  rfl

end

/-! ## Addresses -/

namespace Address

/-- The character belongs to the authority, if all before it do. -/
def inAuthority (c : Char) : Bool := !(isSlash c || c = '?' || c = '#')

/-- The address that the text behind the scheme names. -/
def ofRest (cs : List Char) : Address where
  authority := String.ofList (cs.takeWhile inAuthority)
  path := readPath (pathPart (cs.dropWhile inAuthority))
  query := queryPart (cs.dropWhile inAuthority)

theorem ofUrl?_eq (url : String) :
    ofUrl? url = (afterScheme? (cleanUrl url.toList)).map ofRest := by
  unfold ofUrl?
  cases afterScheme? (cleanUrl url.toList) <;> rfl

/-- The path of an address has slashes, and characters that stand as they are. -/
theorem eq_slash_or_standsInPath_of_mem_path {url : String} {address : Address} {c : Char}
    (h : ofUrl? url = some address) (hc : c ∈ address.path) : c = '/' ∨ standsInPath c = true := by
  rw [ofUrl?_eq] at h
  obtain ⟨cs, -, rfl⟩ := Option.map_eq_some_iff.mp h
  exact eq_slash_or_standsInPath_of_mem_readPath hc

theorem toList_target_of_query {address : Address} (h : address.query = []) :
    address.target.toList = address.path := by
  simp [target, h]

/-- A target without a question mark has no query. -/
theorem query_eq_nil_of_target {address : Address} (h : '?' ∉ address.target.toList) :
    address.query = [] := by
  by_contra hquery
  exact h (by simp [target, hquery])

theorem withQuery_nil (address : Address) : address.withQuery [] = address := by
  obtain ⟨authority, path, query⟩ := address
  cases query <;> simp [withQuery]

theorem eq_drop_of_afterScheme? {cs rest : List Char} (h : afterScheme? cs = some rest) :
    rest = cs.drop 7 := by
  unfold afterScheme? at h
  split at h <;> cases h
  rfl

/-- The scheme is told from the first seven characters. -/
theorem afterScheme?_append {cs : List Char} (more : List Char) (h : 7 ≤ cs.length) :
    afterScheme? (cs ++ more) = (afterScheme? cs).map (· ++ more) := by
  have hscheme : (cs ++ more).take 5 = cs.take 5 := List.take_append_of_le_length (by omega)
  have hslashes : ((cs ++ more).drop 5).take 2 = (cs.drop 5).take 2 := by
    rw [List.drop_append_of_le_length (by omega),
      List.take_append_of_le_length (by rw [List.length_drop]; omega)]
  have hrest : (cs ++ more).drop 7 = cs.drop 7 ++ more := List.drop_append_of_le_length h
  unfold afterScheme?
  rw [hscheme, hslashes, hrest]
  split <;> rfl

/-- A URL that goes on behind a slash, where no query or fragment has begun, is read from the levels
that are reached there; the authority was read before. -/
theorem exists_ofRest_append {outer : List Char} (h : ∀ c ∈ outer, c ≠ '?' ∧ c ≠ '#') :
    ∃ kept, ∀ below,
      ofRest (outer ++ '/' :: below) =
        { authority := String.ofList (outer.takeWhile inAuthority)
          path := pathText (resolveDots kept ((pathPart below).splitOnP isSlash))
          query := queryPart below } := by
  have hpath : ∀ c ∈ outer.dropWhile inAuthority, c ≠ '?' ∧ c ≠ '#' :=
    fun c hc => h c ((List.dropWhile_suffix _).mem hc)
  have hslash : ∀ c ∈ (outer.dropWhile inAuthority).head?, isSlash c = true := by
    intro c hc
    have hend := List.head?_dropWhile_not inAuthority outer
    rw [Option.mem_def.mp hc] at hend
    obtain ⟨hquery, hfragment⟩ := hpath c (List.mem_of_mem_head? hc)
    simpa [inAuthority, hquery, hfragment] using hend
  obtain ⟨kept, hkept⟩ := exists_readPath_append hslash
  refine ⟨kept, fun below => ?_⟩
  have hbare : ∀ c ∈ ['/'], c ≠ '?' ∧ c ≠ '#' := List.forall_mem_singleton.mpr (by decide)
  have hend : inAuthority '/' = false := rfl
  rw [ofRest, takeWhile_append_stop _ _ hend, dropWhile_append_stop _ _ hend,
    pathPart_append hpath, queryPart_append hpath, ← List.singleton_append,
    pathPart_append hbare, queryPart_append hbare, List.singleton_append, hkept]

end Address

end TribunalListing.Http
