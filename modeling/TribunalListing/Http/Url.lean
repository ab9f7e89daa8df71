-- SUMMARY: The address that a URL names: the authority to talk to and the target to ask it for.
import TribunalListing.Http.Percent

/-!
# Addresses

A URL names an authority, a path below it and an optional query. The parts of the path that are one
or two dots are resolved, a backslash counts as a slash, and characters that cannot stand as they
are get percent-encoded. A fragment is cut off, because it is never sent.
-/

namespace TribunalListing.Http

/-! ## Characters -/

def isControl (c : Char) : Bool :=
  c.toNat < 0x20 || c.toNat = 0x7F

def isEncodedInPath (c : Char) : Bool :=
  isControl c || " \"#<>?\x60\x7b\x7d".toList.contains c

def isEncodedInQuery (c : Char) : Bool :=
  isControl c || " \"#<>'".toList.contains c

def isSlash (c : Char) : Bool :=
  c = '/' || c = '\\'

/-- The text without spaces and control characters at its ends, and without tabs and line breaks
anywhere. -/
def cleanUrl (cs : List Char) : List Char :=
  let isEdge (c : Char) : Bool := c.toNat ≤ 0x20
  (((cs.dropWhile isEdge).reverse.dropWhile isEdge).reverse).filter fun c =>
    !(c = '\t' || c = '\n' || c = '\r')

/-! ## Paths -/

/-- The text with every encoded dot written as a dot. -/
def decodeDots : List Char → List Char
  | '%' :: '2' :: 'e' :: cs => '.' :: decodeDots cs
  | '%' :: '2' :: 'E' :: cs => '.' :: decodeDots cs
  | c :: cs => c :: decodeDots cs
  | [] => []

/-- The part stands for where it is. -/
def isOneDot (part : List Char) : Bool := decodeDots part = ['.']

/-- The part stands for one level up. -/
def isTwoDots (part : List Char) : Bool := decodeDots part = ['.', '.']

/-- One level up. A drive, which is a letter with a colon or a bar, is never left. -/
def levelUp : List (List Char) → List (List Char)
  | [letter, mark] :: kept =>
    if letter.isAlpha && (mark = ':' || mark = '|') then [letter, mark] :: kept else kept
  | _ :: kept => kept
  | [] => []

/-- Resolves dots from left to right, given the parts kept so far, latest first. Dots at the end
leave an empty part, so that the path still ends with a slash. -/
def resolveDots (kept : List (List Char)) : List (List Char) → List (List Char)
  | [] => kept.reverse
  | part :: parts =>
    let kept :=
      if isTwoDots part then levelUp kept
      else if isOneDot part then kept
      else part :: kept
    if parts.isEmpty && (isOneDot part || isTwoDots part) then ([] :: kept).reverse
    else resolveDots kept parts

/-- A path as it is sent. -/
def pathText (parts : List (List Char)) : List Char :=
  parts.flatMap fun part => '/' :: percentEncode isEncodedInPath part

/-- Reads a path, which starts with a slash; an empty one is the root. -/
def readPath (cs : List Char) : List Char :=
  pathText (resolveDots [] ((cs.drop 1).splitOnP isSlash))

/-! ## Addresses -/

structure Address where
  authority : String
  /-- The path, encoded. -/
  path : List Char
  /-- The query, encoded; empty if there is none. -/
  query : List Char
  deriving DecidableEq

namespace Address

/-- The text after `http:` and two slashes. -/
def afterScheme? (cs : List Char) : Option (List Char) :=
  if (cs.take 5).map Char.toLower = "http:".toList ∧ ((cs.drop 5).take 2).all isSlash then
    some (cs.drop 7)
  else none

/-- Reads an absolute URL of the plain scheme. -/
def ofUrl? (url : String) : Option Address := do
  let cs ← afterScheme? (cleanUrl url.toList)
  let isEnd (c : Char) : Bool := isSlash c || c = '?' || c = '#'
  let below := (cs.dropWhile (!isEnd ·)).takeWhile (· ≠ '#')
  return {
    authority := String.ofList (cs.takeWhile (!isEnd ·))
    path := readPath (below.takeWhile (· ≠ '?'))
    query := percentEncode isEncodedInQuery ((below.dropWhile (· ≠ '?')).drop 1) }

/-- The address with more values in its query. -/
def withQuery (a : Address) (pairs : List (String × String)) : Address :=
  let texts := pairs.map fun (key, value) => key ++ "=" ++ formEncode value
  let whole := (if a.query.isEmpty then [] else [String.ofList a.query]) ++ texts
  { a with query := (String.intercalate "&" whole).toList }

/-- The path and the query, as a request line carries them. -/
def target (a : Address) : String :=
  String.ofList (if a.query.isEmpty then a.path else a.path ++ '?' :: a.query)

end Address

end TribunalListing.Http
