-- SUMMARY: Which content types announce a JSON body.

/-!
# Media types

A media type is a type and a subtype with a slash between them, and optional parameters. A body is
JSON when its type is `application` and its subtype, or the ending of it after a plus sign, is
`json`, in any case.
-/

namespace TribunalListing.Http

def isTokenChar (c : Char) : Bool :=
  c.isAlphanum || "!#$%&'*+-.^_\x60|~".toList.contains c

/-- Splits a text at the last plus sign that is not its first character. -/
def splitEnding (cs : List Char) : List Char × List Char :=
  match cs.reverse.span (· ≠ '+') with
  | (after, '+' :: before) => if before.isEmpty then (cs, []) else (before.reverse, after.reverse)
  | _ => (cs, [])

/-- The text is `json` in any case. -/
def isJsonWord (cs : List Char) : Bool :=
  cs.map Char.toLower == "json".toList

def isQuotedChar (c : Char) : Bool :=
  0x20 ≤ c.toNat && c.toNat < 0x7F

/-- Takes the rest of a quoted parameter value, and the spaces up to the next parameter. -/
def takeToQuote : List Char → Option (List Char)
  | '"' :: cs =>
    match cs.dropWhile (· = ' ') with
    | [] => some []
    | ';' :: rest => some rest
    | _ => none
  | c :: cs => if isQuotedChar c then takeToQuote cs else none
  | [] => none

/-- Takes a quoted parameter value after its opening quote. It is never empty: a quote that comes
first is its first character. -/
def takeQuoted : List Char → Option (List Char)
  | c :: cs => if isQuotedChar c then takeToQuote cs else none
  | [] => none

def takePlain (cs : List Char) : Option (List Char) :=
  match cs.dropWhile isTokenChar with
  | [] => some []
  | ';' :: rest => if (cs.takeWhile isTokenChar).isEmpty then none else some rest
  | _ => none

/-- The text is a sequence of parameters. Every parameter takes at least two characters, so the
length of the text is fuel enough. -/
def areParameters : Nat → List Char → Bool
  | 0, cs => cs.isEmpty
  | fuel + 1, cs =>
    match cs with
    | [] => true
    | ' ' :: rest => areParameters fuel rest
    | cs =>
      match cs.span isTokenChar with
      | (_ :: _, '=' :: '"' :: rest) => (takeQuoted rest).any (areParameters fuel)
      | (_ :: _, '=' :: rest) => (takePlain rest).any (areParameters fuel)
      | _ => false

/-- The content type announces a JSON body. -/
def isJsonType (contentType : String) : Bool :=
  match contentType.toList.span isTokenChar with
  | (kind, '/' :: rest) =>
    let (subtype, parameters) := rest.span isTokenChar
    let (stem, ending) := splitEnding subtype
    kind.map Char.toLower == "application".toList && (isJsonWord stem || isJsonWord ending) &&
      match parameters with
      | [] => true
      | ';' :: rest => areParameters rest.length rest
      | _ => false
  | _ => false

end TribunalListing.Http
