-- SUMMARY: The strict reader of JSON text.
import TribunalListing.Json.Value
import TribunalListing.Text.Numeral

/-!
# Reading JSON text

The reader takes JSON exactly: no comments, no trailing commas, no leading zeros, no raw control
characters inside strings, and no byte order mark. `Json.takeLeading?` reads one value and says
what stands after it; `Json.ofText?` wants the whole text to be one value.
-/

namespace TribunalListing.Json

/-! ## Blanks and numbers -/

/-- The four characters that may stand between tokens. -/
def isGap (c : Char) : Bool :=
  c = ' ' || c = '\t' || c = '\n' || c = '\r'

/-- The text from its next token on. -/
def skipGaps (cs : List Char) : List Char :=
  cs.dropWhile isGap

/-- Splits a text after its leading digits. -/
def spanDigits (cs : List Char) : List Char × List Char :=
  cs.span fun c => (Text.digitValue? c).isSome

/-- Reads the part of a number before point and exponent. -/
def takeWhole (cs : List Char) : Option (List Char × List Char) :=
  match spanDigits cs with
  | ([], _) => none
  | ('0' :: _ :: _, _) => none
  | (digits, rest) => some (digits, rest)

/-- Reads an optional fraction: a point and at least one digit. -/
def takeFraction : List Char → Option (List Char × List Char)
  | '.' :: cs =>
    match spanDigits cs with
    | ([], _) => none
    | (digits, rest) => some ('.' :: digits, rest)
  | cs => some ([], cs)

def takeSign : List Char → List Char × List Char
  | '+' :: cs => (['+'], cs)
  | '-' :: cs => (['-'], cs)
  | cs => ([], cs)

/-- Reads an optional exponent: its letter, an optional sign and at least one digit. -/
def takeExponent : List Char → Option (List Char × List Char)
  | c :: cs =>
    if c = 'e' || c = 'E' then
      let (sign, rest) := takeSign cs
      match spanDigits rest with
      | ([], _) => none
      | (digits, rest) => some (c :: sign ++ digits, rest)
    else some ([], c :: cs)
  | [] => some ([], [])

/-- Reads a number whose sign has been read. Minus zero is not an integer. -/
def takeNumber (negative : Bool) (cs : List Char) : Option (Json × List Char) := do
  let (whole, cs) ← takeWhole cs
  let (fraction, cs) ← takeFraction cs
  let (exponent, cs) ← takeExponent cs
  let n ← Text.readDigits whole
  if fraction.isEmpty && exponent.isEmpty && !(negative && n == 0) then
    return (.integer (if negative then -(n : Int) else n), cs)
  else
    let sign := if negative then ['-'] else []
    return (.decimal (String.ofList (sign ++ whole ++ fraction ++ exponent)), cs)

/-! ## Strings -/

def hexValue? (c : Char) : Option Nat :=
  if '0' ≤ c ∧ c ≤ '9' then some (c.toNat - '0'.toNat)
  else if 'a' ≤ c ∧ c ≤ 'f' then some (c.toNat - 'a'.toNat + 10)
  else if 'A' ≤ c ∧ c ≤ 'F' then some (c.toNat - 'A'.toNat + 10)
  else none

def hexUnit? (a b c d : Char) : Option Nat := do
  let a ← hexValue? a
  let b ← hexValue? b
  let c ← hexValue? c
  let d ← hexValue? d
  return ((a * 16 + b) * 16 + c) * 16 + d

/-- The character that a backslash and the given letter stand for. -/
def shortEscape? : Char → Option Char
  | '"' => some '"'
  | '\\' => some '\\'
  | '/' => some '/'
  | 'b' => some '\x08'
  | 'f' => some '\x0c'
  | 'n' => some '\n'
  | 'r' => some '\r'
  | 't' => some '\t'
  | _ => none

/-- Reads a string after its opening quote. The characters read so far are given in reverse, and
`high` is the first half of a surrogate pair when the second half has to come next. -/
def takeString (read : List Char) (high : Option Nat) : List Char → Option (String × List Char)
  | [] => none
  | '\\' :: 'u' :: a :: b :: c :: d :: cs =>
    match hexUnit? a b c d, high with
    | none, _ => none
    | some unit, some first =>
      if 0xDC00 ≤ unit && unit ≤ 0xDFFF then
        takeString (Char.ofNat (0x10000 + (first - 0xD800) * 0x400 + (unit - 0xDC00)) :: read)
          none cs
      else none
    | some unit, none =>
      if 0xD800 ≤ unit && unit ≤ 0xDBFF then takeString read (some unit) cs
      else if 0xDC00 ≤ unit && unit ≤ 0xDFFF then none
      else takeString (Char.ofNat unit :: read) none cs
  | c :: cs =>
    if high.isSome then none
    else if c = '"' then some (String.ofList read.reverse, cs)
    else if c = '\\' then
      match cs with
      | e :: cs =>
        match shortEscape? e with
        | some c => takeString (c :: read) none cs
        | none => none
      | [] => none
    else if c.toNat < 0x20 then none
    else takeString (c :: read) none cs

/-! ## Values -/

/-- Takes a fixed word off the front of a text. -/
def takeWord (word : String) (cs : List Char) : Option (List Char) :=
  if word.toList.isPrefixOf cs then some (cs.drop word.length) else none

mutual

/-- Reads a value that starts at the front of the text. Every call takes at least one character,
so the length of the text is fuel enough. -/
def takeValue : Nat → List Char → Option (Json × List Char)
  | 0, _ => none
  | fuel + 1, cs =>
    match cs with
    | '"' :: cs => (takeString [] none cs).map fun (s, cs) => (.string s, cs)
    | '-' :: cs => takeNumber true cs
    | '[' :: cs =>
      match skipGaps cs with
      | ']' :: cs => some (.array [], cs)
      | cs => (takeItems fuel cs).map fun (items, cs) => (.array items, cs)
    | '\x7b' :: cs =>
      match skipGaps cs with
      | '\x7d' :: cs => some (.object [], cs)
      | cs => (takeMembers fuel cs).map fun (members, cs) => (.object members, cs)
    | 'n' :: _ => (takeWord "null" cs).map (.null, ·)
    | 't' :: _ => (takeWord "true" cs).map (.bool true, ·)
    | 'f' :: _ => (takeWord "false" cs).map (.bool false, ·)
    | cs => takeNumber false cs

/-- Reads the items of an array up to its closing bracket. -/
def takeItems : Nat → List Char → Option (List Json × List Char)
  | 0, _ => none
  | fuel + 1, cs => do
    let (item, cs) ← takeValue fuel (skipGaps cs)
    match skipGaps cs with
    | ',' :: cs =>
      let (items, cs) ← takeItems fuel cs
      return (item :: items, cs)
    | ']' :: cs => return ([item], cs)
    | _ => none

/-- Reads the members of an object up to its closing brace. -/
def takeMembers : Nat → List Char → Option (List (String × Json) × List Char)
  | 0, _ => none
  | fuel + 1, cs => do
    let ('"' :: cs) := skipGaps cs | none
    let (key, cs) ← takeString [] none cs
    let (':' :: cs) := skipGaps cs | none
    let (value, cs) ← takeValue fuel (skipGaps cs)
    match skipGaps cs with
    | ',' :: cs =>
      let (members, cs) ← takeMembers fuel cs
      return ((key, value) :: members, cs)
    | '\x7d' :: cs => return ([(key, value)], cs)
    | _ => none

end

/-- Reads one value at the front of a text, and whether nothing but gaps follows it. -/
def takeLeading? (text : String) : Option (Json × Bool) :=
  (takeValue (text.length + 1) (skipGaps text.toList)).map fun (j, cs) => (j, (skipGaps cs).isEmpty)

def ofText? (text : String) : Option Json :=
  match takeLeading? text with
  | some (j, true) => some j
  | _ => none

end TribunalListing.Json
