-- SUMMARY: Quoted text, and the text of an optional value, as they stand in error messages.
import TribunalListing.Text.Unprintable

/-!
# Quoted text

A text inside double quotes. The quote and the backslash are escaped with a backslash, the four
common control characters have their own escapes, and any other unprintable character is written
by its number in hexadecimal.
-/

namespace TribunalListing.Text

/-- The number of a character in lower case hexadecimal, without leading zeros, in braces. -/
def escapeByNumber (c : Char) : List Char :=
  ['\\', 'u', '\x7b'] ++ Nat.toDigits 16 c.toNat ++ ['\x7d']

/-- How one character stands inside quotes. -/
def escapeChar (c : Char) : List Char :=
  if c = '"' then ['\\', '"']
  else if c = '\\' then ['\\', '\\']
  else if c = '\t' then ['\\', 't']
  else if c = '\r' then ['\\', 'r']
  else if c = '\n' then ['\\', 'n']
  else if c = '\x00' then ['\\', '0']
  else if isUnprintable c then escapeByNumber c
  else [c]

def quoted (s : String) : String :=
  String.ofList ('"' :: s.toList.flatMap escapeChar ++ ['"'])

/-- An optional text: `None`, or `Some` with the quoted text in parentheses. -/
def quotedOption : Option String → String
  | none => "None"
  | some s => "Some(" ++ quoted s ++ ")"

end TribunalListing.Text
