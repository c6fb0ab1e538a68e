import SolverDeck.Text.CodePoints

/-!
# Quoted text

Diagnostics and log lines show text of unknown content between double quotes, in
a form that cannot be mistaken for what surrounds it: quotes and backslashes are
escaped, the usual control characters have short escapes, and every other
character that leaves no ink or would attach to its neighbour is shown by its code
point. A list of texts is shown in brackets.
-/

namespace SolverDeck.Text

/-- The escape of a character by its code point: its hexadecimal digits in braces. -/
def codePointEscape (c : Char) : List Char :=
  '\\' :: 'u' :: '\x7b' :: (Nat.toDigits 16 c.toNat ++ ['\x7d'])

/-- How one character is shown between quotes. -/
def quotedChar (c : Char) : List Char :=
  if c = '\x00' then ['\\', '0']
  else if c = '\t' then ['\\', 't']
  else if c = '\r' then ['\\', 'r']
  else if c = '\n' then ['\\', 'n']
  else if c = '\\' then ['\\', '\\']
  else if c = '"' then ['\\', '"']
  else if CodePoints.combining.holds c || CodePoints.invisible.holds c then codePointEscape c
  else [c]

/-- A text between quotes. -/
def quoted (s : String) : String :=
  String.ofList ('"' :: (s.toList.flatMap quotedChar ++ ['"']))

/-- A list of texts, each between quotes. -/
def quotedList (texts : List String) : String :=
  "[" ++ ", ".intercalate (texts.map quoted) ++ "]"

end SolverDeck.Text
