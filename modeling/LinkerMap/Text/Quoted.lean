import LinkerMap.Text.Graphic

/-! # Quoted form

A text between double quotes, on one line whatever it holds: the quote and the backslash are
escaped by a backslash, the common controls have a letter, and any other character that is not
graphic is written as its code point.
-/

namespace LinkerMap.Text

/-- The code point between braces, in lower-case hexadecimal digits. -/
def escapeCode (c : Char) : List Char :=
  "\\u\x7b".toList ++ Nat.toDigits 16 c.toNat ++ ['}']

/-- How a character is written between quotes. -/
def escape (c : Char) : List Char :=
  if c = '\x00' then ['\\', '0']
  else if c = '\t' then ['\\', 't']
  else if c = '\r' then ['\\', 'r']
  else if c = '\n' then ['\\', 'n']
  else if c = '"' || c = '\\' then ['\\', c]
  else if isGraphic c then [c]
  else escapeCode c

def quote (s : String) : String :=
  String.ofList ('"' :: s.toList.flatMap escape ++ ['"'])

end LinkerMap.Text
