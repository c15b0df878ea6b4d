import Roster.Text.Classes

/-!
# Quoted text

Messages that quote an id put it between double quotes and spell out every character that a reader
could not see, or that could be taken for the closing quote.  The spelling ends at the first quote
that no backslash precedes, so a quoted text can stand in front of any other text.

* `quotedChar c` — how one character stands between the quotes.
* `quoted s` — a text between its quotes.
* `quotedList ss` — a list of texts, between square brackets and separated by commas.
-/

set_option autoImplicit false

namespace Roster
namespace Text

/-- Whether a character is written as itself: it is an ASCII graphic character or the plain space,
or else it is printable, can be seen alone and leaves a trace. -/
def isShown (c : Char) : Bool :=
  (0x20 ≤ c.toNat && c.toNat ≤ 0x7e) || (isPrintable c && !isCombining c && !isIgnorable c)

/-- How one character stands between quotes.  Six characters have a letter of their own after a
backslash; one that is not shown is written as its code point in hexadecimal, without leading
zeros and between braces. -/
def quotedChar (c : Char) : List Char :=
  if c = '\x00' then ['\\', '0']
  else if c = '\t' then ['\\', 't']
  else if c = '\n' then ['\\', 'n']
  else if c = '\r' then ['\\', 'r']
  else if c = '"' then ['\\', '"']
  else if c = '\\' then ['\\', '\\']
  else if isShown c then [c]
  else ['\\', 'u', '{'] ++ Nat.toDigits 16 c.toNat ++ ['}']

/-- The characters of a text between its quotes. -/
def quotedChars (s : List Char) : List Char :=
  '"' :: s.flatMap quotedChar ++ ['"']

/-- A text between its quotes. -/
def quoted (s : String) : String := String.ofList (quotedChars s.toList)

/-- A list of quoted texts, as it stands in a message: `["a", "b"]`. -/
def quotedList (ss : List String) : String :=
  "[" ++ ", ".intercalate (ss.map quoted) ++ "]"

end Text
end Roster
