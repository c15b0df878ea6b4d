import Roster.Decimal
import Roster.Text.Basic
import Roster.Text.Quoted

/-!
# What can be wrong with a document

* `Position` — a place in a document, by line and column.
* `Cause` — what is wrong, and `Cause.message`, the words for it.
* `Fault` — a cause together with the part of the document that was still unread.
* `Error` — a cause together with its position, as it is reported.

A reader works on the text that is left and never counts bytes.  The position of a fault is found
at the end, from what was left when it arose (`Fault.locate`).
-/

set_option autoImplicit false

namespace Roster
namespace Json

/-! ## Positions

Lines are counted from one and end with a line feed.  The column is the number of bytes since the
last line feed, so a position stands between two bytes and may even fall inside a character. -/

/-- A place between two bytes of a document. -/
structure Position where
  line : Nat
  column : Nat
deriving DecidableEq

namespace Position

/-- The start of a document. -/
def start : Position := ⟨1, 0⟩

/-- The position reached after so many further bytes of a text. -/
def advance (p : Position) : List Char → Nat → Position
  | [], _ => p
  | c :: s, bytes =>
    if bytes = 0 then p
    else if c = '\n' then advance ⟨p.line + 1, 0⟩ s (bytes - 1)
    else if bytes < c.utf8Size then ⟨p.line, p.column + bytes⟩
    else advance ⟨p.line, p.column + c.utf8Size⟩ s (bytes - c.utf8Size)

end Position

/-! ## Causes -/

/-- A value as a message names it, when another kind of value was expected. -/
inductive Found
  | null
  | boolean (b : Bool)
  | integer (i : Int)
  | floating (x : Float)
  | text (s : String)
  | sequence
  | map

/-- The words that name a value. -/
def Found.describe : Found → String
  | .null => "null"
  | .boolean b => "boolean `" ++ (if b then "true" else "false") ++ "`"
  | .integer i => "integer `" ++ toString i ++ "`"
  | .floating x => "floating point `" ++ Decimal.ofFloat x ++ "`"
  | .text s => "string " ++ Text.quoted s
  | .sequence => "sequence"
  | .map => "map"

/-- What is wrong with a document. -/
inductive Cause
  /-- The document ends where a value has to start or is unfinished. -/
  | endInValue
  | endInList
  | endInObject
  | endInText
  | expectedColon
  | expectedListCommaOrEnd
  | expectedObjectCommaOrEnd
  /-- A word that starts like one of the three literals is none of them. -/
  | expectedIdent
  | expectedValue
  | invalidEscape
  | invalidNumber
  | numberOutOfRange
  | controlCharacter
  | keyMustBeText
  /-- A surrogate stands in an escape without its other half. -/
  | loneSurrogate
  /-- The first half of a surrogate pair is not followed by another escape. -/
  | unfinishedPair
  | trailingComma
  | trailingCharacters
  /-- A value has another type than the one expected there. -/
  | invalidType (found : Found) (expected : String)
  /-- A value has the right type and lies outside the range expected there. -/
  | invalidValue (found : Found) (expected : String)
  /-- A member of a record is given twice. -/
  | duplicateField (key : String)
  /-- A text does not spell what its member holds, for the stated reason. -/
  | misspelled (reason : String)

/-- The words for what is wrong. -/
def Cause.message : Cause → String
  | .endInValue => "EOF while parsing a value"
  | .endInList => "EOF while parsing a list"
  | .endInObject => "EOF while parsing an object"
  | .endInText => "EOF while parsing a string"
  | .expectedColon => "expected `:`"
  | .expectedListCommaOrEnd => "expected `,` or `]`"
  | .expectedObjectCommaOrEnd => "expected `,` or `\x7d`"
  | .expectedIdent => "expected ident"
  | .expectedValue => "expected value"
  | .invalidEscape => "invalid escape"
  | .invalidNumber => "invalid number"
  | .numberOutOfRange => "number out of range"
  | .controlCharacter => "control character (\\u0000-\\u001F) found while parsing a string"
  | .keyMustBeText => "key must be a string"
  | .loneSurrogate => "lone leading surrogate in hex escape"
  | .unfinishedPair => "unexpected end of hex escape"
  | .trailingComma => "trailing comma"
  | .trailingCharacters => "trailing characters"
  | .invalidType found expected =>
    "invalid type: " ++ found.describe ++ ", expected " ++ expected
  | .invalidValue found expected =>
    "invalid value: " ++ found.describe ++ ", expected " ++ expected
  | .duplicateField key => "duplicate field `" ++ key ++ "`"
  | .misspelled reason => reason

/-- The three kinds of causes: the text is not a document, it is one with the wrong content, or it
ends too early. -/
inductive Category
  | wording
  | data
  | ending
deriving DecidableEq

/-- The kind of a cause. -/
def Cause.category : Cause → Category
  | .endInValue | .endInList | .endInObject | .endInText => .ending
  | .invalidType .. | .invalidValue .. | .duplicateField _ | .misspelled _ => .data
  | _ => .wording

/-! ## Faults -/

/-- A cause, the text that was unread when it arose, and how many bytes past the start of that
text it is to be reported. -/
structure Fault where
  cause : Cause
  rest : List Char
  past : Nat

/-- A fault that lies in what has been read, reported just before the unread text. -/
def Fault.here (cause : Cause) (rest : List Char) : Fault := ⟨cause, rest, 0⟩

/-- A fault of the next byte, reported just past it, or at the end of the document if there is
none. -/
def Fault.next (cause : Cause) (rest : List Char) : Fault := ⟨cause, rest, min 1 rest.length⟩

/-- What is wrong with a document, and where. -/
structure Error where
  cause : Cause
  position : Position

/-- A fault found in a document, with the position that belongs to it. -/
def Fault.locate (document : List Char) (fault : Fault) : Error :=
  let bytes := Text.byteLength document - Text.byteLength fault.rest + fault.past
  ⟨fault.cause, Position.start.advance document bytes⟩

/-- The report of what is wrong and where. -/
def Error.message (e : Error) : String :=
  e.cause.message ++ " at line " ++ toString e.position.line ++
    " column " ++ toString e.position.column

/-- The kind of an error. -/
def Error.category (e : Error) : Category := e.cause.category

end Json
end Roster
