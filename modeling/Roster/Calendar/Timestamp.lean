import Roster.Calendar.Instant
import Roster.Text.Basic
import Roster.Text.Classes

/-!
# Timestamps

The text of an instant: a date, a time and the offset of local time from universal time.  The
reader is lenient about blanks, about how many digits a field has and about the separators of the
offset; the writer has one form, in universal time.

* `Refusal` — why a text is no timestamp.
* `Timestamp.read` — the reader.
* `Timestamp.write` — the writer.
-/

set_option autoImplicit false

namespace Roster
namespace Timestamp

open Text (isDigit byteLength spelled padded)

/-- Why a text is no timestamp. -/
inductive Refusal
  | tooShort
  | invalid
  | tooLong
  | outOfRange
  | impossible
deriving DecidableEq

/-- The words for a refusal. -/
def Refusal.message : Refusal → String
  | .tooShort => "premature end of input"
  | .invalid => "input contains invalid characters"
  | .tooLong => "trailing input"
  | .outOfRange => "input is out of range"
  | .impossible => "no possible date and time matching input"

/-! ## Reading -/

/-- A reader of one part of a timestamp. -/
abbrev Reader (α : Type) := List Char → Except Refusal (α × List Char)

/-- Reads a number of at least one digit, and of at most `width` digits if a width is given. -/
def readNumber (width : Option Nat) : Reader Nat := fun s =>
  let digits := match width with
    | some w => (s.take w).takeWhile isDigit
    | none => s.takeWhile isDigit
  match s, digits with
  | [], _ => .error .tooShort
  | _, [] => .error .invalid
  | s, digits => .ok (spelled 0 digits, s.drop digits.length)

/-- Reads the year and the blanks before it.  With a sign it may have any number of digits, and it
is refused at once if it does not fit 32 bits; without a sign it has at most four. -/
def readYear : Reader Int := fun s =>
  match Text.dropBlanks s with
  | '-' :: r => do
    let (n, r) ← readNumber none r
    if 2147483648 < n then .error .outOfRange else .ok (-(n : Int), r)
  | '+' :: r => do
    let (n, r) ← readNumber none r
    if 2147483647 < n then .error .outOfRange else .ok (n, r)
  | r => do
    let (n, r) ← readNumber (some 4) r
    .ok (n, r)

/-- Reads a field of one or two digits and the blanks before it, and checks its range. -/
def readField (least greatest : Nat) : Reader Nat := fun s => do
  let (n, r) ← readNumber (some 2) (Text.dropBlanks s)
  if least ≤ n ∧ n ≤ greatest then .ok (n, r) else .error .outOfRange

/-- Reads a separator and the blanks before it. -/
def readMark (mark : Char) (s : List Char) : Except Refusal (List Char) :=
  match Text.dropBlanks s with
  | [] => .error .tooShort
  | c :: r => if c = mark then .ok r else .error .invalid

/-- Reads the one character between the date and the time. -/
def readGap (s : List Char) : Except Refusal (List Char) :=
  match s with
  | [] => .error .tooShort
  | c :: r => if c = 'T' ∨ c = 't' ∨ c = ' ' then .ok r else .error .invalid

/-- Reads the fraction of a second in nanoseconds, if there is one.  Digits behind the ninth are
dropped. -/
def readFraction : Reader Nat := fun s =>
  match s with
  | '.' :: r => do
    let (n, rest) ← readNumber (some 9) r
    .ok (n * Nat.pow 10 (9 - (r.length - rest.length)), Text.afterDigits rest)
  | _ => .ok (0, s)

/-- The sign that a character is in front of an offset: whether local time is behind. -/
def offsetSign? (c : Char) : Option Bool :=
  if c = '+' then some false
  else if c = '-' ∨ c = '\u2212' then some true
  else none

/-- Reads two digits of an offset.  A single byte is too short to be tried at all. -/
def readPair : Reader (Char × Char) := fun s =>
  if byteLength s < 2 then .error .tooShort
  else
    match s with
    | a :: b :: r => if isDigit a ∧ isDigit b then .ok ((a, b), r) else .error .invalid
    | _ => .error .invalid

/-- Whether a character may stand between the hours and the minutes of an offset. -/
def isOffsetGap (c : Char) : Bool := c == ':' || Text.isBlank c

/-- Reads the hours and the minutes of an offset. -/
def readOffsetTime : Reader Nat := fun s => do
  let ((a, b), s) ← readPair s
  let ((c, d), s) ← readPair (s.dropWhile isOffsetGap)
  if '5' < c then .error .outOfRange
  else .ok (60 * spelled 0 [a, b] + spelled 0 [c, d], s)

/-- Reads an offset, in minutes that local time is ahead of universal time. -/
def readOffset : Reader Int := fun s =>
  match s with
  | [] => .error .tooShort
  | c :: r =>
    if s.length ≥ 3 ∧ (s.take 3).map Char.toUpper = ['U', 'T', 'C'] then .ok (0, s.drop 3)
    else if c = 'Z' ∨ c = 'z' then .ok (0, r)
    else
      match offsetSign? c with
      | none => .error .invalid
      | some behind => do
        let (n, r) ← readOffsetTime r
        .ok (if behind then -(n : Int) else n, r)

/-- The fields of a timestamp as they are written, each in its own range. -/
structure Fields where
  year : Int
  month : Nat
  day : Nat
  hour : Nat
  minute : Nat
  second : Nat
  nanosecond : Nat
  offset : Int

/-- Reads the fields of a timestamp from a whole text. -/
def readFields (s : List Char) : Except Refusal Fields := do
  let (year, s) ← readYear s
  let s ← readMark '-' s
  let (month, s) ← readField 1 12 s
  let s ← readMark '-' s
  let (day, s) ← readField 1 31 s
  let s ← readGap s
  let (hour, s) ← readField 0 23 s
  let s ← readMark ':' s
  let (minute, s) ← readField 0 59 s
  let s ← readMark ':' s
  let (second, s) ← readField 0 60 s
  let (nanosecond, s) ← readFraction s
  let (offset, s) ← readOffset (Text.dropBlanks s)
  match Text.dropBlanks s with
  | [] => .ok ⟨year, month, day, hour, minute, second, nanosecond, offset⟩
  | _ => .error .tooLong

/-- The instant that fields name.  The day has to exist, the offset has to be less than a day, and
the date in universal time has to be in range. -/
def Fields.toInstant (f : Fields) : Except Refusal Instant :=
  match Date.of? f.year f.month f.day with
  | none => .error .outOfRange
  | some date =>
    if h : 60 * f.hour + f.minute < 1440 ∧ f.second ≤ 60 ∧ f.nanosecond < 1000000000 ∧
        f.offset.natAbs < 1440 then
      let time : Instant :=
        ⟨date, 60 * f.hour + f.minute, f.second, f.nanosecond, h.1, h.2.1, h.2.2.1⟩
      match time.ofLocal? f.offset with
      | some i => .ok i
      | none => .error .impossible
    else .error .outOfRange

/-- The instant that a text names, or why it names none. -/
def read (s : List Char) : Except Refusal Instant :=
  match readFields s with
  | .error e => .error e
  | .ok f => f.toInstant

/-! ## Writing -/

/-- A year has four digits; one that needs more, or is negative, has a sign and at least four. -/
def writtenYear (year : Int) : List Char :=
  if year < 0 then '-' :: padded 4 year.natAbs
  else if year ≤ 9999 then padded 4 year.natAbs
  else '+' :: padded 4 year.natAbs

/-- A fraction of a second in the fewest groups of three digits that are exact. -/
def writtenFraction (nanosecond : Nat) : List Char :=
  if nanosecond = 0 then []
  else if nanosecond % 1000000 = 0 then '.' :: padded 3 (nanosecond / 1000000)
  else if nanosecond % 1000 = 0 then '.' :: padded 6 (nanosecond / 1000)
  else '.' :: padded 9 nanosecond

/-- The written form of an instant, in universal time. -/
def write (i : Instant) : List Char :=
  writtenYear i.date.year ++ '-' :: padded 2 i.date.month ++ '-' :: padded 2 i.date.day ++
    'T' :: padded 2 (i.minute / 60) ++ ':' :: padded 2 (i.minute % 60) ++
    ':' :: padded 2 i.second ++ writtenFraction i.nanosecond ++ ['Z']

end Timestamp
end Roster
