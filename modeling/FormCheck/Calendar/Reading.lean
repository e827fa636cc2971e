import FormCheck.Calendar.Layout
import FormCheck.Calendar.Format

/-!
# Reading dates

A text is a date if it reads as one in any of the common ways: as an internet timestamp with an
offset, as the date of a mail message, or in one of the layouts. The date and the time are those
that the text shows; an offset does not shift them.

## Main definitions

* `Calendar.readTimestamp` : reads an internet timestamp such as `2024-01-05T10:30:00+01:00`.
* `Calendar.readMailDate` : reads the date of a mail message such as
  `Fri, 05 Jan 2024 10:30:00 +0100`.
* `Calendar.readMoment` : reads a date in any of the common ways.
* `Calendar.isDate` : whether a text is a date, possibly in an exact format.
-/

namespace FormCheck.Calendar

/-! ### Parts -/

/-- Reads a given character. -/
def readChar (c : Char) : List Char → Option (List Char)
  | d :: rest => if c = d then some rest else none
  | [] => none

/-- Reads at least one blank. -/
def readBlanks (s : List Char) : Option (List Char) :=
  match s with
  | c :: _ => if Text.isBlank c then some (Text.trimStart s) else none
  | [] => none

/-- Reads exactly two digits of a number between two bounds. -/
def readExact (low high : Nat) (s : List Char) : Option (Nat × List Char) :=
  (readNumber 2 (some 2) s).bind fun (n, rest) =>
    if low ≤ n ∧ n ≤ high then some (n, rest) else none

/-- Reads a sign: true for minus. The mathematical minus sign is admitted where `wide` says so. -/
def readSign (wide : Bool) : List Char → Option (Bool × List Char)
  | '+' :: rest => some (false, rest)
  | '-' :: rest => some (true, rest)
  | '−' :: rest => if wide then some (true, rest) else none
  | _ => none

/-- Reads an offset of hours and minutes in seconds. There is a colon between them or not. -/
def readOffset (wide colon : Bool) (s : List Char) : Option (Int × List Char) := do
  let (negative, s) ← readSign wide s
  let (hours, s) ← readExact 0 99 s
  let s ← if colon then readChar ':' s else some s
  let (minutes, s) ← readExact 0 59 s
  let seconds : Int := 3600 * hours + 60 * minutes
  some (if negative then -seconds else seconds, s)

/-- The moment that parts make up, as a clock with the given offset shows it. The offset is less
than a day. -/
def localMoment? (f : Fields) (offset : Int) : Option Moment := do
  let m ← f.moment?
  if offset.natAbs < 86400 && m.hasUniversal offset then some m else none

/-! ### Internet timestamps -/

/-- Reads the offset of an internet timestamp: a `z` for none, or a sign, hours, a colon and
minutes. -/
def readTimestampOffset : List Char → Option (Int × List Char)
  | 'Z' :: rest => some (0, rest)
  | 'z' :: rest => some (0, rest)
  | s => readOffset true true s

/-- Reads what stands between the date and the time of an internet timestamp: `T` or a space. -/
def readTimestampDivider : List Char → Option (List Char)
  | c :: rest => if c = 'T' ∨ c = 't' ∨ c = ' ' then some rest else none
  | [] => none

/-- Reads the fraction of the second of an internet timestamp, if there is one. -/
def readTimestampFraction : List Char → Option (Nat × List Char)
  | '.' :: rest => readFraction rest
  | s => some (0, s)

/-- Reads an internet timestamp: a date and a time of fixed width with `T` or a space between them,
possibly a fraction of the second, and an offset. -/
def readTimestamp (s : List Char) : Option Moment := do
  let (year, s) ← readNumber 4 (some 4) s
  let s ← readChar '-' s
  let (month, s) ← readExact 1 12 s
  let s ← readChar '-' s
  let (day, s) ← readExact 1 31 s
  let s ← readTimestampDivider s
  let (hour, s) ← readExact 0 23 s
  let s ← readChar ':' s
  let (minute, s) ← readExact 0 59 s
  let s ← readChar ':' s
  let (second, s) ← readExact 0 60 s
  let (nanosecond, s) ← readTimestampFraction s
  let (offset, s) ← readTimestampOffset s
  if !s.isEmpty then none
  else
    localMoment?
      { Fields.empty with
        year := some year, month := some month, day := some day, hour := some hour,
        minute := some minute, second := some second, nanosecond := some nanosecond }
      offset

/-! ### Dates of mail messages -/

/-- The hours that a named zone of a mail message is ahead of universal time. A single letter
other than `j` names a zone that says nothing. -/
def namedZone? (name : String) : Option Int :=
  match name with
  | "gmt" | "ut" | "z" => some 0
  | "edt" => some (-4)
  | "est" | "cdt" => some (-5)
  | "cst" | "mdt" => some (-6)
  | "mst" | "pdt" => some (-7)
  | "pst" => some (-8)
  | "j" => none
  | _ => if name.length = 1 then some 0 else none

/-- Reads the zone of a mail message: a name, or a sign, hours and minutes. -/
def readZone (s : List Char) : Option (Int × List Char) :=
  let name := s.takeWhile Char.isAlpha
  if name.isEmpty then readOffset false false s
  else
    (namedZone? (String.ofList (name.map Char.toLower))).map fun hours =>
      (3600 * hours, s.drop name.length)

/-- Skips the rest of a comment that is nested `depth` deep; a backslash takes the next character
with it. Gives the text after the comment, if the comment ends. -/
def skipComment (depth : Nat) : List Char → Option (List Char)
  | [] => none
  | '\\' :: rest =>
    match rest with
    | [] => none
    | _ :: rest => skipComment depth rest
  | '(' :: rest => skipComment (depth + 1) rest
  | ')' :: rest => if depth ≤ 1 then some rest else skipComment (depth - 1) rest
  | _ :: rest => skipComment depth rest

/-- Skips comments in parentheses with blanks before them. What follows the last complete comment
is left. `steps` bounds their number. -/
def skipComments : (steps : Nat) → List Char → List Char
  | 0, s => s
  | steps + 1, s =>
    match Text.trimStart s with
    | '(' :: rest =>
      match skipComment 1 rest with
      | some tail => skipComments steps tail
      | none => s
    | _ => s

/-- The year that a number in a mail message means: two digits stand for the years from 1950 to
2049, and three digits count from 1900. -/
def mailYear (digits n : Nat) : Nat :=
  if digits = 2 then if n < 50 then n + 2000 else n + 1900
  else if digits = 3 then n + 1900
  else n

/-- Reads the day of the week of a mail message, if there is one. A comma has to follow it. -/
def readMailWeekday (f : Fields) (s : List Char) : Option (Fields × List Char) :=
  match readWord weekdayStarts s with
  | none => some (f, s)
  | some (weekday, rest) =>
    (readChar ',' rest).map fun rest => ({ f with weekday := some weekday }, rest)

/-- Reads the seconds of a mail message, if there are any. -/
def readMailSecond (s : List Char) : Option (Option Nat × List Char) :=
  match readChar ':' (Text.trimStart s) with
  | none => some (none, s)
  | some rest => (readExact 0 60 rest).map fun (n, tail) => (some n, tail)

/-- Reads the date of a mail message: possibly a day of the week, the day, the month by name, the
year, the hour and minute, possibly the second, a zone, and possibly comments. -/
def readMailDate (s : List Char) : Option Moment := do
  let (f, s) ← readMailWeekday Fields.empty (Text.trimStart s)
  let (day, s) ← readTwo 1 31 s
  let s ← readBlanks s
  let (month, s) ← readMonth false s
  let s ← readBlanks s
  let digits := (s.takeWhile Decimal.isDigit).length
  let (year, s) ← readNumber 2 none s
  let s ← readBlanks s
  let (hour, s) ← readExact 0 23 s
  let s ← readChar ':' (Text.trimStart s)
  let (minute, s) ← readExact 0 59 (Text.trimStart s)
  let (second, s) ← readMailSecond s
  let s ← readBlanks s
  let (offset, s) ← readZone s
  if !(skipComments s.length s).isEmpty then none
  else
    localMoment?
      { f with
        day := some day, month := some month, year := some (mailYear digits year),
        hour := some hour, minute := some minute, second := second }
      offset

/-! ### Any date -/

/-- Reads a date and a time in the first layout that fits. -/
def readMomentLayouts (s : List Char) : Option Moment :=
  momentLayouts.findSome? fun layout => (readLayout .empty layout s).bind Fields.moment?

/-- Reads a date in the first layout that fits. Its time is midnight. -/
def readDateLayouts (s : List Char) : Option Moment :=
  dateLayouts.findSome? fun layout =>
    ((readLayout .empty layout s).bind Fields.date?).map fun date => ⟨date, .midnight⟩

/-- Reads a date, possibly with a time, in any of the common ways. Blanks around it do not
count. -/
def readMomentChars (s : List Char) : Option Moment :=
  let s := Text.trim s
  if s.isEmpty then none
  else readTimestamp s <|> readMailDate s <|> readMomentLayouts s <|> readDateLayouts s

/-- Reads a date, possibly with a time, in any of the common ways. -/
def readMoment (s : String) : Option Moment := readMomentChars s.toList

/-- Whether a text is a date. Given a format that is not empty, the date written in that format has
to be the text itself. -/
def isDate (value : String) (f : Option String) : Bool :=
  match readMoment value with
  | none => false
  | some moment =>
    match f with
    | none => true
    | some f => f.isEmpty || format moment f == value

end FormCheck.Calendar
