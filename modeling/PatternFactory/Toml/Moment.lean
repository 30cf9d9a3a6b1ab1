/-!
# Dates and times

A date, a time, or both, with or without an offset.  `momentFault?` says what is wrong with a text
that should be one.
-/

namespace PatternFactory

namespace Toml

namespace Moment

/-- The pieces of dates and times. -/
inductive Piece where
  | digits (text : List Char)
  | dash
  | colon
  | dot
  | plus
  /-- What stands between a date and a time. -/
  | divider
  | zulu
  | unknown
  deriving DecidableEq, Repr

/-- The piece that a character is by itself. -/
def pieceOf : Char → Piece
  | '-' => .dash
  | ':' => .colon
  | '.' => .dot
  | '+' => .plus
  | 'T' => .divider
  | 't' => .divider
  | ' ' => .divider
  | 'Z' => .zulu
  | 'z' => .zulu
  | _ => .unknown

/-- Cuts a text into pieces. -/
def pieces (cs : List Char) : List Piece :=
  match cs with
  | [] => []
  | c :: cs =>
    if c.isDigit then
      let more := cs.takeWhile Char.isDigit
      .digits (c :: more) :: pieces (cs.drop more.length)
    else pieceOf c :: pieces cs
termination_by cs.length

/-- A part of the text that is wrong, and what was expected. -/
def fault (part expected : String) : String :=
  let about := "invalid " ++ part
  if expected.isEmpty then about else about ++ ", expected " ++ expected

/-- Reads digits. -/
def number (part expected : String) : List Piece → Except String (List Char × List Piece)
  | .digits ds :: ps => .ok (ds, ps)
  | _ => .error (fault part expected)

/-- Reads a piece. -/
def piece (p : Piece) (part expected : String) : List Piece → Except String (List Piece)
  | q :: ps => if p = q then .ok ps else .error (fault part expected)
  | [] => .error (fault part expected)

/-- The number that some digits stand for. -/
def valueOf (ds : List Char) : Nat := ds.foldl (fun n c => n * 10 + (c.toNat - '0'.toNat)) 0

/-- Fails unless the condition holds. -/
def require (condition : Bool) (part expected : String) : Except String Unit :=
  if condition then .ok () else .error (fault part expected)

/-- The number of days of a month. -/
def daysIn (year month : Nat) : Nat :=
  if month = 2 then
    if year % 4 = 0 && (year % 100 ≠ 0 || year % 400 = 0) then 29 else 28
  else if month = 4 || month = 6 || month = 9 || month = 11 then 30
  else 31

/-- Reads a date from behind its year. -/
def date (year : List Char) (ps : List Piece) : Except String (List Piece) := do
  let (month, ps) ← number "date" "month" ps
  let ps ← piece .dash "date" "`-` (MM-DD)" ps
  let (day, ps) ← number "date" "day" ps
  require (year.length = 4) "date" "a four-digit year (YYYY)"
  require (month.length = 2) "date" "a two-digit month (MM)"
  require (day.length = 2) "date" "a two-digit day (DD)"
  require (1 ≤ valueOf month && valueOf month ≤ 12) "date" "month between 01 and 12"
  let days := daysIn (valueOf year) (valueOf month)
  require (1 ≤ valueOf day && valueOf day ≤ days) "date" ("day between 01 and " ++ toString days)
  return ps

/-- Reads a fraction of a second, if there is one. -/
def fraction : List Piece → Except String (List Piece)
  | .dot :: ps => do return (← number "time" "nanosecond" ps).2
  | ps => .ok ps

/-- Reads seconds, if there are some. -/
def seconds : List Piece → Except String (Option (List Char) × List Piece)
  | .colon :: ps => do
    let (second, ps) ← number "time" "second" ps
    return (some second, ← fraction ps)
  | ps => .ok (none, ps)

/-- Reads a time. -/
def time (ps : List Piece) : Except String (List Piece) := do
  let (hour, ps) ← number "time" "hour" ps
  let ps ← piece .colon "time" "`:` (HH:MM)" ps
  let (minute, ps) ← number "time" "minute" ps
  let (second, ps) ← seconds ps
  require (hour.length = 2) "time" "a two-digit hour (HH)"
  require (minute.length = 2) "time" "a two-digit minute (MM)"
  require (second.all (·.length = 2)) "time" "a two-digit second (SS)"
  require (valueOf hour ≤ 23) "time" "hour between 00 and 23"
  require (valueOf minute ≤ 59) "time" "minute between 00 and 59"
  require (second.all (valueOf · ≤ 60)) "time" "second between 00 and 60"
  return ps

/-- Reads the hours and minutes of an offset. -/
def offsetSize (ps : List Piece) : Except String (List Piece) := do
  let (hours, ps) ← number "offset" "hour" ps
  let ps ← piece .colon "offset" "`:` (HH:MM)" ps
  let (minutes, ps) ← number "offset" "minute" ps
  require (hours.length = 2) "offset" "a two-digit hour (HH)"
  require (minutes.length = 2) "offset" "a two-digit minute (MM)"
  require (valueOf hours ≤ 23) "offset" "hours between 00 and 23"
  require (valueOf minutes ≤ 59) "offset" "minutes between 00 and 59"
  return ps

/-- Reads an offset, if there is one. -/
def offset : List Piece → Except String (List Piece)
  | [] => .ok []
  | .zulu :: ps => .ok ps
  | .plus :: ps => offsetSize ps
  | .dash :: ps => offsetSize ps
  | _ => .error (fault "offset" "`Z`, +OFFSET, -OFFSET")

/-- Reads a date, a time, or both. -/
def moment (ps : List Piece) : Except String (List Piece) := do
  let (first, rest) ← number "datetime" "year or hour" ps
  match rest with
  | .dash :: rest =>
    match ← date first rest with
    | [] => return []
    | .divider :: rest => offset (← time rest)
    | _ => .error (fault "date-time" "`T` between date and time")
  | .colon :: _ => time ps
  | _ => .error (fault "datetime" "`-` (YYYY-MM) or `:` (HH:MM)")

end Moment

/-- What is wrong with a text that should be a date or a time. -/
def momentFault? (cs : List Char) : Option String :=
  match Moment.moment (Moment.pieces cs) with
  | .ok [] => none
  | .ok _ => some (Moment.fault "datetime" "")
  | .error text => some text

end Toml

end PatternFactory
