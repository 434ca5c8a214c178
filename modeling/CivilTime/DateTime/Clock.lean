import CivilTime.Record
import CivilTime.Value.Arithmetic

/-!
# Date-times from clocks and calendars

A `Timestamp` is what a clock gives : a day of the calendar, a time of the day and perhaps a zone.
It counts months and days from one. `DateTime.ofSource` takes the date and the time out of it and
drops the microsecond; a timestamp in a zone is refused, since a date-time is local.

Anything that has the same members can stand for a timestamp, a record for instance. Its members are
asked for in the order of the parts, the zone before all of them.
-/

namespace CivilTime

/-! ## Timestamps -/

/-- A zone. -/
inductive Zone where
  | utc
  /-- The offset in seconds to the east, and the name of the zone if it has one. -/
  | offset (seconds : Int) (name? : Option String)
  /-- A zone of another sort, whose offset may change. All that is asked of it is its text. -/
  | other (text : String)

namespace Zone

/-- The number of seconds of a day. -/
def secondsPerDay : Int := 86400

/-- A duration, in whole days and the seconds that go beyond them. -/
def durationLiteral (seconds : Int) : String :=
  let days := seconds.fdiv secondsPerDay
  let rest := seconds.fmod secondsPerDay
  let shown := (if days = 0 then [] else ["days=" ++ toString days]) ++
    (if rest = 0 then [] else ["seconds=" ++ toString rest])
  "datetime.timedelta(" ++ (if shown = [] then "0" else ", ".intercalate shown) ++ ")"

/-- The text of a zone. -/
def literal : Zone → String
  | .utc => "datetime.timezone.utc"
  | .offset seconds none => "datetime.timezone(" ++ durationLiteral seconds ++ ")"
  | .offset seconds (some name) =>
    "datetime.timezone(" ++ durationLiteral seconds ++ ", " ++ Text.quoted name ++ ")"
  | .other text => text

/-- The zone of an offset and perhaps a name. The zone without both is UTC. -/
def ofOffset (seconds : Int) (name? : Option String) : Zone :=
  match name? with
  | none => if seconds = 0 then .utc else .offset seconds none
  | some name => .offset seconds (some name)

end Zone

/-- A moment of a clock. -/
structure Timestamp where
  year : Int
  month : Int
  day : Int
  hour : Int
  minute : Int
  second : Int
  microsecond : Int
  /-- Which of two equal readings, when a clock was set back. -/
  fold : Int
  zone? : Option Zone

/-- A part of a timestamp. -/
def Timestamp.part (t : Timestamp) : Part → Int
  | .year => t.year
  | .month => t.month
  | .day => t.day
  | .hour => t.hour
  | .minute => t.minute
  | .second => t.second

/-! ## Sources -/

/-- What a date-time can be asked to be made of. -/
inductive Source where
  | timestamp (t : Timestamp)
  /-- A day of the calendar. It has no time and no zone. -/
  | date (year month day : Int)
  | record (r : Record)
  | plain (v : Value)

namespace Source

/-- The name of a source's type. -/
def typeName : Source → String
  | .timestamp _ => "datetime.datetime"
  | .date .. => "datetime.date"
  | .record _ => Record.typeName
  | .plain v => v.typeName

/-- The failure of a member that a source does not have. -/
def noMember (s : Source) (name : String) : Failure :=
  .member (.ofObject s.typeName name)

/-- The text of the zone a source is in, if it is in one. -/
def zone? : Source → Attempt (Option String)
  | .timestamp t => .ok (t.zone?.map Zone.literal)
  | .record r => do
    match ← r.member "tzinfo" with
    | .null => return none
    | zone => return some (← zone.literal?)
  | s => .error (s.noMember "tzinfo")

/-- The value of a part of a source. -/
def part (s : Source) (p : Part) : Attempt Value :=
  match s with
  | .timestamp t => .ok (.int (t.part p))
  | .record r => r.member p.name
  | s => .error (s.noMember p.name)

/-- Refuses a source in a zone. -/
def requireNaive (s : Source) : Attempt Unit := do
  match ← s.zone? with
  | some zone => .error (.type (.aware zone))
  | none => return

end Source

/-- The date-time of a source. -/
def DateTime.ofSource (s : Source) : Attempt DateTime := do
  s.requireNaive
  let year ← s.part .year
  let month ← (← s.part .month).combine .sub (.int 1)
  let day ← (← s.part .day).combine .sub (.int 1)
  let hour ← s.part .hour
  let minute ← s.part .minute
  let second ← s.part .second
  tryNew year month day hour minute second

end CivilTime
