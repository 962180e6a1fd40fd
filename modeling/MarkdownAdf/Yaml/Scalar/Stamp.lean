import MarkdownAdf.Number.Shortest
import MarkdownAdf.Value.Basic
import MarkdownAdf.Yaml.Scalar.Form
import MarkdownAdf.Yaml.Token.Basic

/-!
# Days and times

A day or a time of the Gregorian calendar becomes a value of its own type. It has to exist.
-/

namespace MarkdownAdf.Yaml

def isLeap (year : Nat) : Bool := year % 4 = 0 && (year % 100 ≠ 0 || year % 400 = 0)

def daysIn (year month : Nat) : Nat :=
  if month = 2 then if isLeap year then 29 else 28
  else if [4, 6, 9, 11].contains month then 30
  else 31

namespace Stamp

/-- Whether the day, the time of day and the offset exist. -/
def isValid (s : Stamp) : Bool :=
  1 ≤ s.year && 1 ≤ s.month && s.month ≤ 12 && 1 ≤ s.day && s.day ≤ daysIn s.year s.month &&
    (match s.clock with
      | some (hour, minute, second, _) => hour < 24 && minute < 60 && second < 60
      | none => true) &&
    s.offset.all fun o => o.natAbs < 24 * 60

/-- A number of at least `width` digits. -/
def padded (width n : Nat) : String := Binary64.padLeft width '0' (toString n)

def dayText (s : Stamp) : String :=
  padded 4 s.year ++ "-" ++ padded 2 s.month ++ "-" ++ padded 2 s.day

/-- An offset from Greenwich. -/
def offsetText (minutes : Int) : String :=
  (if minutes < 0 then "-" else "+") ++ padded 2 (minutes.natAbs / 60) ++ ":" ++
    padded 2 (minutes.natAbs % 60)

/-- An offset as messages show it: days back and seconds forward. -/
def offsetQuoted (minutes : Int) : String :=
  if minutes = 0 then "datetime.timezone.utc"
  else
    let delta := if minutes < 0 then "days=-1, seconds=" ++ toString (86400 + 60 * minutes)
      else "seconds=" ++ toString (60 * minutes)
    "datetime.timezone(datetime.timedelta(" ++ delta ++ "))"

/-- The value of a day or a time. -/
def value (s : Stamp) : Value :=
  let day := [s.year, s.month, s.day].map fun (n : Nat) => toString n
  match s.clock with
  | none => .foreign "date" s.dayText ("datetime.date(" ++ ", ".intercalate day ++ ")") true
  | some (hour, minute, second, micro) =>
    let clock := padded 2 hour ++ ":" ++ padded 2 minute ++ ":" ++ padded 2 second ++
      (if micro = 0 then "" else "." ++ padded 6 micro)
    let seconds : List Nat :=
      if micro ≠ 0 then [second, micro] else if second ≠ 0 then [second] else []
    let fields := day ++ ([hour, minute] ++ seconds).map fun (n : Nat) => toString n
    let zone := match s.offset with
      | some o => ["tzinfo=" ++ offsetQuoted o]
      | none => []
    .foreign "datetime" (s.dayText ++ " " ++ clock ++ ((s.offset.map offsetText).getD ""))
      ("datetime.datetime(" ++ ", ".intercalate (fields ++ zone) ++ ")") true

end Stamp

/-- The day or time that a scalar writes. -/
def readTime (text : String) : Except Fault Value :=
  match readStamp? false text.toList with
  | none => .error (.notATime text)
  | some s => if s.isValid then .ok s.value else .error (.impossibleDate text)

end MarkdownAdf.Yaml
