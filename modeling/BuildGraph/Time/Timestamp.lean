import BuildGraph.Number.Binary64

/-!
# Points in time

A `Timestamp` is a reading of a clock to the microsecond, with the distance of that clock from
universal time when it is known. It is written in the extended format of ISO 8601. Differences of
two readings are exact; `Duration.milliseconds` passes through a binary fraction of a second, as
durations are reported.
-/

namespace BuildGraph

open BuildGraph.Number

/-- A reading of a clock. -/
structure Timestamp where
  /-- Microseconds since the start of year one on the clock that is read. -/
  micros : Int
  /-- How far that clock is ahead of universal time, in microseconds, if known. -/
  offset : Option Int
  deriving DecidableEq, Repr

/-- Why a point in time cannot be reckoned with. -/
inductive TimeFault where
  /-- It lies before year one or after year 9999. -/
  | outOfRange
  /-- It is too close to the start of year one to tell its distance from 1970. -/
  | beforeFirstYear
  deriving DecidableEq, Repr

/-- The words for a fault. -/
def TimeFault.message : TimeFault → String
  | outOfRange => "date value out of range"
  | beforeFirstYear => "year 0 is out of range"

namespace Timestamp

/-- Microseconds in a second. -/
def second : Nat := 1000000

/-- Microseconds in a day. -/
def day : Nat := 86400 * second

/-- Whether the year has a twenty-ninth of February. -/
def isLeap (year : Nat) : Bool := year % 4 == 0 && (year % 100 != 0 || year % 400 == 0)

/-- Days in the years before the given one, counted from year one. -/
def daysBeforeYear (year : Nat) : Nat :=
  let y := year - 1
  y * 365 + y / 4 - y / 100 + y / 400

/-- Days in a month. -/
def daysInMonth (year month : Nat) : Nat :=
  if month = 2 then (if isLeap year then 29 else 28)
  else if month = 4 || month = 6 || month = 9 || month = 11 then 30 else 31

/-- Days in the months of the year before the given one. -/
def daysBeforeMonth (year month : Nat) : Nat :=
  (List.range (month - 1)).foldl (fun days m => days + daysInMonth year (m + 1)) 0

/-- The number of a day, the first day of year one being zero. -/
def dayNumber (year month dayOfMonth : Nat) : Nat :=
  daysBeforeYear year + daysBeforeMonth year month + (dayOfMonth - 1)

/-- The month that holds a day of the year, counted from zero, and the day of that month, where
the search starts at `month` and `left` months remain. -/
def monthOfDay (year : Nat) : Nat → Nat → Nat → Nat × Nat
  | 0, month, n => (month, n + 1)
  | left + 1, month, n =>
    if n < daysInMonth year month then (month, n + 1)
    else monthOfDay year left (month + 1) (n - daysInMonth year month)

/-- The year that holds a day: the estimate from the mean length of a year is at most one off. -/
def yearOfDay (n : Nat) : Nat :=
  let guess := n * 400 / 146097 + 1
  if n < daysBeforeYear guess then guess - 1
  else if daysBeforeYear (guess + 1) ≤ n then guess + 1
  else guess

/-- Year, month and day of month of a day number. -/
def dateOfDay (n : Nat) : Nat × Nat × Nat :=
  let year := yearOfDay n
  let (month, dayOfMonth) := monthOfDay year 11 1 (n - daysBeforeYear year)
  (year, month, dayOfMonth)

/-- A number with leading zeros up to a width. -/
def padded (width n : Nat) : String := Text.padLeft width '0' (toString n)

/-- A time of day in microseconds, with a fraction only when it is not zero. -/
def clockText (micros : Nat) : String :=
  let s := micros / second
  let base := padded 2 (s / 3600) ++ ":" ++ padded 2 (s / 60 % 60) ++ ":" ++ padded 2 (s % 60)
  if micros % second = 0 then base else base ++ "." ++ padded 6 (micros % second)

/-- A distance from universal time: sign, hours and minutes, and seconds only when needed. -/
def offsetText (offset : Int) : String :=
  let n := offset.natAbs
  let s := n / second
  let base := (if offset < 0 then "-" else "+") ++ padded 2 (s / 3600) ++ ":" ++
    padded 2 (s / 60 % 60)
  if n % (60 * second) = 0 then base
  else if n % second = 0 then base ++ ":" ++ padded 2 (s % 60)
  else base ++ ":" ++ padded 2 (s % 60) ++ "." ++ padded 6 (n % second)

/-- The reading in the extended format: date, the letter T, time, and the offset if known. -/
def render (t : Timestamp) : String :=
  let n := t.micros.toNat
  let (year, month, dayOfMonth) := dateOfDay (n / day)
  padded 4 year ++ "-" ++ padded 2 month ++ "-" ++ padded 2 dayOfMonth ++ "T" ++
    clockText (n % day) ++ (match t.offset with | none => "" | some o => offsetText o)

/-- Exactly `count` digits and the rest. -/
def takeNumber (count : Nat) (cs : List Char) : Option (Nat × List Char) :=
  let (ds, _) := plainDigits (cs.take count)
  if ds.length = count then some (ofDigits 10 ds, cs.drop count) else none

/-- A given character and the rest. -/
def takeMark (c : Char) : List Char → Option (List Char)
  | [] => none
  | d :: rest => if c = d then some rest else none

/-- The fraction of a second, cut to microseconds. -/
def takeFraction : List Char → Option (Nat × List Char)
  | '.' :: rest =>
    let (ds, tail) := plainDigits rest
    if ds.isEmpty then none
    else some (ofDigits 10 ((ds ++ List.replicate 6 0).take 6), tail)
  | cs => some (0, cs)

/-- A time of hours, minutes and, optionally, seconds with a fraction, in microseconds. -/
def takeClock (cs : List Char) : Option (Nat × List Char) := do
  let (h, cs) ← takeNumber 2 cs
  let cs ← takeMark ':' cs
  let (m, cs) ← takeNumber 2 cs
  match takeMark ':' cs with
  | none => some ((h * 3600 + m * 60) * second, cs)
  | some cs =>
    let (s, cs) ← takeNumber 2 cs
    let (f, cs) ← takeFraction cs
    some ((h * 3600 + m * 60 + s) * second + f, cs)

/-- The offset at the end of a reading. -/
def readOffset? : List Char → Option (Option Int)
  | [] => some none
  | ['Z'] => some (some 0)
  | '+' :: rest => (takeClock rest).bind fun (n, tail) =>
      if tail.isEmpty then some (some (n : Int)) else none
  | '-' :: rest => (takeClock rest).bind fun (n, tail) =>
      if tail.isEmpty then some (some (-(n : Int))) else none
  | _ => none

/-- Reads a reading in the extended format; a date alone is its midnight. -/
def read? (s : String) : Option Timestamp := do
  let (year, cs) ← takeNumber 4 s.toList
  let cs ← takeMark '-' cs
  let (month, cs) ← takeNumber 2 cs
  let cs ← takeMark '-' cs
  let (dayOfMonth, cs) ← takeNumber 2 cs
  if year = 0 || month = 0 || 12 < month || dayOfMonth = 0 || daysInMonth year month < dayOfMonth
  then none
  let start := dayNumber year month dayOfMonth * day
  match cs with
  | [] => some ⟨start, none⟩
  | _ :: cs =>
    let (n, cs) ← takeClock cs
    if day ≤ n then none
    let offset ← readOffset? cs
    some ⟨(start + n : Nat), offset⟩

/-- The reading some microseconds later. -/
def later (t : Timestamp) (micros : Int) : Timestamp := { t with micros := t.micros + micros }

/-- The same moment on a clock of universal time. A clock of unknown offset is taken for one. -/
def toUniversal (t : Timestamp) : Timestamp := ⟨t.micros - t.offset.getD 0, some 0⟩

/-- Whether the reading lies in the years from one to 9999. -/
def isInRange (t : Timestamp) : Bool := 0 ≤ t.micros && t.micros < (3652059 * day : Nat)

/-- The same moment on a clock of universal time, if that clock can show it. -/
def universal? (t : Timestamp) : Except TimeFault Timestamp :=
  if t.toUniversal.isInRange then .ok t.toUniversal else .error .outOfRange

/-- The microseconds from one reading to another, if both have an offset or neither has. -/
def since? (t start : Timestamp) : Option Int :=
  match t.offset, start.offset with
  | some a, some b => some ((t.micros - a) - (start.micros - b))
  | none, none => some (t.micros - start.micros)
  | _, _ => none

/-- Microseconds from year one to the start of 1970. -/
def epoch : Int := 719162 * day

/-- Seconds since 1970 in the 64 bit format. With an offset the quotient is rounded once; without
one the whole seconds and the fraction are rounded apart and added. -/
def epochSeconds (t : Timestamp) : Binary64 :=
  match t.offset with
  | some a => Binary64.ofQuotient (t.micros - a - epoch) second
  | none =>
    let n := t.micros - epoch
    (Binary64.nearest ((n / (second : Int) : Int) : Rat)).add
      (Binary64.ofQuotient (n % (second : Int)) second)

/-- Why the distance of a reading from 1970 cannot be told. Without an offset, the day before it is
looked at too. -/
def epochFault? (t : Timestamp) : Option TimeFault :=
  if t.offset.isNone && t.micros < day then some .beforeFirstYear else none

end Timestamp

/-- Whole milliseconds of a number of microseconds, by way of a binary fraction of a second: the
quotient is rounded, the product with a thousand is rounded, and the fraction is cut off. -/
def Duration.milliseconds (micros : Int) : Int :=
  ((Binary64.ofQuotient micros Timestamp.second).mulNat 1000).toInt

/-- Whole milliseconds since 1970, by way of a binary fraction of a second. -/
def Timestamp.epochMilliseconds (t : Timestamp) : Int := (t.epochSeconds.mulNat 1000).toInt

end BuildGraph
