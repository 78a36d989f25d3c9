import ContextQuery.Calendar

/-!
# Timestamps

A timestamp is written `YYYY-MM-DD` or `YYYY-MM-DDTHH:MM`, the latter with seconds and a fraction of
up to nine digits if wanted. `Moment.read` reads it and `Moment.text` writes the canonical form,
which leaves out seconds that are nought and gives a fraction three, six or nine digits.
-/

namespace ContextQuery.Timestamp

/-- Why a text is not a timestamp. -/
inductive Fault where
  | shape
  | leapSecond
  | outOfRange
  | trailingInput
  deriving DecidableEq, Repr

/-- The cause behind the fault, where there is more to say than that the text is not one. -/
def Fault.cause? : Fault → Option String
  | .shape => none
  | .leapSecond => none
  | .outOfRange => some "input is out of range"
  | .trailingInput => some "trailing input"

/-- A day, or a time on a day. -/
inductive Moment where
  | day (date : Date)
  | time (date : Date) (time : Time)
  deriving DecidableEq, Repr

/-! ## Reading -/

/-- The number that the next `n` digits write, after the number `value`. -/
def digitsAfter (value : Nat) : Nat → List Char → Option (Nat × List Char)
  | 0, cs => some (value, cs)
  | n + 1, c :: cs => if c.isDigit then digitsAfter (value * 10 + (c.toNat - 48)) n cs else none
  | _ + 1, [] => none

/-- The number that the next `n` digits write. -/
def digits (n : Nat) (cs : List Char) : Option (Nat × List Char) :=
  digitsAfter 0 n cs

/-- What follows the character `c`. -/
def skip (c : Char) : List Char → Option (List Char)
  | d :: cs => if d = c then some cs else none
  | [] => none

/-- What a text says about the time of the day, ranges unchecked. -/
structure ClockFields where
  hour : Nat
  minute : Nat
  second : Option Nat
  nanosecond : Nat
  deriving DecidableEq, Repr

/-- The nanoseconds that a fraction of a second writes. -/
def readFraction (cs : List Char) : Option Nat := do
  if cs.length < 1 || 9 < cs.length then none
  else
    let (value, _) ← digits cs.length cs
    return value * Nat.pow 10 (9 - cs.length)

/-- Reads `HH:MM`, `HH:MM:SS` or `HH:MM:SS.f`. -/
def readClock (cs : List Char) : Option ClockFields := do
  let (hour, cs) ← digits 2 cs
  let cs ← skip ':' cs
  let (minute, cs) ← digits 2 cs
  if cs.isEmpty then return ⟨hour, minute, none, 0⟩
  let cs ← skip ':' cs
  let (second, cs) ← digits 2 cs
  if cs.isEmpty then return ⟨hour, minute, some second, 0⟩
  let cs ← skip '.' cs
  let nanosecond ← readFraction cs
  return ⟨hour, minute, some second, nanosecond⟩

/-- Reads the numbers of a timestamp, ranges unchecked. -/
def readFields (cs : List Char) : Option (Date × Option ClockFields) := do
  let (year, cs) ← digits 4 cs
  let cs ← skip '-' cs
  let (month, cs) ← digits 2 cs
  let cs ← skip '-' cs
  let (day, cs) ← digits 2 cs
  if cs.isEmpty then return (⟨year, month, day⟩, none)
  let cs ← skip 'T' cs
  let clock ← readClock cs
  return (⟨year, month, day⟩, some clock)

/-- Month and day are numbers that some month and some day have. -/
def hasDateRange (d : Date) : Bool :=
  1 ≤ d.month && d.month ≤ 12 && 1 ≤ d.day && d.day ≤ 31

/-- Hour and minute are numbers that the clock shows. -/
def hasClockRange (c : ClockFields) : Bool :=
  c.hour < 24 && c.minute < 60

/-- The moment that the numbers name. A number that is never right is out of range. Otherwise, where
seconds are given, they are what is left over when the rest does not make a moment; second 60, on a
day that exists, is a leap second. -/
def Moment.ofFields (date : Date) : Option ClockFields → Except Fault Moment
  | none => if hasDateRange date && date.isDay then .ok (.day date) else .error .outOfRange
  | some c =>
    if !(hasDateRange date && hasClockRange c) then .error .outOfRange
    else
      match c.second with
      | none => if date.isDay then .ok (.time date ⟨c.hour, c.minute, 0, 0⟩) else .error .outOfRange
      | some second =>
        if !date.isDay || 60 < second then .error .trailingInput
        else if second = 60 then .error .leapSecond
        else .ok (.time date ⟨c.hour, c.minute, second, c.nanosecond⟩)

/-- Reads a timestamp. -/
def Moment.read (s : String) : Except Fault Moment :=
  match readFields s.toList with
  | none => .error .shape
  | some (date, clock) => Moment.ofFields date clock

/-! ## Writing -/

/-- The last `width` digits of a number. -/
def padded : (width : Nat) → Nat → List Char
  | 0, _ => []
  | width + 1, n => padded width (n / 10) ++ [Char.ofNat (48 + n % 10)]

/-- The canonical text of a day. -/
def dateText (d : Date) : List Char :=
  padded 4 d.year ++ ['-'] ++ padded 2 d.month ++ ['-'] ++ padded 2 d.day

/-- The fraction of a second in groups of three digits, as few as tell it. -/
def fractionText (nanosecond : Nat) : List Char :=
  if nanosecond = 0 then []
  else if nanosecond % 1000000 = 0 then '.' :: padded 3 (nanosecond / 1000000)
  else if nanosecond % 1000 = 0 then '.' :: padded 6 (nanosecond / 1000)
  else '.' :: padded 9 nanosecond

/-- The canonical text of a time. -/
def timeText (t : Time) : List Char :=
  padded 2 t.hour ++ [':'] ++ padded 2 t.minute ++
    if t.second = 0 ∧ t.nanosecond = 0 then []
    else ':' :: padded 2 t.second ++ fractionText t.nanosecond

/-- The canonical text of a moment. -/
def Moment.text : Moment → String
  | .day date => String.ofList (dateText date)
  | .time date t => String.ofList (dateText date ++ ['T'] ++ timeText t)

/-- The canonical text of a timestamp. -/
def canonical (s : String) : Except Fault String := do
  return (← Moment.read s).text

end ContextQuery.Timestamp
