import ClusterTopology.Yaml.Error
import ClusterTopology.Yaml.Tag

/-!
# Dates and times

The value of a text that says when: a day, or a day with a time of day and the
zone of the clock. Days are those of the Gregorian calendar from the year 1 on.
-/

namespace ClusterTopology.Yaml.Time

open Number

/-- The parts of a time as they are written. -/
structure Parts where
  date : Date
  /-- Hour, minute, second and microsecond. -/
  clock : Option (Nat × Nat × Nat × Nat)
  /-- Seconds ahead of universal time. -/
  offset : Option Int

/-- A number of some digits and the rest after it. -/
def number? (least most : Nat) (cs : List Char) : Option (Nat × List Char) := do
  let rest ← Tag.afterDigits? least most cs
  return (digitsValue (cs.take (cs.length - rest.length)), rest)

/-- The millionths that digits after a point stand for. -/
def microseconds (digits : List Char) : Nat :=
  digitsValue ((digits ++ List.replicate 6 '0').take 6)

/-- The zone of a clock. The text has the shape of one. -/
def zone (cs : List Char) : Option Int :=
  match cs.dropWhile Tag.isSpaceOrTab with
  | [] => none
  | sign :: rest =>
    if sign = 'Z' then some 0
    else
      let hours := rest.takeWhile isDigit
      let minutes := (rest.dropWhile isDigit).drop 1
      let span : Int := digitsValue hours * 3600 + digitsValue minutes * 60
      some (if sign = '-' then -span else span)

/-- A time of day with its zone. -/
def clock? (cs : List Char) : Option ((Nat × Nat × Nat × Nat) × Option Int) := do
  let (hour, rest) ← number? 1 2 cs
  let (minute, rest) ← number? 2 2 (← Tag.afterChar? ':' rest)
  let (second, rest) ← number? 2 2 (← Tag.afterChar? ':' rest)
  let (fraction, rest) :=
    match rest with
    | '.' :: rest => (rest.takeWhile isDigit, rest.dropWhile isDigit)
    | rest => ([], rest)
  if Tag.isZone rest then some ((hour, minute, second, microseconds fraction), zone rest)
  else none

/-- The parts of a time. -/
def parts? (cs : List Char) : Option Parts := do
  let (year, rest) ← number? 4 4 cs
  let (month, rest) ← number? 1 2 (← Tag.afterChar? '-' rest)
  let (day, rest) ← number? 1 2 (← Tag.afterChar? '-' rest)
  let date : Date := ⟨year, month, day⟩
  match rest with
  | [] => some ⟨date, none, none⟩
  | rest => do
    let (clock, offset) ← clock? (← Tag.afterDate? rest)
    return ⟨date, some clock, offset⟩

/-- Whether a year has a day more. -/
def isLeapYear (year : Nat) : Bool :=
  year % 4 = 0 && (year % 100 ≠ 0 || year % 400 = 0)

/-- The number of days of a month. -/
def daysIn (year month : Nat) : Nat :=
  if month = 2 then if isLeapYear year then 29 else 28
  else if month = 4 || month = 6 || month = 9 || month = 11 then 30
  else 31

/-- What is wrong with a day. -/
def dateFault? (d : Date) : Option ValueFault :=
  if d.year = 0 then some (.year d.year)
  else if d.month = 0 || 12 < d.month then some .month
  else if d.day = 0 || daysIn d.year d.month < d.day then some .day
  else none

/-- What is wrong with a time of day. -/
def clockFault? (hour minute second : Nat) : Option ValueFault :=
  if 23 < hour then some .hour
  else if 59 < minute then some .minute
  else if 59 < second then some .second
  else none

/-- What is wrong with a zone. -/
def offsetFault? (offset : Option Int) : Option ValueFault :=
  match offset with
  | some span => if 86400 ≤ span.natAbs then some (.offset span) else none
  | none => none

/-- The value of a time. A bad zone is noticed before a bad day. -/
def value (p : Parts) : Except ValueFault Scalar :=
  match p.clock with
  | none =>
    match dateFault? p.date with
    | some fault => .error fault
    | none => .ok (.date p.date)
  | some (hour, minute, second, microsecond) =>
    match (offsetFault? p.offset).or ((dateFault? p.date).or (clockFault? hour minute second)) with
    | some fault => .error fault
    | none => .ok (.moment ⟨p.date, hour, minute, second, microsecond, p.offset⟩)

end ClusterTopology.Yaml.Time
