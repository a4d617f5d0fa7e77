import OrderDesk.Fault
import OrderDesk.Number.Reading

/-!
# Points in time

A stamp counts microseconds from the start of 1970, without a time zone. Venues send
milliseconds; a stamp exists only for the years 1 to 9999.

The desk's own clock starts in the year 2500 and moves by one millisecond each time
it is read, so that what is written later is newer, and newer than anything a venue
reports.
-/

namespace OrderDesk

/-- A point in time: microseconds since the start of 1970. -/
structure Stamp where
  /-- The number of microseconds, negative before 1970. -/
  micros : Int
  deriving DecidableEq, Repr, Inhabited

namespace Stamp

/-- One stamp is earlier than another. -/
def before (a b : Stamp) : Bool := a.micros < b.micros

/-- Microseconds in a day. -/
def dayLength : Int := 86400000000

/-- Days from the start of 1970 to a date of the Gregorian calendar. -/
def daysTo (year : Int) (month day : Nat) : Int :=
  let y := if month ≤ 2 then year - 1 else year
  let era := Int.fdiv y 400
  let yearOfEra := (y - era * 400).toNat
  let monthFromMarch := (month + 9) % 12
  let dayOfYear := (153 * monthFromMarch + 2) / 5 + day - 1
  let dayOfEra := yearOfEra * 365 + yearOfEra / 4 - yearOfEra / 100 + dayOfYear
  era * 146097 + dayOfEra - 719468

/-- Year, month and day of a count of days from the start of 1970. -/
def dateOf (days : Int) : Int × Nat × Nat :=
  let z := days + 719468
  let era := Int.fdiv z 146097
  let dayOfEra := (z - era * 146097).toNat
  let yearOfEra := (dayOfEra - dayOfEra / 1460 + dayOfEra / 36524 - dayOfEra / 146096) / 365
  let dayOfYear := dayOfEra - (365 * yearOfEra + yearOfEra / 4 - yearOfEra / 100)
  let monthFromMarch := (5 * dayOfYear + 2) / 153
  let day := dayOfYear - (153 * monthFromMarch + 2) / 5 + 1
  let month := if monthFromMarch < 10 then monthFromMarch + 3 else monthFromMarch - 9
  (Int.ofNat yearOfEra + era * 400 + (if month ≤ 2 then 1 else 0), month, day)

/-- A number with leading zeros. -/
def padded (width n : Nat) : String :=
  let digits := Number.digitsText n
  Number.zeros (width - digits.length) ++ digits

/-- A stamp as text: the date, the time after a separator, and the microseconds in six digits,
which are left out when there are none and they may be. -/
def textWith (separator : String) (mayStop : Bool) (t : Stamp) : String :=
  let days := Int.fdiv t.micros dayLength
  let rest := (t.micros - days * dayLength).toNat
  let (year, month, day) := dateOf days
  let seconds := rest / 1000000
  let fraction := rest % 1000000
  padded 4 year.toNat ++ "-" ++ padded 2 month ++ "-" ++ padded 2 day ++ separator
    ++ padded 2 (seconds / 3600) ++ ":" ++ padded 2 (seconds / 60 % 60) ++ ":"
    ++ padded 2 (seconds % 60)
    ++ (if mayStop && fraction == 0 then "" else "." ++ padded 6 fraction)

/-- A stamp as text. -/
def text (t : Stamp) : String := t.textWith "T" true

/-- A stamp as the store has it in a column of times. -/
def columnText (t : Stamp) : String := t.textWith " " false

/-- A row of exactly `width` digits at the front. -/
def readDigits? (width : Nat) (cs : List Char) : Option (Nat × List Char) :=
  let (ds, rest) := Number.spanDigits (cs.take width)
  if ds.length == width && rest.isEmpty then some (Text.ofDigits ds, cs.drop width) else none

/-- A fixed character at the front. -/
def readChar? (c : Char) : List Char → Option (List Char)
  | d :: rest => if c == d then some rest else none
  | [] => none

/-- The microseconds of a fraction of up to six digits. -/
def readFraction? : List Char → Option Nat
  | [] => some 0
  | '.' :: cs =>
    match Number.spanDigits cs with
    | (ds, []) =>
      if ds.isEmpty || 6 < ds.length then none
      else some (Text.ofDigits ds * Number.tenTo (6 - ds.length))
    | _ => none
  | _ => none

/-- A stamp from its text. -/
def ofText? (s : String) : Option Stamp := do
  let (year, cs) ← readDigits? 4 s.toList
  let (month, cs) ← readDigits? 2 (← readChar? '-' cs)
  let (day, cs) ← readDigits? 2 (← readChar? '-' cs)
  let (hour, cs) ← readDigits? 2 (← readChar? 'T' cs)
  let (minute, cs) ← readDigits? 2 (← readChar? ':' cs)
  let (second, cs) ← readDigits? 2 (← readChar? ':' cs)
  let fraction ← readFraction? cs
  let seconds := (hour * 60 + minute) * 60 + second
  return ⟨daysTo year month day * dayLength + seconds * 1000000 + fraction⟩

/-- Whole seconds and microseconds of a finite number of seconds. The fraction is
taken in doubles and rounded to microseconds, a half to the even neighbour. -/
def splitSeconds (x : Float) : Int × Int :=
  match Number.Binary.ofFloat? x with
  | none => (0, 0)
  | some b =>
    let whole := b.truncate
    if b.isWhole then (whole, 0)
    else
      let fraction := (x - Float.ofInt whole) * 1000000.0
      match Number.Binary.ofFloat? fraction with
      | none => (whole, 0)
      | some f =>
        let units : Int := Int.ofNat (Number.nearest f.num f.den)
        let micros := if f.negative then -units else units
        if 1000000 ≤ micros then (whole + 1, micros - 1000000)
        else if micros < 0 then (whole - 1, micros + 1000000)
        else (whole, micros)

/-- The stamp at a finite number of seconds from the start of 1970. -/
def ofSeconds (x : Float) : Except Fault Stamp :=
  let (seconds, micros) := splitSeconds x
  if Number.isOutside 63 seconds then .error .beyondClock
  else
    let (year, _, _) := dateOf (Int.fdiv seconds 86400)
    if Number.isOutside 31 (year - 1900) then .error .beyondCalendar
    else if year < 1 || 9999 < year then .error (.yearOutOfRange year)
    else .ok ⟨seconds * 1000000 + micros⟩

/-- The stamp at a count of milliseconds from the start of 1970. The count is divided
by a thousand in doubles. -/
def ofMillis (millis : Int) : Except Fault Stamp :=
  let seconds := Number.Decimal.toFloat ⟨millis < 0, millis.natAbs, -3⟩
  if seconds.isInf then .error .beyondSeconds else ofSeconds seconds

/-- The start of the desk's own clock, the first moment of the year 2500. -/
def clockStart : Stamp := ⟨daysTo 2500 1 1 * dayLength⟩

/-- The reading of the desk's clock at a given count of readings. -/
def tick (readings : Nat) : Stamp := ⟨clockStart.micros + 1000 * readings⟩

end Stamp

end OrderDesk
