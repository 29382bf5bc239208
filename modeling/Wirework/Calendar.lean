import Wirework.Number.Double
import Wirework.Number.Reading

/-!
# Dates and moments

A `Moment` is a wall-clock time of the proleptic Gregorian calendar, with or without an offset from
universal time. Moments are read from ISO text and from Unix time, and written as ISO text and as
the sortable stamp of a migration.
-/

namespace Wirework

/-! ## Dates -/

namespace Date

def isLeap (year : Nat) : Bool := year % 4 = 0 && (year % 100 ≠ 0 || year % 400 = 0)

def daysIn (year month : Nat) : Nat :=
  if month = 2 then (if isLeap year then 29 else 28)
  else if month = 4 ∨ month = 6 ∨ month = 9 ∨ month = 11 then 30 else 31

/-- The dates of the years 1 to 9999. -/
def Valid (year month day : Nat) : Prop :=
  (1 ≤ year ∧ year ≤ 9999) ∧ (1 ≤ month ∧ month ≤ 12) ∧ (1 ≤ day ∧ day ≤ daysIn year month)

instance (y m d : Nat) : Decidable (Valid y m d) := inferInstanceAs (Decidable (_ ∧ _))

end Date

structure Date where
  year : Nat
  month : Nat
  day : Nat
  valid : Date.Valid year month day
  deriving DecidableEq

namespace Date

def epoch : Date := ⟨1970, 1, 1, by decide⟩

instance : Inhabited Date := ⟨epoch⟩

def of? (year month day : Nat) : Option Date :=
  if h : Valid year month day then some ⟨year, month, day, h⟩ else none

def next? (d : Date) : Option Date :=
  if d.day < daysIn d.year d.month then of? d.year d.month (d.day + 1)
  else if d.month < 12 then of? d.year (d.month + 1) 1
  else of? (d.year + 1) 1 1

/-- The day that many days later. -/
def after? (d : Date) : Nat → Option Date
  | 0 => some d
  | n + 1 => d.next?.bind (after? · n)

/-- The day with a given number of days since the first day of Unix time. Years are counted from
March, in cycles of four hundred. -/
def ofUnixDays? (days : Int) : Option Date :=
  let shifted := days + 719468
  let era := shifted.fdiv 146097
  let dayOfEra := shifted.fmod 146097
  let yearOfEra :=
    (dayOfEra - dayOfEra.fdiv 1460 + dayOfEra.fdiv 36524 - dayOfEra.fdiv 146096).fdiv 365
  let dayOfYear := dayOfEra - (365 * yearOfEra + yearOfEra.fdiv 4 - yearOfEra.fdiv 100)
  let shiftedMonth := (5 * dayOfYear + 2).fdiv 153
  let day := dayOfYear - (153 * shiftedMonth + 2).fdiv 5 + 1
  let month := if shiftedMonth < 10 then shiftedMonth + 3 else shiftedMonth - 9
  let year := yearOfEra + era * 400 + (if month ≤ 2 then 1 else 0)
  if year < 1 then none else of? year.toNat month.toNat day.toNat

end Date

/-! ## Moments -/

/-- A wall-clock time, with its offset from universal time in seconds if it has one. -/
structure Moment where
  date : Date
  /-- Seconds since midnight. -/
  seconds : Fin 86400
  micros : Fin 1000000
  offset : Option Int
  deriving DecidableEq

namespace Moment

instance : Inhabited Moment := ⟨⟨default, 0, 0, some 0⟩⟩

def of? (date : Date) (seconds micros : Nat) (offset : Option Int) : Option Moment :=
  if h : seconds < 86400 then
    if h' : micros < 1000000 then some ⟨date, ⟨seconds, h⟩, ⟨micros, h'⟩, offset⟩ else none
  else none

def addSeconds? (t : Moment) (n : Nat) : Option Moment :=
  let total := t.seconds.val + n
  (t.date.after? (total / 86400)).map fun d =>
    { t with date := d, seconds := ⟨total % 86400, Nat.mod_lt _ (by decide)⟩ }

/-! ### Writing -/

def padded (width n : Nat) : String :=
  let ds := Nat.toDigits 10 n
  String.ofList (List.replicate (width - ds.length) '0' ++ ds)

def hour (t : Moment) : Nat := t.seconds.val / 3600

def minute (t : Moment) : Nat := t.seconds.val / 60 % 60

def second (t : Moment) : Nat := t.seconds.val % 60

/-- The offset in ISO text: nothing, `Z`, or hours and minutes with a sign. -/
def offsetText : Option Int → String
  | none => ""
  | some s =>
    if s = 0 then "Z"
    else
      let minutes := s.natAbs / 60
      (if s < 0 then "-" else "+") ++ padded 2 (minutes / 60) ++ ":" ++ padded 2 (minutes % 60)

/-- ISO text; a fraction of six digits stands only where it is not zero. -/
def toIso (t : Moment) : String :=
  padded 4 t.date.year ++ "-" ++ padded 2 t.date.month ++ "-" ++ padded 2 t.date.day ++ "T"
    ++ padded 2 t.hour ++ ":" ++ padded 2 t.minute ++ ":" ++ padded 2 t.second
    ++ (if t.micros.val = 0 then "" else "." ++ padded 6 t.micros.val)
    ++ offsetText t.offset

/-- The wall-clock time as digits from year to second; the year is as wide as it is. -/
def stamp (t : Moment) : String :=
  toString t.date.year ++ padded 2 t.date.month ++ padded 2 t.date.day
    ++ padded 2 t.hour ++ padded 2 t.minute ++ padded 2 t.second

/-! ### Reading -/

/-- Exactly `count` digits, and the rest. -/
def takeExactly (count : Nat) (cs : List Char) : Option (Nat × List Char) :=
  let head := cs.take count
  if head.length = count ∧ head.all Char.isDigit then
    some (Number.ofDigits 10 (head.map fun c => c.toNat - '0'.toNat), cs.drop count)
  else none

def takeChar (c : Char) : List Char → Option (List Char)
  | c' :: rest => if c' = c then some rest else none
  | [] => none

/-- A calendar day in ISO text, and the rest. -/
def takeDate (cs : List Char) : Option (Date × List Char) := do
  let (year, cs) ← takeExactly 4 cs
  let cs ← takeChar '-' cs
  let (month, cs) ← takeExactly 2 cs
  let cs ← takeChar '-' cs
  let (day, cs) ← takeExactly 2 cs
  return (← Date.of? year month day, cs)

/-- A fraction of a second in millionths, behind a point or a comma; digits beyond the sixth are
dropped. -/
def takeFraction (cs : List Char) : Option (Nat × List Char) :=
  match cs with
  | c :: rest =>
    if c = '.' ∨ c = ',' then
      let (ds, tail) := rest.span Char.isDigit
      if ds.isEmpty then none
      else
        let six := ds.take 6 ++ List.replicate (6 - ds.length) '0'
        some (Number.ofDigits 10 (six.map fun c => c.toNat - '0'.toNat), tail)
    else some (0, cs)
  | [] => some (0, [])

/-- Hours and minutes, optionally seconds with a fraction: seconds since midnight and millionths. -/
def takeTime (cs : List Char) : Option ((Nat × Nat) × List Char) := do
  let (hour, cs) ← takeExactly 2 cs
  let cs ← takeChar ':' cs
  let (minute, cs) ← takeExactly 2 cs
  if hour > 23 ∨ minute > 59 then none
  else
    match cs with
    | ':' :: rest =>
      let (second, cs) ← takeExactly 2 rest
      if second > 59 then none
      else
        let (micros, cs) ← takeFraction cs
        return ((hour * 3600 + minute * 60 + second, micros), cs)
    | _ => return ((hour * 3600 + minute * 60, 0), cs)

def minusSign : Char := '\u2212'

def offset? (cs : List Char) : Option (Option Int) :=
  match cs with
  | [] => some none
  | ['Z'] | ['z'] => some (some 0)
  | sign :: rest =>
    if sign = '+' ∨ sign = '-' ∨ sign = minusSign then do
      let (hours, rest) ← takeExactly 2 rest
      let rest := match rest with
        | ':' :: tail => tail
        | _ => rest
      let (minutes, rest) ← takeExactly 2 rest
      if rest.isEmpty ∧ hours ≤ 23 ∧ minutes ≤ 59 then
        let seconds : Int := hours * 3600 + minutes * 60
        return some (if sign = '+' then seconds else -seconds)
      else none
    else none

/-- ISO text: a date, or a date and a time with an optional offset. -/
def ofIso? (cs : List Char) : Option Moment := do
  let (date, rest) ← takeDate cs
  match rest with
  | [] => of? date 0 0 none
  | sep :: rest =>
    if sep = 'T' ∨ sep = 't' ∨ sep = ' ' ∨ sep = '_' then
      let ((seconds, micros), rest) ← takeTime rest
      of? date seconds micros (← offset? rest)
    else none

/-- Unix time in universal time, in millionths of a second. -/
def ofUnixMicros? (total : Int) : Option Moment := do
  let seconds := total.fdiv 1000000
  let date ← Date.ofUnixDays? (seconds.fdiv 86400)
  of? date (seconds.fmod 86400).toNat (total.fmod 1000000).toNat (some 0)

/-- The greatest magnitude of Unix time that counts seconds; above it thousandths of a second are
counted. -/
def secondsLimit : Nat := 20000000000

def ofTimestamp? (n : Int) : Option Moment :=
  ofUnixMicros? (n * if n.natAbs ≤ secondsLimit then 1000000 else 1000)

/-- Unix time as a floating-point number. What it has beyond the whole second before it is rounded to
millionths. -/
def ofFloat? (x : Double) : Option Moment := do
  let seconds := if (Double.ofRatio false secondsLimit 1).lt x.magnitude then x.quotient 1000 else x
  let whole ← seconds.floor?
  let beyond := seconds.add (.ofRatio (0 < whole) whole.natAbs 1)
  let micros ← (beyond.scale 1000000).roundMagnitude?
  ofUnixMicros? (whole * 1000000 + micros)

/-- A moment in text: ISO text, or Unix time as a decimal number. Only a number with a point may have
an exponent. -/
def ofText? (text : String) : Option Moment :=
  match ofIso? text.toList with
  | some t => some t
  | none =>
    let (negative, body) := Number.takeSign text.toList
    let (whole, rest) := body.span Char.isDigit
    match rest with
    | [] =>
      if whole.isEmpty then none
      else
        let value := Number.ofDigits 10 (whole.map fun c => c.toNat - '0'.toNat)
        ofTimestamp? (Number.signed negative value)
    | '.' :: _ => (Number.plainFloat? text.toList).bind ofFloat?
    | _ => none

end Moment

end Wirework
