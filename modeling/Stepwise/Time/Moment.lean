import Stepwise.Number.Reading
import Stepwise.Time.Day

/-!
Moments: a day and a time of day, with a distance from universal time if it is known; their written
form and the forms that are read.
-/

namespace Stepwise

structure Moment where
  /-- Seconds since the first of January 1970 on the clock of the place. -/
  seconds : Int
  micros : Nat := 0
  /-- How many seconds the clock of the place is ahead of universal time. -/
  offset? : Option Int := some 0
  deriving DecidableEq, Repr, Inhabited

namespace Moment

open Day (padded)

/-- Microseconds since the first of January 1970 in universal time. -/
def instant (m : Moment) : Int := (m.seconds - m.offset?.getD 0) * 1000000 + m.micros

/-- The moment of an instant in universal time. -/
def ofInstant (micros : Int) : Moment := ⟨micros.fdiv 1000000, (micros.fmod 1000000).toNat, some 0⟩

def offsetText (offset : Int) : String :=
  let sign := if offset < 0 then "-" else "+"
  let n := offset.natAbs
  sign ++ padded 2 (n / 3600) ++ ":" ++ padded 2 (n / 60 % 60) ++
    (if n % 60 = 0 then "" else ":" ++ padded 2 (n % 60))

/-- The day and the time without the distance. -/
def localText (m : Moment) : String :=
  let days := m.seconds.fdiv 86400
  let rest := (m.seconds.fmod 86400).toNat
  (Day.ofDays days).text ++ "T" ++ padded 2 (rest / 3600) ++ ":" ++ padded 2 (rest / 60 % 60) ++
    ":" ++ padded 2 (rest % 60) ++ (if m.micros = 0 then "" else "." ++ padded 6 m.micros)

/-- The written form, with the distance in digits. -/
def text (m : Moment) : String :=
  m.localText ++ (match m.offset? with
    | none => ""
    | some offset => offsetText offset)

/-- The form in documents, where universal time is marked by a letter. -/
def documentText (m : Moment) : String :=
  m.localText ++ (match m.offset? with
    | none => ""
    | some offset => if offset = 0 then "Z" else offsetText offset)

/-! ### Reading -/

/-- Why a text is no day. -/
inductive DayError where
  | tooShort
  | yearCharacter
  | separator
  | monthCharacter
  | dayCharacter
  | monthRange
  | dayRange
  | extra
  deriving DecidableEq, Repr, Inhabited

def DayError.message : DayError → String
  | tooShort => "input is too short"
  | yearCharacter => "invalid character in year"
  | separator => "invalid date separator, expected `-`"
  | monthCharacter => "invalid character in month"
  | dayCharacter => "invalid character in day"
  | monthRange => "month value is outside expected range of 1-12"
  | dayRange => "day value is outside expected range"
  | extra => "unexpected extra characters at the end of the input"

/-- The number that some decimal digits write. -/
def number? (digits : List Char) : Option Nat :=
  if !digits.isEmpty ∧ digits.all Char.isDigit then
    some (digits.foldl (fun n c => 10 * n + (c.toNat - 48)) 0)
  else none

/-- Reads a day of ten characters off the front. -/
def readDay (s : List Char) : Except DayError (Day × List Char) := do
  if (String.ofList s).utf8ByteSize < 10 then throw .tooShort
  let some year := number? (s.take 4) | throw .yearCharacter
  if s[4]? ≠ some '-' then throw .separator
  let some month := number? ((s.drop 5).take 2) | throw .monthCharacter
  if s[7]? ≠ some '-' then throw .separator
  let some day := number? ((s.drop 8).take 2) | throw .dayCharacter
  if month < 1 ∨ 12 < month then throw .monthRange
  if day < 1 ∨ Day.monthLength year month < day then throw .dayRange
  return (⟨year, month, day⟩, s.drop 10)

/-- Reads two digits below a bound. -/
def twoDigits? (bound : Nat) (s : List Char) : Option (Nat × List Char) := do
  if s.length < 2 then none
  let n ← number? (s.take 2)
  if n < bound then some (n, s.drop 2) else none

/-- Reads the distance from universal time, which ends the text. -/
def readOffset? : List Char → Option (Option Int)
  | [] => some none
  | ['Z'] => some (some 0)
  | ['z'] => some (some 0)
  | c :: rest => do
    let sign : Int ← if c == '+' then some 1 else if c == '-' then some (-1) else none
    let (hours, rest) ← twoDigits? 24 rest
    let rest := match rest with
      | ':' :: after => after
      | after => after
    let (minutes, rest) ← twoDigits? 60 rest
    if rest.isEmpty then some (some (sign * (hours * 3600 + minutes * 60))) else none

/-- Reads the fraction of a second: up to six digits count and up to nine are allowed. -/
def readFraction? : List Char → Option (Nat × List Char)
  | c :: rest =>
    if c == '.' || c == ',' then
      let digits := rest.takeWhile Char.isDigit
      if digits.isEmpty ∨ 9 < digits.length then none
      else
        let six := (digits ++ List.replicate 6 '0').take 6
        some ((number? six).getD 0, rest.drop digits.length)
    else some (0, c :: rest)
  | [] => some (0, [])

/-- Reads the time of day and the distance after a day. -/
def readClock? (day : Day) (s : List Char) : Option Moment := do
  let (hours, rest) ← twoDigits? 24 s
  let rest ← match rest with
    | ':' :: after => some after
    | _ => none
  let (minutes, rest) ← twoDigits? 60 rest
  let (seconds, micros, rest) ← match rest with
    | ':' :: after => do
      let (seconds, rest) ← twoDigits? 60 after
      let (micros, rest) ← readFraction? rest
      some (seconds, micros, rest)
    | after => some (0, 0, after)
  let offset ← readOffset? rest
  let clock : Nat := hours * 3600 + minutes * 60 + seconds
  some ⟨day.toDays * 86400 + clock, micros, offset⟩

/-- Seconds at and above which a number is taken to count milliseconds. -/
def millisecondMark : Int := 20000000000

/-- The moment of a count of microseconds in the given unit, if it is in range. -/
def ofCount? (micros : Int) : Option Moment :=
  let scaled := if micros.natAbs ≤ millisecondMark.natAbs * 1000000 then micros
    else micros.fdiv 1000
  let m := ofInstant scaled
  if Day.toDays ⟨1600, 1, 1⟩ * 86400 ≤ m.seconds ∧ m.seconds < Day.toDays ⟨10000, 1, 1⟩ * 86400
  then some m else none

/-- A whole or decimal number of seconds. -/
def ofNumber? (s : String) : Option Moment := do
  let body := match s.toList with
    | '-' :: rest => rest
    | '+' :: rest => rest
    | rest => rest
  if body.isEmpty ∨ !body.all (fun c => c.isDigit || c == '.') then none
  let x ← Reading.float? s
  let n ← (x.mul (Binary64.ofInt 1000000)).roundEven
  ofCount? n

/-- Reads a moment. A day alone stands for its first instant. -/
def ofText (s : String) : Except DayError Moment :=
  let chars := s.toList
  match readDay chars with
  | .error e =>
    match ofNumber? s with
    | some m => .ok m
    | none => .error e
  | .ok (day, []) => .ok ⟨day.toDays * 86400, 0, none⟩
  | .ok (day, mark :: rest) =>
    if mark == 'T' || mark == 't' || mark == ' ' || mark == '_' then
      match readClock? day rest with
      | some m => .ok m
      | none => .error .extra
    else .error .extra

end Moment

end Stepwise
