import Stepwise.Number.Decimal
import Stepwise.Text.Blank
import Stepwise.Text.Digit

/-!
Reading numbers from text: integers in a base, and decimal numbers. Blanks around the number are
skipped, digits of every script count, and single underscores may stand between digits.
-/

namespace Stepwise.Reading

/-- Blanks of ASCII that may surround a number. -/
def isAsciiBlank (c : Char) : Bool := c == ' ' || (0x09 ≤ c.toNat && c.toNat ≤ 0x0d)

/-- Replaces decimal digits of all scripts by the ASCII ones, and other blanks by spaces. -/
def plainChar (c : Char) : Char :=
  if c.toNat < 128 then c
  else if Text.isBlank c then ' '
  else
    match Text.decimalValue? c with
    | some d => Char.ofNat ('0'.toNat + d)
    | none => '?'

def plain (s : String) : List Char := Text.trimBy isAsciiBlank (s.toList.map plainChar)

/-- The value of a digit in bases up to 36. -/
def digitValue? (c : Char) : Option Nat :=
  if '0' ≤ c ∧ c ≤ '9' then some (c.toNat - '0'.toNat)
  else if 'a' ≤ c ∧ c ≤ 'z' then some (c.toNat - 'a'.toNat + 10)
  else if 'A' ≤ c ∧ c ≤ 'Z' then some (c.toNat - 'A'.toNat + 10)
  else none

/-- Takes a sign off the front. -/
def splitSign : List Char → Bool × List Char
  | '-' :: rest => (true, rest)
  | '+' :: rest => (false, rest)
  | rest => (false, rest)

/-- The digits of a number in a base, with single underscores between them dropped. `none` where
anything else stands. -/
def digits? (base : Nat) : List Char → Option (List Nat)
  | [] => none
  | [c] => (digitValue? c).bind fun d => if d < base then some [d] else none
  | '_' :: _ => none
  | c :: '_' :: rest =>
    (digitValue? c).bind fun d => if d < base then (digits? base rest).map (d :: ·) else none
  | c :: rest =>
    (digitValue? c).bind fun d => if d < base then (digits? base rest).map (d :: ·) else none

/-- Why a text is no integer. -/
inductive IntError where
  | malformed
  | tooLong (digits : Nat)
  deriving DecidableEq, Repr

/-- The base that a mark after a leading zero stands for. -/
def markedBase? (c : Char) : Option Nat :=
  if c == 'x' || c == 'X' then some 16
  else if c == 'o' || c == 'O' then some 8
  else if c == 'b' || c == 'B' then some 2
  else none

/-- Takes a base mark off the front where the base asks for it, and one underscore after it. Base 0
stands for the marked base, or else for 10. -/
def splitBase (base : Nat) (body : List Char) : Nat × List Char :=
  match body with
  | '0' :: mark :: rest =>
    match markedBase? mark with
    | some marked =>
      if base = 0 ∨ base = marked then
        (marked, match rest with
          | '_' :: more => more
          | _ => rest)
      else (base, body)
    | none => (if base = 0 then 10 else base, body)
  | _ => (if base = 0 then 10 else base, body)

def isPowerOfTwo (base : Nat) : Bool := base = 2 ∨ base = 4 ∨ base = 8 ∨ base = 16 ∨ base = 32

/-- Reads an integer in a base; base 0 looks at the marks of the text. -/
def int? (base : Nat) (s : String) : Except IntError Int :=
  let (negative, body) := splitSign (plain s)
  let (actual, digitText) := splitBase base body
  match digits? actual digitText with
  | none => .error .malformed
  | some digits =>
    let leadingZero := base = 0 ∧ actual = 10 ∧ 1 < digits.length ∧ digits.head? = some 0
    if leadingZero ∧ digits.any (· != 0) then .error .malformed
    else if 4300 < digits.length ∧ !isPowerOfTwo actual then .error (.tooLong digits.length)
    else
      let magnitude : Int := (digits.foldl (fun n d => actual * n + d) 0 : Nat)
      .ok (if negative then -magnitude else magnitude)

/-! ### Decimal numbers -/

/-- Drops single underscores between digits; `none` where an underscore stands elsewhere. -/
def dropUnderscores (previous : Char) : List Char → Option (List Char)
  | [] => if previous == '_' then none else some []
  | c :: rest =>
    if c == '_' then
      if previous.isDigit then dropUnderscores c rest else none
    else if previous == '_' && !c.isDigit then none
    else (dropUnderscores c rest).map (c :: ·)

def natOf (digits : List Char) : Nat :=
  digits.foldl (fun n c => 10 * n + (c.toNat - '0'.toNat)) 0

/-- Reads the power of ten at the end of a decimal number. -/
def exponent? : List Char → Option Int
  | [] => some 0
  | mark :: rest =>
    if mark == 'e' || mark == 'E' then
      let (negative, digits) := splitSign rest
      if digits.isEmpty || !digits.all Char.isDigit then none
      else
        let magnitude : Int := natOf digits
        some (if negative then -magnitude else magnitude)
    else none

/-- Reads a decimal number without sign. -/
def magnitude? (negative : Bool) (body : List Char) : Option Binary64 :=
  let whole := body.takeWhile Char.isDigit
  let rest := body.dropWhile Char.isDigit
  let fraction := match rest with
    | '.' :: after => after.takeWhile Char.isDigit
    | _ => []
  let tail := match rest with
    | '.' :: after => after.dropWhile Char.isDigit
    | _ => rest
  if whole.isEmpty && fraction.isEmpty then none
  else
    (exponent? tail).map fun e =>
      Binary64.ofDecimal negative (natOf (whole ++ fraction)) (e - fraction.length)

/-- Reads a decimal number, an infinity or a NaN. -/
def float? (s : String) : Option Binary64 := do
  let chars ← dropUnderscores ' ' (plain s)
  let (negative, body) := splitSign chars
  let word := String.ofList (body.map Char.toLower)
  if word = "inf" ∨ word = "infinity" then some (.infinite negative)
  else if word = "nan" then some .nan
  else magnitude? negative body

end Stepwise.Reading
