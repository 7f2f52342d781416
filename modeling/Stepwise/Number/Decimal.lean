import Stepwise.Number.Binary64

/-!
Decimal text of binary64 numbers: the fewest digits that read back, a fixed count of digits, a
fixed count of places, and the reading of decimal text.
-/

namespace Stepwise

namespace Decimal

/-- A positive decimal number: `digits` read as one integer, times `10 ^ exponent`. -/
structure Digits where
  digits : List Char
  /-- Where the point stands: the number is `0.d₁d₂… * 10 ^ point`. -/
  point : Int
  deriving DecidableEq, Repr, Inhabited

def natText (n : Nat) : List Char := Nat.toDigits 10 n

def natString (n : Nat) : String := String.ofList (natText n)

def intString (n : Int) : String :=
  if n < 0 then "-" ++ natString n.natAbs else natString n.natAbs

/-- Drops the zeros at the end, but never the only digit. -/
def trimZeros (digits : List Char) : List Char :=
  match (digits.reverse.dropWhile (· == '0')).reverse with
  | [] => ['0']
  | kept => kept

/-! ### The position of the first digit -/

/-- The least `k` with `num / den < 10 ^ k`, for a positive quotient, found from a guess that is
off by at most one in either direction. -/
def decimalPoint (num den : Nat) : Int :=
  let bits := Binary64.floorLog2 num den
  let guess : Int := (bits * 30103).fdiv 100000
  let below (k : Int) : Bool :=
    if 0 ≤ k then num < den * Nat.pow 10 k.toNat else num * Nat.pow 10 (-k).toNat < den
  if below guess then guess else if below (guess + 1) then guess + 1 else guess + 2

/-- The quotient `num / den` in units of `10 ^ exponent`, as a quotient again. -/
def scale (num den : Nat) (exponent : Int) : Nat × Nat :=
  if 0 ≤ exponent then (num, den * Nat.pow 10 exponent.toNat)
  else (num * Nat.pow 10 (-exponent).toNat, den)

/-! ### The fewest digits -/

/-- The reals that round to a finite number: the ends of the interval as quotients over the common
denominator `den`, and whether the ends belong to it. -/
structure Interval where
  low : Nat
  high : Nat
  den : Nat
  closed : Bool

/-- The interval of the reals nearest to `mantissa * 2 ^ exponent`. Below a power of two the
neighbour is half as far away. -/
def interval (mantissa : Nat) (exponent : Int) : Interval :=
  let narrow : Bool := mantissa == Nat.pow 2 52 && Binary64.minExponent < exponent
  let low := 4 * mantissa - (if narrow then 1 else 2)
  let high := 4 * mantissa + 2
  let closed := mantissa % 2 == 0
  let shifted := exponent - 2
  if 0 ≤ shifted then ⟨low * Nat.pow 2 shifted.toNat, high * Nat.pow 2 shifted.toNat, 1, closed⟩
  else ⟨low, high, Nat.pow 2 (-shifted).toNat, closed⟩

/-- Does `digits * 10 ^ exponent` lie in the interval? -/
def Interval.holds (i : Interval) (digits : Nat) (exponent : Int) : Bool :=
  let (num, den) :=
    if 0 ≤ exponent then (digits * Nat.pow 10 exponent.toNat, 1)
    else (digits, Nat.pow 10 (-exponent).toNat)
  let left := i.low * den
  let middle := num * i.den
  let right := i.high * den
  if i.closed then left ≤ middle && middle ≤ right else left < middle && middle < right

/-- Looks for the first grid, from `count` digits on, with a point in the interval, and takes the
point nearest to the value. -/
def searchShortest (i : Interval) (num den : Nat) (point : Int) : Nat → Nat → Nat × Int
  | 0, count =>
    let (n, d) := scale num den (point - count)
    (Binary64.divNearest n d, point - count)
  | fuel + 1, count =>
    let exponent := point - count
    let (n, d) := scale num den exponent
    let below := n / d
    let above := below + 1
    let hitBelow := i.holds below exponent
    let hitAbove := i.holds above exponent
    match hitBelow, hitAbove with
    | true, true => (Binary64.divNearest n d, exponent)
    | true, false => (below, exponent)
    | false, true => (above, exponent)
    | false, false => searchShortest i num den point fuel (count + 1)

/-- The fewest digits that read back as the positive finite number. -/
def shortest (mantissa : Nat) (exponent : Int) : Digits :=
  let (num, den) := Binary64.ratio mantissa exponent
  let (found, place) := searchShortest (interval mantissa exponent) num den (decimalPoint num den) 17 1
  let text := natText found
  ⟨trimZeros text, place + text.length⟩

/-! ### Layouts -/

def zeros (n : Nat) : List Char := List.replicate n '0'

/-- The digits with a point in them, and a zero on either side where there is no digit. -/
def positional (d : Digits) : String :=
  let count : Int := d.digits.length
  let chars :=
    if d.point ≤ 0 then ['0', '.'] ++ zeros (-d.point).toNat ++ d.digits
    else if count ≤ d.point then d.digits ++ zeros (d.point - count).toNat ++ ['.', '0']
    else d.digits.take d.point.toNat ++ ['.'] ++ d.digits.drop d.point.toNat
  String.ofList chars

/-- A sign and at least two digits. -/
def exponentText (e : Int) : String :=
  let body := natString e.natAbs
  let padded := if body.length < 2 then "0" ++ body else body
  (if e < 0 then "-" else "+") ++ padded

/-- One digit before the point, and a power of ten. -/
def scientific (d : Digits) (mark : String) : String :=
  let head := String.ofList (d.digits.take 1)
  let tail := d.digits.drop 1
  let fraction := if tail.isEmpty then "" else "." ++ String.ofList tail
  head ++ fraction ++ mark ++ exponentText (d.point - 1)

end Decimal

namespace Binary64

open Decimal

def signText (negative : Bool) : String := if negative then "-" else ""

/-- The text that reads back: positional from `1e-04` to below `1e16`, else with a power of ten. -/
def text : Binary64 → String
  | .nan => "nan"
  | .infinite s => signText s ++ "inf"
  | .finite s m e =>
    if m = 0 then signText s ++ "0.0"
    else
      let d := shortest m e
      signText s ++ (if -4 < d.point && d.point ≤ 16 then positional d else scientific d "e")

/-- The magnitude of a finite number with a fixed count of places, a tie going to the even digit. -/
def magnitudeFixed (mantissa : Nat) (exponent : Int) (places : Nat) : String :=
  let (num, den) := ratio mantissa exponent
  let scaled := natText (divNearest (num * Nat.pow 10 places) den)
  let padded := zeros (places + 1 - scaled.length) ++ scaled
  let whole := padded.take (padded.length - places)
  let fraction := padded.drop (padded.length - places)
  String.ofList whole ++ (if places = 0 then "" else "." ++ String.ofList fraction)

/-- Fixed places, with a sign where the number is negative. -/
def fixed (x : Binary64) (places : Nat) : String :=
  match x with
  | .nan => "nan"
  | .infinite s => signText s ++ "inf"
  | .finite s m e => signText s ++ magnitudeFixed m e places

/-- A positive finite number rounded to `count` digits. -/
def roundedDigits (mantissa : Nat) (exponent : Int) (count : Nat) : Digits :=
  let (num, den) := ratio mantissa exponent
  let point := decimalPoint num den
  let (n, d) := scale num den (point - count)
  let text := natText (divNearest n d)
  ⟨text.take count, point + (text.length - count : Nat)⟩

/-- The number nearest to `x` rounded to `places` places; negative places round to tens. -/
def roundPlaces (x : Binary64) (places : Int) : Binary64 :=
  match x with
  | .finite s m e =>
    let (num, den) := ratio m e
    let (n, d) := scale num den (-places)
    ofDecimal s (divNearest n d) (-places)
  | other => other

end Binary64

end Stepwise
