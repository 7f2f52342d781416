/-!
Binary floating-point numbers of 64 bits, as exact data: a finite number is a sign, a mantissa
and a power of two, and every operation is carried out on integers and rounded once.
-/

namespace Stepwise

/-- A binary64 number. A finite one has the magnitude `mantissa * 2 ^ exponent`; its mantissa lies
below `2 ^ 53`, and its exponent is the least possible one that keeps the mantissa whole. -/
inductive Binary64 where
  | nan
  | infinite (negative : Bool)
  | finite (negative : Bool) (mantissa : Nat) (exponent : Int)
  deriving DecidableEq, Repr, Inhabited

namespace Binary64

/-- The least exponent of a finite number. -/
def minExponent : Int := -1074

/-- The greatest exponent of a finite number. -/
def maxExponent : Int := 971

def zero : Binary64 := .finite false 0 minExponent

/-! ### Rounding -/

/-- The integer nearest to `num / den`; a tie goes to the even one. -/
def divNearest (num den : Nat) : Nat :=
  let quotient := num / den
  let twice := 2 * (num % den)
  if twice < den then quotient
  else if den < twice then quotient + 1
  else if quotient % 2 = 0 then quotient else quotient + 1

/-- The greatest `k` with `2 ^ k ≤ num / den`, for positive arguments. -/
def floorLog2 (num den : Nat) : Int :=
  let guess : Int := (Nat.log2 num : Int) - (Nat.log2 den : Int)
  let reached :=
    if 0 ≤ guess then den * Nat.pow 2 guess.toNat ≤ num else den ≤ num * Nat.pow 2 (-guess).toNat
  if reached then guess else guess - 1

/-- The number nearest to `num / den`, a tie going to the even mantissa. -/
def ofRatio (negative : Bool) (num den : Nat) : Binary64 :=
  if num = 0 then .finite negative 0 minExponent
  else
    let exponent := max (floorLog2 num den - 52) minExponent
    let mantissa :=
      if 0 ≤ exponent then divNearest num (den * Nat.pow 2 exponent.toNat)
      else divNearest (num * Nat.pow 2 (-exponent).toNat) den
    let carried := mantissa = Nat.pow 2 53
    let mantissa' := if carried then Nat.pow 2 52 else mantissa
    let exponent' := if carried then exponent + 1 else exponent
    if maxExponent < exponent' then .infinite negative
    else .finite negative mantissa' exponent'

/-- The number nearest to `magnitude * 2 ^ exponent`. -/
def ofScaled (negative : Bool) (magnitude : Nat) (exponent : Int) : Binary64 :=
  if 0 ≤ exponent then ofRatio negative (magnitude * Nat.pow 2 exponent.toNat) 1
  else ofRatio negative magnitude (Nat.pow 2 (-exponent).toNat)

/-- The number nearest to an integer. -/
def ofInt (n : Int) : Binary64 := ofRatio (n < 0) n.natAbs 1

/-- The number nearest to an integer, when the integer is in range. -/
def ofInt? (n : Int) : Option Binary64 :=
  match ofInt n with
  | .finite s m e => some (.finite s m e)
  | _ => none

/-- The number nearest to `digits * 10 ^ exponent`. Exponents far outside the range are settled
without computing the power. -/
def ofDecimal (negative : Bool) (digits : Nat) (exponent : Int) : Binary64 :=
  let width : Int := (Nat.toDigits 10 digits).length
  if digits = 0 then .finite negative 0 minExponent
  else if 400 < width + exponent then .infinite negative
  else if width + exponent < -400 then .finite negative 0 minExponent
  else if 0 ≤ exponent then ofRatio negative (digits * Nat.pow 10 exponent.toNat) 1
  else ofRatio negative digits (Nat.pow 10 (-exponent).toNat)

/-! ### Classes and parts -/

def isNan : Binary64 → Bool
  | .nan => true
  | _ => false

def isFinite : Binary64 → Bool
  | .finite .. => true
  | _ => false

/-- Zero of either sign. -/
def isZero : Binary64 → Bool
  | .finite _ m _ => m == 0
  | _ => false

def isNegative : Binary64 → Bool
  | .nan => false
  | .infinite s => s
  | .finite s _ _ => s

def neg : Binary64 → Binary64
  | .nan => .nan
  | .infinite s => .infinite (!s)
  | .finite s m e => .finite (!s) m e

def abs : Binary64 → Binary64
  | .nan => .nan
  | .infinite _ => .infinite false
  | .finite _ m e => .finite false m e

/-- The magnitude as a quotient of integers. -/
def ratio (mantissa : Nat) (exponent : Int) : Nat × Nat :=
  if 0 ≤ exponent then (mantissa * Nat.pow 2 exponent.toNat, 1)
  else (mantissa, Nat.pow 2 (-exponent).toNat)

/-- The value in units of `2 ^ minExponent`, for a finite number. -/
def units (negative : Bool) (mantissa : Nat) (exponent : Int) : Int :=
  let magnitude : Int := mantissa * Nat.pow 2 (exponent - minExponent).toNat
  if negative then -magnitude else magnitude

/-! ### Order -/

/-- Equality of values: zeros of both signs are equal, and nothing equals a NaN. -/
def eq : Binary64 → Binary64 → Bool
  | .finite s m e, .finite s' m' e' => units s m e == units s' m' e'
  | .infinite s, .infinite s' => s == s'
  | _, _ => false

def lt : Binary64 → Binary64 → Bool
  | .nan, _ => false
  | _, .nan => false
  | .finite s m e, .finite s' m' e' => units s m e < units s' m' e'
  | .infinite s, .infinite s' => s && !s'
  | .infinite s, .finite .. => s
  | .finite .., .infinite s' => !s'

def le (x y : Binary64) : Bool := lt x y || eq x y

/-- Compares a finite or infinite number with an integer, exactly. -/
def compareInt? (x : Binary64) (n : Int) : Option Ordering :=
  match x with
  | .nan => none
  | .infinite s => some (if s then .lt else .gt)
  | .finite s m e =>
    let (num, den) := ratio m e
    let signed : Int := if s then -(num : Int) else num
    some (compare signed (n * den))

/-! ### Arithmetic -/

/-- The sum of two numbers in a common scale, rounded once. An exact zero is positive unless both
operands are negative zeros. -/
def add : Binary64 → Binary64 → Binary64
  | .nan, _ => .nan
  | _, .nan => .nan
  | .infinite s, .infinite s' => if s == s' then .infinite s else .nan
  | .infinite s, .finite .. => .infinite s
  | .finite .., .infinite s' => .infinite s'
  | .finite s m e, .finite s' m' e' =>
    let low := min e e'
    let a : Int := m * Nat.pow 2 (e - low).toNat
    let b : Int := m' * Nat.pow 2 (e' - low).toNat
    let sum := (if s then -a else a) + (if s' then -b else b)
    if sum = 0 then .finite (s && s') 0 minExponent
    else ofScaled (sum < 0) sum.natAbs low

def sub (x y : Binary64) : Binary64 := add x (neg y)

def mul : Binary64 → Binary64 → Binary64
  | .nan, _ => .nan
  | _, .nan => .nan
  | .infinite s, .infinite s' => .infinite (s != s')
  | .infinite s, .finite s' m _ => if m = 0 then .nan else .infinite (s != s')
  | .finite s m _, .infinite s' => if m = 0 then .nan else .infinite (s != s')
  | .finite s m e, .finite s' m' e' => ofScaled (s != s') (m * m') (e + e')

/-- The quotient, rounded once. The divisor is never zero: callers refuse that case first. -/
def div : Binary64 → Binary64 → Binary64
  | .nan, _ => .nan
  | _, .nan => .nan
  | .infinite _, .infinite _ => .nan
  | .infinite s, .finite s' _ _ => .infinite (s != s')
  | .finite s _ _, .infinite s' => .finite (s != s') 0 minExponent
  | .finite s m e, .finite s' m' e' =>
    let (num, den) := ratio m e
    let (num', den') := ratio m' e'
    if num' = 0 then (if num = 0 then .nan else .infinite (s != s'))
    else ofRatio (s != s') (num * den') (den * num')

/-- The remainder of the division that rounds toward zero; it is exact and has the sign of `x`. -/
def rem : Binary64 → Binary64 → Binary64
  | .nan, _ => .nan
  | _, .nan => .nan
  | .infinite _, _ => .nan
  | .finite s m e, .infinite _ => .finite s m e
  | .finite s m e, .finite _ m' e' =>
    if m' = 0 then .nan
    else
      let low := min e e'
      ofScaled s ((m * Nat.pow 2 (e - low).toNat) % (m' * Nat.pow 2 (e' - low).toNat)) low

/-! ### Whole numbers -/

/-- The integer part of a finite number. -/
def truncate (negative : Bool) (mantissa : Nat) (exponent : Int) : Int :=
  let (num, den) := ratio mantissa exponent
  let whole : Int := (num / den : Nat)
  if negative then -whole else whole

/-- The integer part, when there is one. -/
def toInt? : Binary64 → Option Int
  | .finite s m e => some (truncate s m e)
  | _ => none

/-- The greatest integer not above a finite number. -/
def floorInt (negative : Bool) (mantissa : Nat) (exponent : Int) : Int :=
  let (num, den) := ratio mantissa exponent
  let signed : Int := if negative then -(num : Int) else num
  signed.fdiv den

/-- True of the finite numbers without a fractional part. -/
def isInteger : Binary64 → Bool
  | .finite _ m e =>
    let (num, den) := ratio m e
    num % den == 0
  | _ => false

/-- The greatest whole number not above `x`; a zero keeps its sign. -/
def floor : Binary64 → Binary64
  | .finite s m e =>
    let whole := floorInt s m e
    if whole = 0 then .finite s 0 minExponent else ofInt whole
  | x => x

/-- The least whole number not below `x`; a result of zero keeps the sign of `x`. -/
def ceil (x : Binary64) : Binary64 := neg (floor (neg x))

/-- The whole number nearest to `x`, a tie going to the even one. -/
def roundEven : Binary64 → Option Int
  | .finite s m e =>
    let (num, den) := ratio m e
    let whole : Int := (divNearest num den : Nat)
    some (if s then -whole else whole)
  | _ => none

/-- Floored quotient and remainder: the remainder has the sign of the divisor, and the quotient is
a whole number. The divisor is never zero: callers refuse that case first. -/
def divMod (x y : Binary64) : Binary64 × Binary64 :=
  let remainder := rem x y
  let quotient := div (sub x remainder) y
  let adjust := !remainder.isZero && (lt y zero != lt remainder zero)
  let remainder' :=
    if remainder.isZero then (if y.isNegative then neg zero else zero)
    else if adjust then add remainder y else remainder
  let quotient' := if adjust then sub quotient (ofInt 1) else quotient
  let whole :=
    if quotient'.isZero then
      (if (div x y).isNegative then neg zero else zero)
    else
      let low := floor quotient'
      if lt (ofRatio false 1 2) (sub quotient' low) then add low (ofInt 1) else low
  (whole, remainder')

/-! ### Words -/

/-- The 64-bit word of the interchange format. -/
def toBits : Binary64 → UInt64
  | .nan => 0x7ff8000000000000
  | .infinite s => if s then 0xfff0000000000000 else 0x7ff0000000000000
  | .finite s m e =>
    let body : Nat :=
      if m < Nat.pow 2 52 then m else (e + 1075).toNat * Nat.pow 2 52 + (m - Nat.pow 2 52)
    (body + (if s then Nat.pow 2 63 else 0)).toUInt64

def ofBits (bits : UInt64) : Binary64 :=
  let word : Nat := bits.toNat
  let negative : Bool := Nat.pow 2 63 ≤ word
  let field : Nat := word / Nat.pow 2 52 % Nat.pow 2 11
  let fraction : Nat := word % Nat.pow 2 52
  if field = 2047 then (if fraction = 0 then .infinite negative else .nan)
  else if field = 0 then .finite negative fraction minExponent
  else .finite negative (Nat.pow 2 52 + fraction) ((field : Int) - 1075)

/-- A power with a real exponent, as the platform computes it. -/
def pow (x y : Binary64) : Binary64 :=
  ofBits (Float.pow (Float.ofBits x.toBits) (Float.ofBits y.toBits)).toBits

end Binary64

end Stepwise
