import Stepwise.Script.Method.Text
import Stepwise.Value.Arithmetic

/-!
Filters on numbers: conversions that fall back on a default, and rounding.
-/

namespace Stepwise.Script.NumberFilter

open Value (int float bool text)

/-- Is a fault one of type or of value? -/
def isMisfit (fault : Fault) : Bool :=
  fault.family == .type || fault.family == .value

/-- The integer that a value stands for in a base, before anything else is tried. -/
def directInt (v base : Value) : Checked Int :=
  match v.textOf? with
  | none => v.toInt
  | some s =>
    match base.intOf? with
    | none => .error (.notAnInteger base.typeName)
    | some b =>
      if b = 0 ∨ (2 ≤ b ∧ b ≤ 36) then Value.readInt b.toNat s else .error .intBase

/-- The integer that a value stands for; a number with places is cut, anything else gives the
default. -/
def toInt (v default base : Value) : Checked Value :=
  match directInt v base with
  | .ok n => .ok (int n)
  | .error fault =>
    if isMisfit fault then
      match (do (float (← v.toFloat)).toInt : Checked Int) with
      | .ok n => .ok (int n)
      | .error fault =>
        if isMisfit fault || fault.family == .overflow then .ok default else .error fault
    else .error fault

def toFloat (v default : Value) : Checked Value :=
  match v.toFloat with
  | .ok x => .ok (float x)
  | .error fault => if isMisfit fault then .ok default else .error fault

/-- An integer rounded to a negative count of places, a tie going to the even one. -/
def roundTens (n : Int) (places : Nat) : Int :=
  let unit : Int := Nat.pow 10 places
  let low := n.fdiv unit
  let rest := n.fmod unit
  let up : Bool := unit < 2 * rest || (2 * rest == unit && low % 2 == 1)
  (if up then low + 1 else low) * unit

/-- Places beyond which rounding changes nothing, and before which nothing is left. -/
def placeLimit : Int := 400

/-- Rounds a number: to an integer without places, else to that many. -/
def roundCommon (v places : Value) : Checked Value :=
  match v with
  | int n => whole n
  | .bool b => whole (if b then 1 else 0)
  | float x =>
    match places with
    | .null =>
      match x with
      | .nan => .error .nanToInteger
      | .infinite _ => .error .infiniteToInteger
      | x => .ok (int ((x.roundEven).getD 0))
    | p =>
      match p.intOf? with
      | none => .error (.notAnInteger p.typeName)
      | some p =>
        if placeLimit < p then .ok (float x)
        else if p < -placeLimit then
          .ok (float (if x.isFinite then (if x.isNegative then Binary64.zero.neg else Binary64.zero) else x))
        else
          match x.roundPlaces p with
          | .infinite s => if x.isFinite then .error .roundingTooLarge else .ok (float (.infinite s))
          | r => .ok (float r)
  | v => .error (.noRounding v.typeName)
where
  whole (n : Int) : Checked Value :=
    match places with
    | .null => .ok (int n)
    | p =>
      match p.intOf? with
      | none => .error (.notAnInteger p.typeName)
      | some p =>
        if 0 ≤ p then .ok (int n)
        else if placeLimit * 20 < -p then .ok (int 0)
        else .ok (int (roundTens n (-p).toNat))

/-- The whole number next to a number, above or below it. -/
def stepTo (up : Bool) (v : Value) : Checked Value :=
  match v with
  | int n => .ok (int n)
  | .bool b => .ok (int (if b then 1 else 0))
  | float .nan => .error .nanToInteger
  | float (.infinite _) => .error .infiniteToInteger
  | float x =>
    let r := if up then x.ceil else x.floor
    .ok (int ((r.toInt?).getD 0))
  | .undefined a => .error a.fault
  | v => .error (.badCall ("must be real number, not " ++ v.typeName))

def methods : List Value := [text "common", text "ceil", text "floor"]

def round (v places method : Value) : Checked Value := do
  Value.checkKey method
  if !(methods.any fun m => Value.sameKey m method) then
    throw (.filterArgument "method must be common, ceil or floor")
  if Value.sameKey method (text "common") then roundCommon v places
  else
    let scaled ← Value.mul v (← Value.pow (int 10) places)
    let stepped ← stepTo (Value.sameKey method (text "ceil")) scaled
    Value.div stepped (← Value.pow (int 10) places)

end Stepwise.Script.NumberFilter
