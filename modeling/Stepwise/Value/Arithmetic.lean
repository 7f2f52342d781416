import Stepwise.Value.Convert
import Stepwise.Value.Escaped

/-!
The arithmetic of values: numbers of both kinds, joined and repeated sequences. Integers are exact;
where a binary64 number takes part, the other operand is converted first. An absence as an operand
is a fault, and the left operand's comes first.
-/

namespace Stepwise

namespace Value

/-- The fault of an absence among two operands. -/
def operandFault? : Value → Value → Option Fault
  | undefined a, _ => some a.fault
  | _, undefined b => some b.fault
  | _, _ => none

def operandsFault (operator : String) (v w : Value) : Fault :=
  .operands operator v.typeName w.typeName

/-- Both operands as integers, or both as binary64 numbers. -/
inductive NumberPair where
  | ints (a b : Int)
  | floats (x y : Binary64)

def Numeric.toFloat : Numeric → Checked Binary64
  | .int n => floatOfInt n
  | .float x => .ok x

def numberPair? (v w : Value) : Option (Checked NumberPair) :=
  match v.numeric?, w.numeric? with
  | some (.int a), some (.int b) => some (.ok (.ints a b))
  | some a, some b => some do
    let x ← Numeric.toFloat a
    let y ← Numeric.toFloat b
    .ok (.floats x y)
  | _, _ => none

/-- Applies an operation on numbers; anything else is refused under the operator's sign. -/
def onNumbers (operator : String) (ints : Int → Int → Checked Value)
    (floats : Binary64 → Binary64 → Checked Value) (v w : Value) : Checked Value :=
  match operandFault? v w with
  | some fault => .error fault
  | none =>
    match numberPair? v w with
    | some pair => do
      match ← pair with
      | .ints a b => ints a b
      | .floats x y => floats x y
    | none => .error (operandsFault operator v w)

/-! ### Sums -/

def addSequences : Value → Value → Checked Value
  | text s, text t => .ok (text (s ++ t))
  | markup s, w => if w.isText then do .ok (markup (s ++ (← w.escaped)))
    else .error (operandsFault "+" (markup s) w)
  | v, markup t => match v with
    | text s => .ok (markup (Text.escapeMarkup s ++ t))
    | _ => other v (markup t)
  | v, w => other v w
where
  other : Value → Value → Checked Value
    | text _, w => .error (.concatenation "str" w.typeName)
    | list xs, list ys => .ok (list (xs ++ ys))
    | list _, w => .error (.concatenation "list" w.typeName)
    | v, w =>
      match v.tupleOf?, w.tupleOf? with
      | some xs, some ys => .ok (tuple (xs ++ ys))
      | some _, none => .error (.concatenation "tuple" w.typeName)
      | none, _ =>
        match v, w with
        | bytes a, bytes b => .ok (bytes (a ++ b))
        | bytes _, w => .error (.badCall ("can't concat " ++ w.typeName ++ " to bytes"))
        | v, w => .error (operandsFault "+" v w)

def add (v w : Value) : Checked Value :=
  match operandFault? v w, numberPair? v w with
  | none, none => addSequences v w
  | _, _ => onNumbers "+" (fun a b => .ok (int (a + b))) (fun x y => .ok (float (x.add y))) v w

def sub (v w : Value) : Checked Value :=
  match v, w with
  | view .keys _, w | view .items _, w => do
    let _ ← w.allItems
    .ok (foreign "set")
  | v, view .keys _ | v, view .items _ => do
    let _ ← v.allItems
    .ok (foreign "set")
  | v, w =>
    onNumbers "-" (fun a b => .ok (int (a - b))) (fun x y => .ok (float (x.sub y))) v w

/-! ### Products -/

/-- The most items that a repeated sequence may have. -/
def maxRepeated : Nat := Nat.pow 2 32

def timesOf (count : Int) (length : Nat) : Checked Nat :=
  if Nat.pow 2 63 ≤ count ∨ count < -(Nat.pow 2 63) then .error .intTooLargeForIndex
  else if maxRepeated < count.toNat * length then .error .repetitionTooLarge
  else .ok count.toNat

def repeatText (s : String) (count : Int) : Checked String := do
  let n ← timesOf count s.length
  .ok (String.join (List.replicate n s))

def repeatItems {α : Type} (xs : List α) (count : Int) : Checked (List α) := do
  let n ← timesOf count xs.length
  .ok (List.replicate n xs).flatten

/-- A sequence repeated; `none` for values that are no sequences. -/
def repeated? (v : Value) (count : Value) : Option (Checked Value) :=
  match v with
  | text s => some do .ok (text (← repeatText s (← whole)))
  | list xs => some do .ok (list (← repeatItems xs (← whole)))
  | tuple xs => some do .ok (tuple (← repeatItems xs (← whole)))
  | group key members => some do .ok (tuple (← repeatItems [key, list members] (← whole)))
  | bytes data => some do .ok (bytes (← repeatItems data (← whole)))
  | _ => none
where
  whole : Checked Int :=
    match count.intOf? with
    | some n => .ok n
    | none => .error (.repetition count.typeName)

/-- Repeated markup stays markup. -/
def repeatedMarkup (s : String) (count : Value) : Checked Value :=
  match count.intOf? with
  | some n => do .ok (markup (← repeatText s n))
  | none => .error (.notAnInteger count.typeName)

def mulSequences (v w : Value) : Checked Value :=
  match v, w with
  | markup s, w => repeatedMarkup s w
  | v, markup t => repeatedMarkup t v
  | v, w =>
    match repeated? v w with
    | some result => result
    | none => (repeated? w v).getD (.error (operandsFault "*" v w))

def mul (v w : Value) : Checked Value :=
  match operandFault? v w, numberPair? v w with
  | none, none => mulSequences v w
  | _, _ => onNumbers "*" (fun a b => .ok (int (a * b))) (fun x y => .ok (float (x.mul y))) v w

/-! ### Quotients -/

/-- The quotient of two integers, rounded once. A zero has a sign as well, that of the divisor. -/
def divInts (a b : Int) : Checked Value :=
  if b = 0 then .error .divisionByZero
  else
    match Binary64.ofRatio ((a < 0) != (b < 0)) a.natAbs b.natAbs with
    | .infinite _ => .error .quotientTooLarge
    | x => .ok (float x)

def div : Value → Value → Checked Value :=
  onNumbers "/" divInts fun x y =>
    if y.isZero then .error .floatDivisionByZero else .ok (float (x.div y))

def floorDiv : Value → Value → Checked Value :=
  onNumbers "//" (fun a b => if b = 0 then .error .integerDivisionByZero else .ok (int (a.fdiv b)))
    fun x y => if y.isZero then .error .floatFloorDivisionByZero else .ok (float (x.divMod y).1)

/-- The remainder, with the sign of the divisor. -/
def modNumbers : Value → Value → Checked Value :=
  onNumbers "%" (fun a b => if b = 0 then .error .integerModuloByZero else .ok (int (a.fmod b)))
    fun x y => if y.isZero then .error .floatModuloByZero else .ok (float (x.divMod y).2)

/-! ### Powers -/

/-- A power of binary64 numbers. A negative base with a broken exponent leaves the real numbers. -/
def powFloats (x y : Binary64) : Checked Value :=
  if x.isZero && y.isNegative && !y.isZero then .error .zeroToNegativePower
  else if x.isNegative && !x.isZero && x.isFinite && y.isFinite && !y.isInteger then
    .ok (foreign "complex")
  else
    match x.pow y with
    | .infinite s =>
      if x.isFinite && y.isFinite then .error .powerTooLarge else .ok (float (.infinite s))
    | r => .ok (float r)

def powInts (a b : Int) : Checked Value :=
  if 0 ≤ b then
    if a.natAbs ≤ 1 ∨ b.toNat * (Nat.log2 a.natAbs + 1) ≤ maxRepeated then .ok (int (Int.pow a b.toNat))
    else .error .repetitionTooLarge
  else do powFloats (← floatOfInt a) (← floatOfInt b)

def pow : Value → Value → Checked Value := onNumbers "** or pow()" powInts powFloats

/-! ### Signs -/

def signed (sign : String) (ints : Int → Int) (floats : Binary64 → Binary64) : Value → Checked Value
  | undefined a => .error a.fault
  | int n => .ok (int (ints n))
  | bool b => .ok (int (ints (if b then 1 else 0)))
  | float x => .ok (float (floats x))
  | v => .error (.unaryOperand sign v.typeName)

def negate : Value → Checked Value := signed "-" (fun n => -n) Binary64.neg

def keep : Value → Checked Value := signed "+" id id

/-- The magnitude of a number. -/
def magnitude : Value → Checked Value
  | int n => .ok (int n.natAbs)
  | bool b => .ok (int (if b then 1 else 0))
  | float x => .ok (float x.abs)
  | v => .error (.absOperand v.typeName)

/-! ### Membership -/

/-- Is a value in a container? A text holds texts, a mapping holds its keys. -/
def contains (container v : Value) : Checked Bool :=
  match container with
  | text s | markup s =>
    match v.textOf? with
    | some t => .ok (t.isEmpty || ((s.splitOn t).length != 1))
    | none => .error (.textMembership v.typeName)
  | dict entries | view .keys entries => do
    checkKey v
    .ok (entries.any fun e => sameKey e.1 v)
  | view .items entries =>
    match v.tupleOf? with
    | some [k, w] => do
      checkKey k
      match lookup? entries k with
      | some found => equalInside found w
      | none => .ok false
    | _ => .ok false
  | bytes data =>
    match v with
    | bytes part => .ok (isInfix part data)
    | v =>
      match v.intOf? with
      | some n =>
        if 0 ≤ n ∧ n < 256 then .ok (data.any fun b => (b.toNat : Int) == n)
        else .error (.badArgument "byte must be in range(0, 256)")
      | none => .error (.badCall ("a bytes-like object is required, not '" ++ v.typeName ++ "'"))
  | stream _ xs failure => do
    if ← memberOf v xs then .ok true
    else
      match failure with
      | some fault => .error fault
      | none => .ok false
  | undefined a => if a.strict then .error a.fault else .ok false
  | container =>
    match container.items with
    | .ok (xs, _) => memberOf v xs
    | .error _ => .error (.noMembership container.typeName)
where
  isInfix (part : List UInt8) : List UInt8 → Bool
    | [] => part.isEmpty
    | b :: rest => part.isPrefixOf (b :: rest) || isInfix part rest

end Value

end Stepwise
