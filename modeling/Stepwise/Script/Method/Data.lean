import Stepwise.Script.Method.Text
import Stepwise.Text.Utf8

/-!
The methods of lists, tuples, mappings, ranges, numbers and bytes.
-/

namespace Stepwise.Script.DataMethod

open Value (text list tuple dict int bool float bytes view)

/-! ### Sequences -/

/-- How many items equal a value. -/
def countItems (v : Value) : List Value → Checked Nat
  | [] => .ok 0
  | w :: rest => do
    let n ← countItems v rest
    return if ← Value.equalInside w v then n + 1 else n

/-- The first place of a value among the items, counted from `place`. -/
def indexOf (v : Value) (place : Nat) : List Value → Checked (Option Nat)
  | [] => .ok none
  | w :: rest => do
    if ← Value.equalInside w v then return some place else indexOf v (place + 1) rest

/-- A bound of a search for an item. -/
def searchBound (length : Nat) (v : Value) : Checked Nat :=
  match v.intOf? with
  | some n => .ok (max 0 (if n < 0 then n + length else n)).toNat
  | none => .error (.badCall "slice indices must be integers or have an __index__ method")

def index (xs : List Value) (absent : Value → Checked Fault) (args : List Value) :
    Checked Value := do
  let sought := args[0]?.getD Value.null
  let low ← match args[1]? with
    | some v => searchBound xs.length v
    | none => pure 0
  let high ← match args[2]? with
    | some v => searchBound xs.length v
    | none => pure xs.length
  match ← indexOf sought low ((xs.take high).drop low) with
  | some i => return int i
  | none => throw (← absent sought)

def notInList (v : Value) : Checked Fault := do
  return .notInSequence ((← v.written) ++ " is not in list")

def notInTuple (_ : Value) : Checked Fault := .ok (.notInSequence "tuple.index(x): x not in tuple")

def notInRange (v : Value) : Checked Fault := do
  return .notInSequence ((← v.written) ++ " is not in range")

/-! ### Mappings -/

/-- A mapping that gives one value to every key. -/
def fromKeys (keys : List Value) (v : Value) : Checked (List (Value × Value)) :=
  keys.foldlM (fun entries key => do
    Value.checkKey key
    return Value.put entries key v) []

def mapping? (entries : List (Value × Value)) (name : String) (args : Arguments) :
    Option (Checked Value) :=
  let label := "dict." ++ name
  match name with
  | "get" => some do
    let values ← args.between label name 1 2
    let key := values[0]?.getD Value.null
    Value.checkKey key
    return (Value.lookup? entries key).getD (values[1]?.getD .null)
  | "keys" => some do
    args.none label
    return view .keys entries
  | "values" => some do
    args.none label
    return view .values entries
  | "items" => some do
    args.none label
    return view .items entries
  | "copy" => some do
    args.none label
    return dict entries
  | "fromkeys" => some do
    let values ← args.between label name 1 2
    let keys ← (values[0]?.getD Value.null).allItems
    return dict (← fromKeys keys (values[1]?.getD .null))
  | _ => none

/-! ### Numbers -/

/-- The count of binary digits. -/
def bitLength (n : Nat) : Nat := if n = 0 then 0 else Nat.log2 n + 1

def bitCount (n : Nat) : Nat := ((Nat.toDigits 2 n).filter (· == '1')).length

/-- The bytes of a number, the least first. -/
def leastFirst : Nat → Nat → List UInt8
  | 0, _ => []
  | count + 1, n => (n % 256).toUInt8 :: leastFirst count (n / 256)

def toBytes (n : Int) (args : Arguments) : Checked Value := do
  let signed ← match args.named.find? (·.1 == "signed") with
    | some (_, v) => v.truthy
    | none => pure false
  let rest : Arguments := { args with named := args.named.filter (·.1 != "signed") }
  let values ← rest.free "to_bytes" [("length", int 1), ("byteorder", text "big")]
  let length ← TextMethod.width (values[0]?.getD Value.null)
  let order := values[1]?.getD Value.null
  let little ← match order.textOf? with
    | none =>
      throw (.badCall ("to_bytes() argument 'byteorder' must be str, not " ++ order.typeName))
    | some "little" => pure true
    | some "big" => pure false
    | some _ => throw (.badArgument "byteorder must be either 'little' or 'big'")
  if n < 0 ∧ !signed then throw (.badArgument "can't convert negative int to unsigned")
  let bits : Nat := 8 * length
  let fits : Bool :=
    if signed then -(Nat.pow 2 (bits - 1) : Int) ≤ n ∧ n < (Nat.pow 2 (bits - 1) : Int)
    else n < (Nat.pow 2 bits : Int)
  if !fits then throw (.badArgument "int too big to convert")
  let magnitude := (n % (Nat.pow 2 bits : Int)).toNat
  let digits := leastFirst length magnitude
  return bytes (if little then digits else digits.reverse)

def integer? (n : Int) (name : String) (args : Arguments) : Option (Checked Value) :=
  let label := "int." ++ name
  match name with
  | "bit_length" => some do
    args.none label
    return int (bitLength n.natAbs)
  | "bit_count" => some do
    args.none label
    return int (bitCount n.natAbs)
  | "conjugate" => some do
    args.none label
    return int n
  | "as_integer_ratio" => some do
    args.none label
    return tuple [int n, int 1]
  | "to_bytes" => some (toBytes n args)
  | _ => none

/-- The base-16 form of a finite number: a leading digit, thirteen places and a power of two. -/
def hexText : Binary64 → String
  | .nan => "nan"
  | .infinite s => if s then "-inf" else "inf"
  | .finite s m e =>
    let sign := if s then "-" else ""
    if m = 0 then sign ++ "0x0.0p+0"
    else
      let lead := if m < Nat.pow 2 52 then 0 else 1
      let power := if m < Nat.pow 2 52 then -1022 else e + 52
      sign ++ "0x" ++ toString lead ++ "." ++ String.ofList (Text.hexDigits (m % Nat.pow 2 52) 13) ++
        "p" ++ (if power < 0 then "-" else "+") ++ toString power.natAbs

def ratio (x : Binary64) : Checked Value :=
  match x with
  | .nan => .error .nanToRatio
  | .infinite _ => .error .infiniteToRatio
  | .finite s m e =>
    let (num, den) := Binary64.ratio m e
    let common := Nat.gcd num den
    let top : Int := (num / common : Nat)
    .ok (tuple [int (if s then -top else top), int ((den / common : Nat) : Int)])

def real? (x : Binary64) (name : String) (args : Arguments) : Option (Checked Value) :=
  let label := "float." ++ name
  match name with
  | "is_integer" => some do
    args.none label
    return bool x.isInteger
  | "conjugate" => some do
    args.none label
    return float x
  | "hex" => some do
    args.none label
    return text (hexText x)
  | "as_integer_ratio" => some do
    args.none label
    ratio x
  | _ => none

/-! ### Calls -/

/-- The text that UTF-8 bytes write. -/
def decode (data : List UInt8) : Checked Value :=
  match Text.Utf8.text? data with
  | some s => .ok (text s)
  | none => .error (.badEncoding "'utf-8' codec can't decode bytes: invalid data")

/-- Calls a method of a value that is no text. -/
def call? (receiver : Value) (name : String) (args : Arguments) : Option (Checked Value) :=
  match receiver with
  | list xs =>
    match name with
    | "count" => some do return int (← countItems (← args.one "list.count") xs)
    | "index" => some do index xs notInList (← args.between "list.index" "index" 1 3)
    | "copy" => some do
      args.none "list.copy"
      return list xs
    | _ => none
  | tuple xs => sequence xs name args
  | .group key members => sequence [key, list members] name args
  | .range a b c =>
    match name with
    | "count" => some do
      return int (← countItems (← args.one "range.count") (Value.rangeItems a b c))
    | "index" => some do
      index (Value.rangeItems a b c) notInRange [← args.one "range.index"]
    | _ => none
  | dict entries => mapping? entries name args
  | view part entries =>
    if name == "isdisjoint" then some do
      let others ← (← args.one (receiver.typeName ++ ".isdisjoint")).allItems
      let shared ← others.anyM fun v => Value.memberOf v (Value.viewItems part entries)
      return bool !shared
    else none
  | int n => integer? n name args
  | .bool b => integer? (if b then 1 else 0) name args
  | float x => real? x name args
  | bytes data =>
    match name with
    | "decode" => some (decode data)
    | "hex" => some (.ok (text (String.ofList (data.flatMap fun b => Text.hexDigits b.toNat 2))))
    | _ => none
  | _ => none
where
  sequence (xs : List Value) (name : String) (args : Arguments) : Option (Checked Value) :=
    match name with
    | "count" => some do return int (← countItems (← args.one "tuple.count") xs)
    | "index" => some do index xs notInTuple (← args.between "tuple.index" "index" 1 3)
    | _ => none

end Stepwise.Script.DataMethod
