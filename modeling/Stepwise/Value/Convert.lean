import Stepwise.Number.Reading
import Stepwise.Value.Written
import Stepwise.Value.Compare

/-!
Conversions of values: to truth values, integers and binary64 numbers; and the items, the length
and the sharing of mappings.
-/

namespace Stepwise

namespace Value

/-- Does a value count as true? Empty and zero values do not, and a strict absence cannot be asked. -/
def truthy : Value → Checked Bool
  | null => .ok false
  | bool b => .ok b
  | int n => .ok (n != 0)
  | float x => .ok !x.isZero
  | text s => .ok (s != "")
  | markup s => .ok (s != "")
  | list items => .ok !items.isEmpty
  | tuple items => .ok !items.isEmpty
  | dict entries => .ok !entries.isEmpty
  | view _ entries => .ok !entries.isEmpty
  | bytes data => .ok !data.isEmpty
  | range a b c => .ok (rangeLength a b c != 0)
  | undefined a => if a.strict then .error a.fault else .ok false
  | _ => .ok true

/-- Truth of plain data. -/
def isTrue (v : Value) : Bool :=
  match v.truthy with
  | .ok b => b
  | .error _ => false

def length : Value → Checked Nat
  | text s => .ok s.length
  | markup s => .ok s.length
  | list items => .ok items.length
  | tuple items => .ok items.length
  | dict entries => .ok entries.length
  | view _ entries => .ok entries.length
  | bytes data => .ok data.length
  | range a b c => .ok (rangeLength a b c)
  | group .. => .ok 2
  | undefined a => if a.strict then .error a.fault else .ok 0
  | v => .error (.noLength v.typeName)

/-- The items of a value, and the fault after which no more are handed out. -/
def items : Value → Checked (List Value × Option Fault)
  | text s => .ok (s.toList.map fun c => text (String.singleton c), none)
  | markup s => .ok (s.toList.map fun c => text (String.singleton c), none)
  | list xs => .ok (xs, none)
  | tuple xs => .ok (xs, none)
  | dict entries => .ok (entries.map (·.1), none)
  | view part entries => .ok (viewItems part entries, none)
  | bytes data => .ok (data.map fun b => int b.toNat, none)
  | range a b c => .ok (rangeItems a b c, none)
  | group key members => .ok ([key, list members], none)
  | stream _ xs failure => .ok (xs, failure)
  | undefined a => if a.strict then .error a.fault else .ok ([], none)
  | v => .error (.notIterable v.typeName)

/-- All items of a value; a fault among them is a fault of the whole. -/
def allItems (v : Value) : Checked (List Value) := do
  match ← v.items with
  | (xs, none) => .ok xs
  | (_, some fault) => .error fault

/-- The text that messages quote a malformed integer with; long texts are cut. -/
def quotedLiteral (s : String) : String := String.ofList ((Text.quoted s).toList.take 200)

def readInt (base : Nat) (s : String) : Checked Int :=
  match Reading.int? base s with
  | .ok n => .ok n
  | .error .malformed => .error (.intLiteral base (quotedLiteral s))
  | .error (.tooLong digits) => .error (.digitLimitReading digits)

def readFloat (s : String) : Checked Binary64 :=
  match Reading.float? s with
  | some x => .ok x
  | none => .error (.floatLiteral (Text.quoted s))

/-- The integer part of a number, or the integer that a text writes. -/
def toInt : Value → Checked Int
  | int n => .ok n
  | bool b => .ok (if b then 1 else 0)
  | float .nan => .error .nanToInteger
  | float (.infinite _) => .error .infiniteToInteger
  | float (.finite s m e) => .ok (Binary64.truncate s m e)
  | text s => readInt 10 s
  | markup s => readInt 10 s
  | bytes data => readInt 10 (String.ofList (data.map fun b => Char.ofNat b.toNat))
  | undefined a => .error a.fault
  | v => .error (.numberOperand "int" v.typeName)

def floatOfInt (n : Int) : Checked Binary64 :=
  match Binary64.ofInt? n with
  | some x => .ok x
  | none => .error .intTooLargeForFloat

/-- The binary64 number nearest to a number, or nearest to the one that a text writes. -/
def toFloat : Value → Checked Binary64
  | int n => floatOfInt n
  | bool b => .ok (Binary64.ofInt (if b then 1 else 0))
  | float x => .ok x
  | text s => readFloat s
  | markup s => readFloat s
  | bytes data => readFloat (String.ofList (data.map fun b => Char.ofNat b.toNat))
  | undefined a => .error a.fault
  | v => .error (.numberOperand "float" v.typeName)

/-- Can a value be a key of a mapping? -/
def checkKey : Value → Checked Unit
  | list _ => .error (.unhashable "list")
  | dict _ => .error (.unhashable "dict")
  | view .keys _ => .error (.unhashable "dict_keys")
  | view .items _ => .error (.unhashable "dict_items")
  | tuple xs => checkKeys xs
  | group key _ => do
    checkKey key
    .error (.unhashable "list")
  | undefined a => if a.strict then .error a.fault else .ok ()
  | _ => .ok ()
where
  checkKeys : List Value → Checked Unit
    | [] => .ok ()
    | v :: rest => do
      checkKey v
      checkKeys rest

/-! ### Mappings -/

/-- One entry of a mapping, from a sequence of two. -/
def entry (index : Nat) (v : Value) : Checked (Value × Value) := do
  match v.items with
  | .error (.notIterable _) => throw (.updateSequence index)
  | .error fault => throw fault
  | .ok (_, some fault) => throw fault
  | .ok ([k, w], none) => return (k, w)
  | .ok (items, none) => throw (.updateElement index items.length)

/-- Adds entries made from sequences of two, counted from an index. -/
def entriesFrom (index : Nat) : List Value → Entries → Checked Entries
  | [], acc => .ok acc
  | v :: rest, acc => do
    let (k, w) ← entry index v
    checkKey k
    entriesFrom (index + 1) rest (put acc k w)

/-- The entries of a mapping, or those that pairs make. -/
def toEntries : Value → Checked Entries
  | dict entries => .ok entries
  | undefined a => .error a.fault
  | v => do entriesFrom 0 (← v.allItems) []

end Value

end Stepwise
