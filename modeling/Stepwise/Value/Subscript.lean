import Stepwise.Value.Arithmetic
import Stepwise.Value.Attribute

/-!
Subscripts: an item at a place or under a key, a stretch of a sequence, and the choice between
items and attributes that scripts make.
-/

namespace Stepwise.Value

/-! ### Stretches -/

/-- A bound of a stretch: an integer, or nothing. -/
def sliceBound? : Value → Checked (Option Int)
  | null => .ok none
  | v =>
    match v.intOf? with
    | some n => .ok (some n)
    | none => .error .sliceBound

/-- A place counted from either end, held between the limits. -/
def clampPlace (length low high n : Int) : Int :=
  let place := if n < 0 then n + length else n
  max low (min high place)

/-- The places of a stretch, in order: the first place, the bound, the step and their count. -/
structure Stretch where
  first : Int
  bound : Int
  step : Int
  count : Nat

/-- The stretch that bounds cut out of a sequence of some length. A step of zero is refused first. -/
def Stretch.of (length : Nat) (start stop step : Value) : Checked Stretch := do
  let by' := (← sliceBound? step).getD 1
  if by' = 0 then throw .sliceStepZero
  let from' ← sliceBound? start
  let to' ← sliceBound? stop
  let n : Int := length
  if 0 < by' then
    let a := (from'.map (clampPlace n 0 n)).getD 0
    let b := (to'.map (clampPlace n 0 n)).getD n
    return ⟨a, b, by', rangeLength a b by'⟩
  else
    let a := (from'.map (clampPlace n (-1) (n - 1))).getD (n - 1)
    let b := (to'.map (clampPlace n (-1) (n - 1))).getD (-1)
    return ⟨a, b, by', rangeLength a b by'⟩

/-- The items on a stretch. -/
def Stretch.pick {α : Type} (s : Stretch) (xs : List α) : List α :=
  let places := xs.toArray
  (List.range s.count).filterMap fun (i : Nat) => places[(s.first + s.step * (i : Int)).toNat]?

/-- A stretch of a sequence. -/
def slice (v start stop step : Value) : Checked Value := do
  match v with
  | text s => return text (String.ofList ((← stretch s.length).pick s.toList))
  | markup s => return markup (String.ofList ((← stretch s.length).pick s.toList))
  | list xs => return list ((← stretch xs.length).pick xs)
  | tuple xs => return tuple ((← stretch xs.length).pick xs)
  | group key members => return tuple ((← stretch 2).pick [key, list members])
  | bytes data => return bytes ((← stretch data.length).pick data)
  | range a b c =>
    let s ← stretch (rangeLength a b c)
    return range (a + s.first * c) (a + s.bound * c) (s.step * c)
  | dict _ => throw (.unhashable "slice")
  | undefined a => throw a.fault
  | v => throw (.notSubscriptable v.typeName)
where
  stretch (length : Nat) : Checked Stretch := Stretch.of length start stop step

/-! ### Items -/

/-- The item at a place, counted from the end where the place is negative. -/
def place? {α : Type} (xs : List α) (n : Int) : Option α :=
  let place := if n < 0 then n + xs.length else n
  if place < 0 then none else xs[place.toNat]?

/-- An item under a key; `none` where there is no such item or no items at all. -/
def subscript? (v key : Value) : Checked (Option Value) :=
  match v with
  | undefined a => .error a.fault
  | dict entries =>
    match key with
    | undefined a => if a.strict then .error a.fault else .ok none
    | _ =>
      match checkKey key with
      | .error (.unhashable _) => .ok none
      | .error fault => .error fault
      | .ok () => .ok (lookup? entries key)
  | constructor "dict" => .ok (some (foreign "GenericAlias"))
  | v =>
    match key.intOf? with
    | none => .ok none
    | some n =>
      match v with
      | text s => .ok ((place? s.toList n).map fun c => text (String.singleton c))
      | markup s => .ok ((place? s.toList n).map fun c => markup (String.singleton c))
      | list xs => .ok (place? xs n)
      | tuple xs => .ok (place? xs n)
      | group k members => .ok (place? [k, list members] n)
      | bytes data => .ok ((place? data n).map fun b => int b.toNat)
      | range a b c =>
        let length : Int := rangeLength a b c
        let place := if n < 0 then n + length else n
        .ok (if 0 ≤ place ∧ place < length then some (int (a + place * c)) else none)
      | _ => .ok none

/-! ### Items and attributes -/

def absence (text : String) : Value := undefined ⟨.absent text, true⟩

/-- What is left where a value has no such attribute or item. -/
def missing (v key : Value) : Value :=
  match key with
  | text name | markup name =>
    absence (Text.quoted v.ownerText ++ " has no attribute " ++
      (match key with
        | markup _ => "Markup(" ++ Text.quoted name ++ ")"
        | _ => Text.quoted name))
  | _ =>
    match key.written with
    | .ok shown => absence (v.ownerText ++ " has no element " ++ shown)
    | .error fault => undefined ⟨fault, true⟩

/-- What is left where an attribute may not be used. -/
def forbidden (v : Value) (name : String) : Value :=
  undefined ⟨.unsafeAttribute ("access to attribute " ++ Text.quoted name ++ " of " ++
    Text.quoted v.typeName ++ " object is unsafe."), true⟩

def allowedAttribute (v : Value) (name : String) (found : Value) : Value :=
  match found with
  | formatter _ _ => found
  | _ => if v.attributeAllowed name then found else v.forbidden name

/-- Looks up `v.name`: the attribute, else the item of that name. -/
def getAttribute (v : Value) (name : String) : Checked Value :=
  match v with
  | undefined a =>
    if commonReserved.contains name then .ok (v.forbidden name) else .error a.fault
  | _ =>
    match v.attribute? name with
    | some found => .ok (v.allowedAttribute name found)
    | none => do
      match ← v.subscript? (text name) with
      | some item => .ok item
      | none => .ok (v.missing (text name))

/-- Looks up `v[key]`: the item, else the attribute of that name. -/
def getItem (v key : Value) : Checked Value := do
  match ← v.subscript? key with
  | some item => return item
  | none =>
    match key.textOf? with
    | some name =>
      match v.attribute? name with
      | some found => return v.allowedAttribute name found
      | none => return v.missing key
    | none => return v.missing key

end Stepwise.Value
