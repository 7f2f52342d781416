import Stepwise.Value.Basic

/-!
Equality and order of values. Numbers are compared by value whatever their kind, texts by code
points, lists and tuples item by item, mappings without regard to order.
-/

namespace Stepwise

/-- A number: an integer, or a binary64 number. -/
inductive Numeric where
  | int (n : Int)
  | float (x : Binary64)
  deriving DecidableEq, Repr, Inhabited

namespace Numeric

/-- Exact comparison; nothing is comparable with a NaN. -/
def compare? : Numeric → Numeric → Option Ordering
  | int a, int b => some (compare a b)
  | int a, float y => (y.compareInt? a).map Ordering.swap
  | float x, int b => x.compareInt? b
  | float x, float y =>
    if x.isNan || y.isNan then none
    else some (if x.lt y then .lt else if y.lt x then .gt else .eq)

end Numeric

/-- The four orders. -/
inductive OrderTest where
  | lt
  | le
  | gt
  | ge
  deriving DecidableEq, Repr, Inhabited

namespace OrderTest

def sign : OrderTest → String
  | lt => "<"
  | le => "<="
  | gt => ">"
  | ge => ">="

def accepts : OrderTest → Ordering → Bool
  | lt, o => o == .lt
  | le, o => o != .gt
  | gt, o => o == .gt
  | ge, o => o != .lt

end OrderTest

namespace Value

def numeric? : Value → Option Numeric
  | int n => some (.int n)
  | bool b => some (.int (if b then 1 else 0))
  | float x => some (.float x)
  | _ => none

def compareText (a b : String) : Ordering := compareOfLessAndEq a b

/-! ### Equality -/

/-- Equality of numbers and texts, whatever their kind. -/
def sameScalar? (v w : Value) : Option Bool :=
  match v.numeric?, w.numeric? with
  | some a, some b => some (a.compare? b == some .eq)
  | _, _ =>
    match v.textOf?, w.textOf? with
    | some s, some t => some (s == t)
    | _, _ => none

/-- Are two values the same key of a mapping? A NaN is the same key as itself. -/
def sameKey : Value → Value → Bool
  | null, null => true
  | float .nan, float .nan => true
  | tuple items, w =>
    match w.tupleOf? with
    | some others => sameKeys items others
    | none => false
  | range a b c, range a' b' c' => rangeItemsKey a b c == rangeItemsKey a' b' c'
  | bytes a, bytes b => a == b
  | method r n, method r' n' => n == n' && sameKey r r'
  | routine n, routine n' => n == n'
  | constructor n, constructor n' => n == n'
  | v, w => (sameScalar? v w).getD false
where
  sameKeys : List Value → List Value → Bool
    | [], [] => true
    | v :: rest, w :: others => sameKey v w && sameKeys rest others
    | _, _ => false
  rangeItemsKey (a b c : Int) : Nat × Int × Int :=
    let n := rangeLength a b c
    (n, if n = 0 then 0 else a, if n ≤ 1 then 0 else c)

/-- The value filed under a key. -/
def lookup? (entries : List (Value × Value)) (key : Value) : Option Value :=
  (entries.find? fun e => sameKey e.1 key).map (·.2)

/-- The value filed under a text key. -/
def lookupText? (entries : List (Value × Value)) (key : String) : Option Value :=
  lookup? entries (.text key)

/-- Files a value under a key; a key that is there already keeps its place and its spelling. -/
def put (entries : List (Value × Value)) (key value : Value) : List (Value × Value) :=
  if entries.any fun e => sameKey e.1 key then
    entries.map fun e => if sameKey e.1 key then (e.1, value) else e
  else entries ++ [(key, value)]

/-- The fault of a strict absence on either side of an equality; on the right it comes first only
against a lenient one. -/
def absentFault? : Value → Value → Option Fault
  | undefined a, undefined b =>
    if a.strict then some a.fault else if b.strict then some b.fault else none
  | undefined a, _ => if a.strict then some a.fault else none
  | _, undefined b => if b.strict then some b.fault else none
  | _, _ => none

/-- Equality as the scripts see it. Comparing with a strict absence is a fault. -/
def equal : Value → Value → Checked Bool
  | list items, list others =>
    if items.length != others.length then .ok false else equalAll items others
  | tuple items, w =>
    match w with
    | tuple others => equalAll items others
    | group key members => equalAll items [key, list members]
    | undefined b => if b.strict then .error b.fault else .ok false
    | _ => .ok false
  | group key members, w =>
    match w.tupleOf? with
    | some [k, list others] => do
      if ← equalItem key k then
        if members.length != others.length then .ok false else equalAll members others
      else .ok false
    | _ =>
      match absentFault? (group key members) w with
      | some fault => .error fault
      | none => .ok false
  | dict entries, dict others =>
    if entries.length != others.length then .ok false else equalEntries entries others
  | view .keys entries, view .keys others =>
    .ok (entries.length == others.length && entries.all fun e => others.any fun o => sameKey e.1 o.1)
  | view .items entries, view .items others =>
    if entries.length != others.length then .ok false else equalEntries entries others
  | undefined a, undefined b =>
    match absentFault? (undefined a) (undefined b) with
    | some fault => .error fault
    | none => .ok true
  | v, w =>
    match absentFault? v w with
    | some fault => .error fault
    | none => .ok (sameKey v w && !isNanPair v w)
where
  isNanPair : Value → Value → Bool
    | float .nan, float .nan => true
    | _, _ => false
  /-- Inside containers a NaN equals itself, as any value does. -/
  equalItem (v w : Value) : Checked Bool :=
    if isNanPair v w then .ok true else equal v w
  equalAll : List Value → List Value → Checked Bool
    | [], [] => .ok true
    | v :: rest, w :: others => do
      if ← equalItem v w then equalAll rest others else .ok false
    | _, _ => .ok false
  equalEntries : List (Value × Value) → List (Value × Value) → Checked Bool
    | [], _ => .ok true
    | (k, v) :: rest, others =>
      match lookup? others k with
      | none => .ok false
      | some w => do
        if ← equalItem v w then equalEntries rest others else .ok false

/-- Equality of an item with a sought value, inside a container. -/
def equalInside (v w : Value) : Checked Bool := equal.equalItem v w

/-- Is a value among the items? -/
def memberOf (v : Value) : List Value → Checked Bool
  | [] => .ok false
  | w :: rest => do if ← equalInside w v then .ok true else memberOf v rest

/-! ### Order -/

/-- An order test between two values. Lists and tuples are decided by their first differing items,
or by their lengths. -/
def ordered (test : OrderTest) : Value → Value → Checked Bool
  | list items, list others => orderedAll test items others
  | tuple items, w =>
    match w.tupleOf? with
    | some others => orderedAll test items others
    | none => unordered test (tuple items) w
  | group key members, w =>
    match w.tupleOf? with
    | some (k :: others) => do
      if ← equalInside key k then
        match others with
        | [list inner] => do
          if ← equal (list members) (list inner) then .ok (test.accepts .eq)
          else orderedAll test members inner
        | _ => .ok (test.accepts (compare 1 others.length))
      else ordered test key k
    | _ => unordered test (group key members) w
  | bytes a, bytes b =>
    .ok (test.accepts (compareLists (a.map UInt8.toNat) (b.map UInt8.toNat)))
  | v, w =>
    match v.numeric?, w.numeric? with
    | some a, some b => .ok (((a.compare? b).map test.accepts).getD false)
    | _, _ =>
      match v.textOf?, w.textOf? with
      | some s, some t => .ok (test.accepts (compareText s t))
      | _, _ => unordered test v w
where
  compareLists : List Nat → List Nat → Ordering
    | [], [] => .eq
    | [], _ => .lt
    | _, [] => .gt
    | a :: as, b :: bs => if a = b then compareLists as bs else compare a b
  unordered (test : OrderTest) (v w : Value) : Checked Bool :=
    match v, w with
    | undefined a, _ => .error a.fault
    | _, undefined b => .error b.fault
    | _, _ => .error (.ordering test.sign v.typeName w.typeName)
  orderedAll (test : OrderTest) : List Value → List Value → Checked Bool
    | [], others => .ok (test.accepts (compare 0 others.length))
    | _ :: _, [] => .ok (test.accepts .gt)
    | v :: rest, w :: others => do
      if ← equalInside v w then orderedAll test rest others else ordered test v w

end Value

end Stepwise
