import Stepwise.Script.Operation

/-!
Constant expressions: what can be settled before a script runs, and the check of a script's filters,
tests and literals that precedes a run.
-/

namespace Stepwise.Script

/-- Why an expression has no constant value: it depends on the run (`none`), or settling it is a
fault. -/
abbrev Settled (α : Type) := Except (Option Fault) α

namespace Settled

/-- Leaves what faults to the run. -/
def ofChecked {α : Type} (c : Checked α) : Settled α :=
  match c with
  | .ok v => .ok v
  | .error _ => .error none

/-- Keeps a fault. -/
def ofFault {α : Type} (c : Checked α) : Settled α :=
  match c with
  | .ok v => .ok v
  | .error fault => .error (some fault)

def unsettled {α : Type} : Settled α := .error none

end Settled

open Settled

/-- The item of a constant; a stretch of what has no stretches is absent. -/
def constantSlice (v start stop step : Value) : Checked Value :=
  match v.slice start stop step with
  | .ok w => .ok w
  | .error fault =>
    match fault.family with
    | .type => do
      let bounds ← [start, stop, step].mapM Value.written
      return Value.absence (v.ownerText ++ " has no element slice" ++ Value.tupleText bounds)
    | _ => .error fault

/-- The constant value of an expression. -/
def Expr.constant : Expr → Settled Value
  | .literal v => .ok v
  | .name _ => unsettled
  | .tuple items => do return .tuple (← constants items)
  | .list items => do return .list (← constants items)
  | .dict entries => do ofFault (dictOf (← pairs entries))
  | .unary op e => do ofChecked (op.apply (← e.constant))
  | .binary op left right => do ofChecked (op.apply (← left.constant) (← right.constant))
  | .concat parts => do ofFault (joinTexts (← constants parts))
  | .compare first rest => do
    let v ← first.constant
    return .bool (← chain v rest)
  | .not e => do return .bool !(← ofChecked (← e.constant).truthy)
  | .and left right => do
    let v ← left.constant
    if ← ofFault v.truthy then right.constant else return v
  | .or left right => do
    let v ← left.constant
    if ← ofFault v.truthy then return v else right.constant
  | .choice asked yes no _ => do
    if ← ofFault (← asked.constant).truthy then yes.constant
    else
      match no with
      | some e => e.constant
      | none => unsettled
  | .attribute e label => do ofChecked ((← e.constant).getAttribute label)
  | .item e key => do
    let v ← e.constant
    ofChecked (v.getItem (← key.constant))
  | .slice e start stop step => do
    let v ← e.constant
    ofChecked (constantSlice v (← bound start) (← bound stop) (← bound step))
  | .bounds _ _ _ => unsettled
  | .call _ _ _ _ _ => unsettled
  | .filter e label args keywords spread spreadNamed => do
    if !Filter.isKnown label || Filter.needsContext label then unsettled
    let values ← constants args
    let named ← fields keywords
    let star ← optional spread
    let stars ← optional spreadNamed
    let v ← e.constant
    let all ← ofChecked (collectArguments "" values named star stars)
    ofChecked (Filter.apply label v all.named all.positional)
  | .test e label args keywords spread spreadNamed => do
    let values ← constants args
    let named ← fields keywords
    let star ← optional spread
    let stars ← optional spreadNamed
    let v ← e.constant
    let all ← ofChecked (collectArguments "" values named star stars)
    match Test.call? label v all with
    | some asked => return .bool (← ofChecked asked)
    | none => unsettled
where
  constants : List Expr → Settled (List Value)
    | [] => .ok []
    | e :: rest => do
      let v ← e.constant
      return v :: (← constants rest)
  pairs : List (Expr × Expr) → Settled (List (Value × Value))
    | [] => .ok []
    | (k, e) :: rest => do
      let key ← k.constant
      let v ← e.constant
      return (key, v) :: (← pairs rest)
  fields : List (String × Expr) → Settled Fields
    | [] => .ok []
    | (k, e) :: rest => do
      let v ← e.constant
      return (k, v) :: (← fields rest)
  chain (v : Value) : List (ComparisonOp × Expr) → Settled Bool
    | [] => .ok true
    | (op, e) :: rest => do
      let w ← e.constant
      if ← ofChecked (op.apply v w) then chain w rest else return false
  bound : Option Expr → Settled Value
    | none => .ok .null
    | some e => e.constant
  optional : Option Expr → Settled (Option Value)
    | none => .ok none
    | some e => do return some (← e.constant)

/-- Can a constant value be written into a script and read back as the same value? -/
def isWritable : Value → Bool
  | .null | .bool _ | .int _ | .float _ | .text _ | .markup _ | .range .. => true
  | .foreign t => t == "complex"
  | .list items => all items
  | .tuple items => all items
  | .dict entries => allEntries entries
  | _ => false
where
  all : List Value → Bool
    | [] => true
    | v :: rest => isWritable v && all rest
  allEntries : List (Value × Value) → Bool
    | [] => true
    | (k, v) :: rest => isWritable k && isWritable v && allEntries rest

/-- Replaces an expression by its constant value, where it has one that can be written. -/
def Expr.settle (e : Expr) : Checked Expr :=
  match e.constant with
  | .ok v => .ok (if isWritable v then .literal v else e)
  | .error none => .ok e
  | .error (some fault) => .error fault

/-- Settles all parts of an expression, the innermost first. -/
def Expr.fold : Expr → Checked Expr
  | .literal v => .ok (.literal v)
  | .name s => .ok (.name s)
  | .tuple items => do (Expr.tuple (← foldAll items)).settle
  | .list items => do (Expr.list (← foldAll items)).settle
  | .dict entries => do (Expr.dict (← foldPairs entries)).settle
  | .unary op e => do (Expr.unary op (← e.fold)).settle
  | .binary op left right => do
    let l ← left.fold
    let r ← right.fold
    (Expr.binary op l r).settle
  | .concat parts => do (Expr.concat (← foldAll parts)).settle
  | .compare first rest => do
    let f ← first.fold
    (Expr.compare f (← foldChain rest)).settle
  | .not e => do (Expr.not (← e.fold)).settle
  | .and left right => do
    let l ← left.fold
    let r ← right.fold
    (Expr.and l r).settle
  | .or left right => do
    let l ← left.fold
    let r ← right.fold
    (Expr.or l r).settle
  | .choice asked yes no line => do
    let t ← asked.fold
    let y ← yes.fold
    (Expr.choice t y (← foldOptional no) line).settle
  | .attribute e label => do (Expr.attribute (← e.fold) label).settle
  | .item e key => do
    let f ← e.fold
    (Expr.item f (← key.fold)).settle
  | .slice e start stop step => do
    let f ← e.fold
    let a ← foldOptional start
    let b ← foldOptional stop
    (Expr.slice f a b (← foldOptional step)).settle
  | .bounds start stop step => do
    let a ← foldOptional start
    let b ← foldOptional stop
    return .bounds a b (← foldOptional step)
  | .call e args keywords spread spreadNamed => do
    let f ← e.fold
    let as ← foldAll args
    let ks ← foldFields keywords
    let s ← foldOptional spread
    return .call f as ks s (← foldOptional spreadNamed)
  | .filter e label args keywords spread spreadNamed => do
    let f ← e.fold
    let as ← foldAll args
    let ks ← foldFields keywords
    let s ← foldOptional spread
    (Expr.filter f label as ks s (← foldOptional spreadNamed)).settle
  | .test e label args keywords spread spreadNamed => do
    let f ← e.fold
    let as ← foldAll args
    let ks ← foldFields keywords
    let s ← foldOptional spread
    (Expr.test f label as ks s (← foldOptional spreadNamed)).settle
where
  foldAll : List Expr → Checked (List Expr)
    | [] => .ok []
    | e :: rest => do
      let f ← e.fold
      return f :: (← foldAll rest)
  foldPairs : List (Expr × Expr) → Checked (List (Expr × Expr))
    | [] => .ok []
    | (k, e) :: rest => do
      let key ← k.fold
      let f ← e.fold
      return (key, f) :: (← foldPairs rest)
  foldFields : List (String × Expr) → Checked (List (String × Expr))
    | [] => .ok []
    | (k, e) :: rest => do
      let f ← e.fold
      return (k, f) :: (← foldFields rest)
  foldChain : List (ComparisonOp × Expr) → Checked (List (ComparisonOp × Expr))
    | [] => .ok []
    | (op, e) :: rest => do
      let f ← e.fold
      return (op, f) :: (← foldChain rest)
  foldOptional : Option Expr → Checked (Option Expr)
    | none => .ok none
    | some e => do return some (← e.fold)

/-- Checks filters, tests and literals. Inside a choice an unknown name is left to the run. -/
def Expr.check (soft : Bool) : Expr → Checked Unit
  | .literal v => do let _ ← v.written
  | .name _ => .ok ()
  | .tuple items => checkAll soft items
  | .list items => checkAll soft items
  | .dict entries => checkPairs soft entries
  | .unary _ e => e.check soft
  | .binary _ left right => do
    left.check soft
    right.check soft
  | .concat parts => checkAll soft parts
  | .compare first rest => do
    first.check soft
    checkChain soft rest
  | .not e => e.check soft
  | .and left right => do
    left.check soft
    right.check soft
  | .or left right => do
    left.check soft
    right.check soft
  | .choice asked yes no _ => do
    yes.check true
    asked.check true
    checkOptional true no
  | .attribute e _ => e.check soft
  | .item e key => do
    e.check soft
    key.check soft
  | .slice e start stop step => do
    e.check soft
    checkOptional soft start
    checkOptional soft stop
    checkOptional soft step
  | .bounds start stop step => do
    checkOptional soft start
    checkOptional soft stop
    checkOptional soft step
  | .call e args keywords spread spreadNamed => do
    e.check soft
    checkAll soft args
    checkFields soft keywords
    checkOptional soft spread
    checkOptional soft spreadNamed
  | .filter e label args keywords spread spreadNamed => do
    if !soft && !Filter.isKnown label then throw (.unknownFilter label false)
    e.check soft
    checkAll soft args
    checkFields soft keywords
    checkOptional soft spread
    checkOptional soft spreadNamed
  | .test e label args keywords spread spreadNamed => do
    if !soft && !Test.names.contains label then throw (.unknownTest label false)
    e.check soft
    checkAll soft args
    checkFields soft keywords
    checkOptional soft spread
    checkOptional soft spreadNamed
where
  checkAll (soft : Bool) : List Expr → Checked Unit
    | [] => .ok ()
    | e :: rest => do
      e.check soft
      checkAll soft rest
  checkPairs (soft : Bool) : List (Expr × Expr) → Checked Unit
    | [] => .ok ()
    | (k, e) :: rest => do
      k.check soft
      e.check soft
      checkPairs soft rest
  checkFields (soft : Bool) : List (String × Expr) → Checked Unit
    | [] => .ok ()
    | (_, e) :: rest => do
      e.check soft
      checkFields soft rest
  checkChain (soft : Bool) : List (ComparisonOp × Expr) → Checked Unit
    | [] => .ok ()
    | (_, e) :: rest => do
      e.check soft
      checkChain soft rest
  checkOptional (soft : Bool) : Option Expr → Checked Unit
    | none => .ok ()
    | some e => e.check soft

end Stepwise.Script
