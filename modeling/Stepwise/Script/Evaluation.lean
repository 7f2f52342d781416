import Stepwise.Script.Constant
import Stepwise.Script.Expr.Grammar

/-!
Evaluation of scripts: a script is one expression, read, checked and then evaluated with named
values in scope.
-/

namespace Stepwise.Script

/-- The values that every script can name. A scope may hide them. -/
def globals : Fields :=
  Library.names.map (fun n => (n, Value.routine n)) ++
    [("range", .routine "range"), ("dict", .constructor "dict"), ("lipsum", .routine "lipsum"),
      ("cycler", .constructor "cycler"), ("joiner", .constructor "joiner"),
      ("namespace", .constructor "namespace")]

/-- The letters of `result` and the code points of their other forms: raised, lowered, full-width and
mathematical ones. -/
def letterForms : List (Char × List Nat) :=
  [
    ('r', [0x2b3, 0x1d63, 0xff52, 0x1d42b, 0x1d45f, 0x1d493, 0x1d4c7, 0x1d4fb, 0x1d52f, 0x1d563,
      0x1d597, 0x1d5cb, 0x1d5ff, 0x1d633, 0x1d667, 0x1d69b]),
    ('e', [0x1d49, 0x2091, 0x212f, 0x2147, 0xff45, 0x1d41e, 0x1d452, 0x1d486, 0x1d4ee, 0x1d522,
      0x1d556, 0x1d58a, 0x1d5be, 0x1d5f2, 0x1d626, 0x1d65a, 0x1d68e]),
    ('s', [0x17f, 0x2e2, 0x209b, 0xff53, 0x1d42c, 0x1d460, 0x1d494, 0x1d4c8, 0x1d4fc, 0x1d530, 0x1d564,
      0x1d598, 0x1d5cc, 0x1d600, 0x1d634, 0x1d668, 0x1d69c]),
    ('u', [0x1d58, 0x1d64, 0xff55, 0x1d42e, 0x1d462, 0x1d496, 0x1d4ca, 0x1d4fe, 0x1d532, 0x1d566,
      0x1d59a, 0x1d5ce, 0x1d602, 0x1d636, 0x1d66a, 0x1d69e]),
    ('l', [0x2e1, 0x2097, 0x2113, 0x217c, 0xff4c, 0x1d425, 0x1d459, 0x1d48d, 0x1d4c1, 0x1d4f5, 0x1d529,
      0x1d55d, 0x1d591, 0x1d5c5, 0x1d5f9, 0x1d62d, 0x1d661, 0x1d695]),
    ('t', [0x1d57, 0x209c, 0xff54, 0x1d42d, 0x1d461, 0x1d495, 0x1d4c9, 0x1d4fd, 0x1d531, 0x1d565,
      0x1d599, 0x1d5cd, 0x1d601, 0x1d635, 0x1d669, 0x1d69d])
  ]

/-- A letter of `result` in its plain form; any other character stays as it is. -/
def plainForm (c : Char) : Char :=
  ((letterForms.find? fun f => f.2.contains c.toNat).map (·.1)).getD c

/-- Is a name `result` but for the forms of its letters? -/
def isResultForm (name : String) : Bool :=
  name != "result" && name.toList.map plainForm == "result".toList

/-- The value of a name; a name that nothing has is absent. -/
def resolve (scope : Fields) (name : String) : Value :=
  if name == "self" then .foreign "TemplateReference"
  else
    match scope.find? (·.1 == name) with
    | some (_, v) => v
    | none =>
      match globals.find? (·.1 == name) with
      | some (_, v) => v
      | none => Value.absence (Text.quoted name ++ " is undefined")

/-- The name under which a number that is no decimal number appears in a script, where a literal
holds one. -/
def unboundIn? : Value → Option String
  | .float .nan => some "nan"
  | .float (.infinite _) => some "inf"
  | .list items => first items
  | .tuple items => first items
  | .dict entries => firstEntry entries
  | _ => none
where
  first : List Value → Option String
    | [] => none
    | v :: rest => (unboundIn? v).or (first rest)
  firstEntry : List (Value × Value) → Option String
    | [] => none
    | (k, v) :: rest => ((unboundIn? k).or (unboundIn? v)).or (firstEntry rest)

def literal (v : Value) : Checked Value :=
  match unboundIn? v with
  | some name => .error (.unboundName name)
  | none => .ok v

/-- Is a literal a negative number? -/
def isNegativeLiteral : Expr → Bool
  | .literal (.int n) => n < 0
  | .literal (.float x) => x.isNegative
  | _ => false

def isLiteral : Expr → Bool
  | .literal _ => true
  | _ => false

/-- Do two expressions reach the same place by the same names? -/
def samePlace : Expr → Expr → Bool
  | .name a, .name b => a == b
  | .attribute e a, .attribute f b => a == b && samePlace e f
  | .item e (.literal k), .item f (.literal l) => Value.sameKey k l && samePlace e f
  | _, _ => false

/-- A power. The sign of a negative literal base is taken last. -/
def powerOf (left right : Expr) (v w : Value) : Checked Value :=
  if isNegativeLiteral left && !isLiteral right then do
    Value.negate (← Value.pow (← Value.negate v) w)
  else Value.pow v w

/-- What a choice without a second expression gives where its test fails. -/
def nothingChosen (line : Nat) : Value :=
  .undefined ⟨.absent ("the inline if-expression on line " ++ toString line ++
    " evaluated to false and no else section was defined."), false⟩

/-- The value of an expression in a scope. -/
def Expr.eval (scope : Fields) : Expr → Checked Value
  | .literal v => Script.literal v
  | .name s => .ok (resolve scope s)
  | .tuple items => do return .tuple (← evalAll scope items)
  | .list items => do return .list (← evalAll scope items)
  | .dict entries => do dictOf (← evalPairs scope entries)
  | .unary op e => do op.apply (← e.eval scope)
  | .binary op left right => do
    let v ← left.eval scope
    let w ← right.eval scope
    match op with
    | .pow => powerOf left right v w
    | _ => op.apply v w
  | .concat parts => do joinTexts (← evalAll scope parts)
  | .compare first rest => do
    let v ← first.eval scope
    return .bool (← chainOf v (evalChain scope rest))
  | .not e => do return .bool !(← (← e.eval scope).truthy)
  | .and left right => do
    let v ← left.eval scope
    if ← v.truthy then right.eval scope else return v
  | .or left right => do
    let v ← left.eval scope
    if ← v.truthy then return v else right.eval scope
  | .choice asked yes no line => do
    if ← (← asked.eval scope).truthy then yes.eval scope
    else
      match no with
      | some e => e.eval scope
      | none => return nothingChosen line
  | .attribute e label => do (← e.eval scope).getAttribute label
  | .item e key => do
    let v ← e.eval scope
    v.getItem (← key.eval scope)
  | .slice e start stop step => do
    let v ← e.eval scope
    let a ← evalBound scope start
    let b ← evalBound scope stop
    v.slice a b (← evalBound scope step)
  | .bounds _ _ _ => .error (.scriptForm "invalid syntax (<template>, line 14)")
  | .call e args keywords spread spreadNamed => do
    let callee ← e.eval scope
    let values ← evalAll scope args
    let star ← evalOptional scope spread
    let more ← spreadItems star
    let named ← evalFields scope keywords
    let stars ← evalOptional scope spreadNamed
    Call.call callee ⟨values ++ more, ← spreadFields callerText named stars⟩
  | .filter e label args keywords spread spreadNamed => do
    let v ← e.eval scope
    let values ← evalAll scope args
    let star ← evalOptional scope spread
    let more ← spreadItems star
    let named ← evalFields scope keywords
    let stars ← evalOptional scope spreadNamed
    let named ← spreadFields ("jinja2.filters.do_" ++ label ++ "()") named stars
    if !Filter.isKnown label then throw (.unknownFilter label true)
    Filter.apply label v named (values ++ more)
  | .test e label args keywords spread spreadNamed => do
    let v ← e.eval scope
    let values ← evalAll scope args
    let star ← evalOptional scope spread
    let more ← spreadItems star
    let named ← evalFields scope keywords
    let stars ← evalOptional scope spreadNamed
    let named ← spreadFields ("jinja2.tests.test_" ++ label ++ "()") named stars
    let same := label == "sameas" && args.any (samePlace e)
    match Test.call? label v ⟨values ++ more, named⟩ with
    | some asked => return .bool ((← asked) || same)
    | none => throw (.unknownTest label true)
where
  evalAll (scope : Fields) : List Expr → Checked (List Value)
    | [] => .ok []
    | e :: rest => do
      let v ← e.eval scope
      return v :: (← evalAll scope rest)
  evalPairs (scope : Fields) : List (Expr × Expr) → Checked (List (Value × Value))
    | [] => .ok []
    | (k, e) :: rest => do
      let key ← k.eval scope
      let v ← e.eval scope
      return (key, v) :: (← evalPairs scope rest)
  evalFields (scope : Fields) : List (String × Expr) → Checked Fields
    | [] => .ok []
    | (k, e) :: rest => do
      let v ← e.eval scope
      return (k, v) :: (← evalFields scope rest)
  evalChain (scope : Fields) : List (ComparisonOp × Expr) → List (ComparisonOp × Checked Value)
    | [] => []
    | (op, e) :: rest => (op, e.eval scope) :: evalChain scope rest
  evalBound (scope : Fields) : Option Expr → Checked Value
    | none => .ok .null
    | some e => e.eval scope
  evalOptional (scope : Fields) : Option Expr → Checked (Option Value)
    | none => .ok none
    | some e => do return some (← e.eval scope)

/-- Reads a script, settles its constants and checks it. -/
def prepare (source : String) : Checked Expr := do
  let e ← Expr.parse source
  let folded ← e.fold
  folded.check false
  return folded

/-- The value of a script with named values in scope. -/
def run (source : String) (scope : Fields) : Checked Value := do
  let e ← prepare source
  if scope.any (·.1 == "self") then
    throw (.badCall "TemplateExpression.__call__() got multiple values for argument 'self'")
  e.eval scope

end Stepwise.Script
