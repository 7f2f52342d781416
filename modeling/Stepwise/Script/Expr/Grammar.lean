import Stepwise.Script.Token
import Stepwise.Script.Expr

/-!
The grammar of expressions, from the loosest to the tightest form: choices, `or`, `and`, `not`,
comparisons, sums, joined texts, products, powers, signs, and then subscripts, calls, filters and
tests after a primary expression. Powers are read from the left, and a sign belongs to what follows
it directly.
-/

namespace Stepwise.Script

/-- What is left to read. -/
structure Cursor where
  rest : List Token
  failure : Option Fault

/-- A reader of expressions. -/
abbrev Grammar := StateT Cursor (Except Fault)

namespace Grammar

/-- Refuses to stand at the place where scanning stopped. -/
def checkReached (cursor : Cursor) : Checked Unit :=
  match cursor.rest, cursor.failure with
  | [], some fault => .error fault
  | _, _ => .ok ()

def refuse {α : Type} (text : String) : Grammar α := throw (.scriptForm text)

/-- The lexeme to be read next; none at the end. -/
def current : Grammar (Option Lexeme) := do
  return (← get).rest.head?.map (·.lexeme)

def currentLine : Grammar Nat := do
  return ((← get).rest.head?.map (·.line)).getD 1

/-- Goes on by one token. -/
def advance : Grammar Unit := do
  let cursor ← get
  let next : Cursor := ⟨cursor.rest.drop 1, cursor.failure⟩
  checkReached next
  set next

/-- The lexeme after the next one. -/
def look : Grammar (Option Lexeme) := do
  let cursor ← get
  let next : Cursor := ⟨cursor.rest.drop 1, cursor.failure⟩
  checkReached next
  return next.rest.head?.map (·.lexeme)

def describeCurrent : Grammar String := do
  match ← current with
  | some lexeme => return Token.describe lexeme
  | none => return "end of template"

def isSign (lexeme : Option Lexeme) (s : String) : Bool := lexeme == some (.sign s)

def isName (lexeme : Option Lexeme) (s : String) : Bool := lexeme == some (.name s)

def atSign (s : String) : Grammar Bool := do return isSign (← current) s

def atName (s : String) : Grammar Bool := do return isName (← current) s

/-- Goes past a word if it comes next. -/
def skipName (s : String) : Grammar Bool := do
  if ← atName s then
    advance
    return true
  else return false

/-- What is reported when something else was wanted. -/
def expected {α : Type} (wanted : String) : Grammar α := do
  match ← current with
  | none => refuse ("unexpected end of template, expected " ++ Text.quoted wanted ++ ".")
  | some lexeme =>
    refuse ("expected token " ++ Text.quoted wanted ++ ", got " ++ Text.quoted (Token.describe lexeme))

def expectSign (s : String) : Grammar Unit := do
  if ← atSign s then advance else expected s

def expectName : Grammar String := do
  match ← current with
  | some (.name s) =>
    advance
    return s
  | _ => expected "name"

/-- Names with points between them count as one name. -/
def dottedName : Nat → String → Grammar String
  | 0, name => return name
  | fuel + 1, name => do
    if ← atSign "." then
      advance
      let next ← expectName
      dottedName fuel (name ++ "." ++ next)
    else return name

/-- The comparison that a sign stands for. -/
def comparison? (lexeme : Option Lexeme) : Option ComparisonOp :=
  match lexeme with
  | some (.sign "==") => some .eq
  | some (.sign "!=") => some .ne
  | some (.sign "<") => some (.order .lt)
  | some (.sign "<=") => some (.order .le)
  | some (.sign ">") => some (.order .gt)
  | some (.sign ">=") => some (.order .ge)
  | _ => none

def sumOp? (lexeme : Option Lexeme) : Option BinaryOp :=
  match lexeme with
  | some (.sign "+") => some .add
  | some (.sign "-") => some .sub
  | _ => none

def productOp? (lexeme : Option Lexeme) : Option BinaryOp :=
  match lexeme with
  | some (.sign "*") => some .mul
  | some (.sign "/") => some .div
  | some (.sign "//") => some .floorDiv
  | some (.sign "%") => some .mod
  | _ => none

/-- Texts that follow each other are one text. -/
def textTail : Nat → String → Grammar String
  | 0, s => return s
  | fuel + 1, s => do
    match ← current with
    | some (.text t) =>
      advance
      textTail fuel (s ++ t)
    | _ => return s

/-- The arguments of a call. -/
structure ArgumentExprs where
  args : List Expr := []
  keywords : List (String × Expr) := []
  spread : Option Expr := none
  spreadNamed : Option Expr := none

/-- Does an argument begin here, where a test may have one without parentheses? -/
def beginsArgument (lexeme : Option Lexeme) : Bool :=
  match lexeme with
  | some (.name s) => !(s == "else" || s == "or" || s == "and")
  | some (.text _) => true
  | some (.whole _) => true
  | some (.decimal _) => true
  | some (.sign s) => s == "[" || s == "\x7b"
  | _ => false

def badCall {α : Type} : Grammar α := refuse "invalid syntax for function call expression"

def constant? (name : String) : Option Value :=
  if name == "true" || name == "True" then some (.bool true)
  else if name == "false" || name == "False" then some (.bool false)
  else if name == "none" || name == "None" then some .null
  else none

/-- Is the subscript over, or its next part reached? -/
def atBoundEnd : Grammar Bool := do return (← atSign "]") || (← atSign ",")

/-- A subscript with bounds takes a slice; several parts make up one key. -/
def subscripted (e : Expr) (parts : List Expr) : Expr :=
  match parts with
  | [.bounds start stop step] => .slice e start stop step
  | [key] => .item e key
  | _ => .item e (.tuple parts)

mutual

/-- Reads `yes if test else no`. -/
def expression : Nat → Grammar Expr
  | 0 => refuse "expression too deep"
  | fuel + 1 => do
    let line ← currentLine
    let first ← disjunction fuel
    choiceTail fuel line first

def choiceTail : Nat → Nat → Expr → Grammar Expr
  | 0, _, e => return e
  | fuel + 1, line, e => do
    if ← skipName "if" then
      let test ← disjunction fuel
      let no ← if ← skipName "else" then some <$> expression fuel else pure none
      let next ← currentLine
      choiceTail fuel next (.choice test e no line)
    else return e

def disjunction : Nat → Grammar Expr
  | 0 => refuse "expression too deep"
  | fuel + 1 => do
    let first ← conjunction fuel
    disjunctionTail fuel first

def disjunctionTail : Nat → Expr → Grammar Expr
  | 0, e => return e
  | fuel + 1, e => do
    if ← skipName "or" then
      let right ← conjunction fuel
      disjunctionTail fuel (.or e right)
    else return e

def conjunction : Nat → Grammar Expr
  | 0 => refuse "expression too deep"
  | fuel + 1 => do
    let first ← negation fuel
    conjunctionTail fuel first

def conjunctionTail : Nat → Expr → Grammar Expr
  | 0, e => return e
  | fuel + 1, e => do
    if ← skipName "and" then
      let right ← negation fuel
      conjunctionTail fuel (.and e right)
    else return e

def negation : Nat → Grammar Expr
  | 0 => refuse "expression too deep"
  | fuel + 1 => do
    if ← skipName "not" then
      let e ← negation fuel
      return .not e
    else chain fuel

/-- A chain of comparisons. -/
def chain : Nat → Grammar Expr
  | 0 => refuse "expression too deep"
  | fuel + 1 => do
    let first ← sum fuel
    let rest ← chainTail fuel
    return if rest.isEmpty then first else .compare first rest

def chainTail : Nat → Grammar (List (ComparisonOp × Expr))
  | 0 => return []
  | fuel + 1 => do
    match comparison? (← current) with
    | some op =>
      advance
      let e ← sum fuel
      return (op, e) :: (← chainTail fuel)
    | none =>
      if ← skipName "in" then
        let e ← sum fuel
        return (.member, e) :: (← chainTail fuel)
      else if ← atName "not" then
        if isName (← look) "in" then
          advance
          advance
          let e ← sum fuel
          return (.notMember, e) :: (← chainTail fuel)
        else return []
      else return []

def sum : Nat → Grammar Expr
  | 0 => refuse "expression too deep"
  | fuel + 1 => do
    let first ← joined fuel
    sumTail fuel first

def sumTail : Nat → Expr → Grammar Expr
  | 0, e => return e
  | fuel + 1, e => do
    match sumOp? (← current) with
    | some op =>
      advance
      let right ← joined fuel
      sumTail fuel (.binary op e right)
    | none => return e

def joined : Nat → Grammar Expr
  | 0 => refuse "expression too deep"
  | fuel + 1 => do
    let first ← product fuel
    let rest ← joinedTail fuel
    return if rest.isEmpty then first else .concat (first :: rest)

def joinedTail : Nat → Grammar (List Expr)
  | 0 => return []
  | fuel + 1 => do
    if ← atSign "~" then
      advance
      let e ← product fuel
      return e :: (← joinedTail fuel)
    else return []

def product : Nat → Grammar Expr
  | 0 => refuse "expression too deep"
  | fuel + 1 => do
    let first ← power fuel
    productTail fuel first

def productTail : Nat → Expr → Grammar Expr
  | 0, e => return e
  | fuel + 1, e => do
    match productOp? (← current) with
    | some op =>
      advance
      let right ← power fuel
      productTail fuel (.binary op e right)
    | none => return e

def power : Nat → Grammar Expr
  | 0 => refuse "expression too deep"
  | fuel + 1 => do
    let first ← signed fuel true
    powerTail fuel first

def powerTail : Nat → Expr → Grammar Expr
  | 0, e => return e
  | fuel + 1, e => do
    if ← atSign "**" then
      advance
      let right ← signed fuel true
      powerTail fuel (.binary .pow e right)
    else return e

/-- An operand with its signs, subscripts and calls; filters and tests apply to the whole of it. -/
def signed : Nat → Bool → Grammar Expr
  | 0, _ => refuse "expression too deep"
  | fuel + 1, withFilters => do
    let inner ←
      if ← atSign "-" then do
        advance
        pure (.unary .negate (← signed fuel false))
      else if ← atSign "+" then do
        advance
        pure (.unary .keep (← signed fuel false))
      else primary fuel
    let applied ← suffixes fuel inner
    if withFilters then filters fuel applied else return applied

def primary : Nat → Grammar Expr
  | 0 => refuse "expression too deep"
  | fuel + 1 => do
    match ← current with
    | some (.name s) =>
      advance
      match constant? s with
      | some v => return .literal v
      | none => return .name s
    | some (.text s) =>
      advance
      let whole ← textTail fuel s
      return .literal (.text whole)
    | some (.whole n) =>
      advance
      return .literal (.int n)
    | some (.decimal x) =>
      advance
      return .literal (.float x)
    | some (.sign "(") =>
      advance
      let e ← parenthesis fuel []
      expectSign ")"
      return e
    | some (.sign "[") =>
      advance
      let items ← listItems fuel []
      expectSign "]"
      return .list items
    | some (.sign "\x7b") =>
      advance
      let entries ← dictEntries fuel []
      expectSign "\x7d"
      return .dict entries
    | _ => refuse ("unexpected " ++ Text.quoted (← describeCurrent))

/-- What stands between parentheses: one expression, or the items of a tuple. -/
def parenthesis : Nat → List Expr → Grammar Expr
  | 0, _ => refuse "expression too deep"
  | fuel + 1, done => do
    if !done.isEmpty then expectSign ","
    if (← atSign ")") || (← current) == some .close then return .tuple done
    else
      let e ← expression fuel
      if ← atSign "," then parenthesis fuel (done ++ [e])
      else if done.isEmpty then return e
      else return .tuple (done ++ [e])

def listItems : Nat → List Expr → Grammar (List Expr)
  | 0, _ => refuse "expression too deep"
  | fuel + 1, done => do
    if ← atSign "]" then return done
    else
      if !done.isEmpty then expectSign ","
      if ← atSign "]" then return done
      else
        let e ← expression fuel
        listItems fuel (done ++ [e])

def dictEntries : Nat → List (Expr × Expr) → Grammar (List (Expr × Expr))
  | 0, _ => refuse "expression too deep"
  | fuel + 1, done => do
    if ← atSign "\x7d" then return done
    else
      if !done.isEmpty then expectSign ","
      if ← atSign "\x7d" then return done
      else
        let key ← expression fuel
        expectSign ":"
        let value ← expression fuel
        dictEntries fuel (done ++ [(key, value)])

/-- Subscripts and calls. -/
def suffixes : Nat → Expr → Grammar Expr
  | 0, e => return e
  | fuel + 1, e => do
    if ← atSign "." then
      advance
      let found ← current
      advance
      match found with
      | some (.name s) => suffixes fuel (.attribute e s)
      | some (.whole n) => suffixes fuel (.item e (.literal (.int n)))
      | _ => refuse "expected name or number"
    else if ← atSign "[" then
      advance
      let parts ← subscripts fuel []
      expectSign "]"
      suffixes fuel (subscripted e parts)
    else if ← atSign "(" then
      let a ← arguments fuel
      suffixes fuel (.call e a.args a.keywords a.spread a.spreadNamed)
    else return e

def subscripts : Nat → List Expr → Grammar (List Expr)
  | 0, _ => refuse "expression too deep"
  | fuel + 1, done => do
    if ← atSign "]" then return done
    else
      if !done.isEmpty then expectSign ","
      let e ← subscript fuel
      subscripts fuel (done ++ [e])

/-- One part of a subscript: a key, or bounds. -/
def subscript : Nat → Grammar Expr
  | 0 => refuse "expression too deep"
  | fuel + 1 => do
    if ← atSign ":" then
      advance
      boundsTail fuel none
    else
      let e ← expression fuel
      if ← atSign ":" then
        advance
        boundsTail fuel (some e)
      else return e

def boundsTail : Nat → Option Expr → Grammar Expr
  | 0, _ => refuse "expression too deep"
  | fuel + 1, start => do
    let stop ←
      if ← atSign ":" then pure none
      else if ← atBoundEnd then pure none
      else some <$> expression fuel
    let step ←
      if ← atSign ":" then do
        advance
        if ← atBoundEnd then pure none else some <$> expression fuel
      else pure none
    return .bounds start stop step

/-- Filters, tests and calls of their results. -/
def filters : Nat → Expr → Grammar Expr
  | 0, e => return e
  | fuel + 1, e => do
    if ← atSign "|" then
      advance
      let first ← expectName
      let name ← dottedName fuel first
      let a ← if ← atSign "(" then arguments fuel else pure {}
      filters fuel (.filter e name a.args a.keywords a.spread a.spreadNamed)
    else if ← atName "is" then
      advance
      let tested ← testAfterIs fuel e
      filters fuel tested
    else if ← atSign "(" then
      let a ← arguments fuel
      filters fuel (.call e a.args a.keywords a.spread a.spreadNamed)
    else return e

def testAfterIs : Nat → Expr → Grammar Expr
  | 0, _ => refuse "expression too deep"
  | fuel + 1, e => do
    let negated ← skipName "not"
    let first ← expectName
    let name ← dottedName fuel first
    let a ←
      if ← atSign "(" then arguments fuel
      else if beginsArgument (← current) then do
        if ← atName "is" then refuse "You cannot chain multiple tests with is"
        let base ← primary fuel
        let arg ← suffixes fuel base
        pure { args := [arg] }
      else pure {}
    let tested := Expr.test e name a.args a.keywords a.spread a.spreadNamed
    return if negated then .not tested else tested

def arguments : Nat → Grammar ArgumentExprs
  | 0 => refuse "expression too deep"
  | fuel + 1 => do
    expectSign "("
    let a ← argumentList fuel false {}
    expectSign ")"
    return a

def argumentList : Nat → Bool → ArgumentExprs → Grammar ArgumentExprs
  | 0, _, _ => refuse "expression too deep"
  | fuel + 1, needsComma, a => do
    if ← atSign ")" then return a
    else
      if needsComma then expectSign ","
      if needsComma && (← atSign ")") then return a
      else if ← atSign "*" then
        if a.spread.isSome || a.spreadNamed.isSome then badCall
        else
          advance
          let e ← expression fuel
          argumentList fuel true { a with spread := some e }
      else if ← atSign "**" then
        if a.spreadNamed.isSome then badCall
        else
          advance
          let e ← expression fuel
          argumentList fuel true { a with spreadNamed := some e }
      else
        match ← current with
        | some (.name key) =>
          if isSign (← look) "=" then
            if a.spreadNamed.isSome then badCall
            else
              advance
              advance
              let e ← expression fuel
              argumentList fuel true { a with keywords := a.keywords ++ [(key, e)] }
          else positional fuel a
        | _ => positional fuel a

def positional : Nat → ArgumentExprs → Grammar ArgumentExprs
  | 0, _ => refuse "expression too deep"
  | fuel + 1, a => do
    if a.spread.isSome || a.spreadNamed.isSome || !a.keywords.isEmpty then badCall
    else
      let e ← expression fuel
      argumentList fuel true { a with args := a.args ++ [e] }

end

end Grammar

namespace Expr

/-- Reads a script as one expression. -/
def parse (script : String) : Checked Expr := do
  let tokens := Token.scan script
  let cursor : Cursor := ⟨tokens.tokens, tokens.failure⟩
  Grammar.checkReached cursor
  let (e, left) ← (Grammar.expression (tokens.tokens.length * 20 + 40)).run cursor
  if left.rest.isEmpty then .ok e else .error (.scriptForm "chunk after expression")

end Expr

end Stepwise.Script
