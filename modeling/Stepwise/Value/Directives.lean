import Stepwise.Number.Layout
import Stepwise.Value.Arithmetic

/-!
Texts with directives: `%` and a letter stand for an argument, with flags, a width and a precision
in between. Arguments come in order, or from a mapping by a key in parentheses.
-/

namespace Stepwise.Value

/-- The written form with characters outside ASCII escaped. -/
def asciiWritten (v : Value) : Checked String := do
  return String.ofList ((← v.written).toList.flatMap fun c =>
    if c.toNat < 128 then [c] else Text.codeEscape c)

namespace Directive

/-- The flags, the width and the precision of a directive. -/
structure Options where
  left : Bool := false
  plus : Bool := false
  blank : Bool := false
  alternate : Bool := false
  zero : Bool := false
  width : Nat := 0
  precision : Option Nat := none
  deriving Inhabited

/-- The arguments that are still to be used. -/
inductive Source where
  /-- The items of a tuple. -/
  | items (rest : List Value)
  /-- One value; `mapping` values may be left unused. -/
  | single (v : Value) (used mapping : Bool)

/-- Does a value have items under keys, so that it may be left unused? -/
def isKeyed : Value → Bool
  | list _ | dict _ | bytes _ | range .. | undefined _ => true
  | _ => false

def Source.of (v : Value) : Source :=
  match v.tupleOf? with
  | some xs => .items xs
  | none => .single v false (isKeyed v)

def Source.next : Source → Checked (Value × Source)
  | .items (v :: rest) => .ok (v, .items rest)
  | .single v false m => .ok (v, .single v true m)
  | _ => .error .formatArguments

/-- The fault of arguments that no directive used. -/
def Source.leftover? : Source → Option Fault
  | .items (_ :: _) => some .formatLeftover
  | .single _ false false => some .formatLeftover
  | _ => none

/-- The value that a key stands for. -/
def keyed (arguments : Value) (key : String) : Checked Value :=
  match arguments with
  | dict entries =>
    match lookupText? entries key with
    | some v => .ok v
    | none => .error (.noKey (Text.quoted key))
  | undefined a => .error a.fault
  | list _ => .error (.badCall "list indices must be integers or slices, not str")
  | bytes _ => .error (.badCall "byte indices must be integers or slices, not str")
  | range .. => .error (.badCall "range indices must be integers or slices, not str")
  | _ => .error .formatMapping

/-- The key up to its closing parenthesis, and what follows; parentheses inside are counted. -/
def splitKey (depth : Nat) (taken : List Char) : List Char → Option (List Char × List Char)
  | [] => none
  | c :: rest =>
    if c == ')' then
      match depth with
      | 0 => some (taken.reverse, rest)
      | depth + 1 => splitKey depth (c :: taken) rest
    else splitKey (if c == '(' then depth + 1 else depth) (c :: taken) rest

def splitFlags (o : Options) : List Char → Options × List Char
  | '-' :: rest => splitFlags { o with left := true } rest
  | '+' :: rest => splitFlags { o with plus := true } rest
  | ' ' :: rest => splitFlags { o with blank := true } rest
  | '#' :: rest => splitFlags { o with alternate := true } rest
  | '0' :: rest => splitFlags { o with zero := true } rest
  | rest => (o, rest)

def natOf (digits : List Char) : Nat :=
  digits.foldl (fun n c => 10 * n + (c.toNat - '0'.toNat)) 0

/-- A width or precision taken from the arguments. -/
def starred (source : Source) : Checked (Int × Source) := do
  let (v, source) ← source.next
  match v.intOf? with
  | some n => return (n, source)
  | none => throw (.badCall "* wants int")

def splitWidth (o : Options) (source : Source) (s : List Char) :
    Checked (Options × Source × List Char) := do
  match s with
  | '*' :: rest =>
    let (n, source) ← starred source
    if Nat.pow 2 63 ≤ n.natAbs then throw .intTooLargeForWord
    if maxRepeated < n.natAbs then throw .repetitionTooLarge
    let o := if n < 0 then { o with left := true } else o
    return ({ o with width := n.natAbs }, source, rest)
  | _ =>
    let digits := s.takeWhile Char.isDigit
    if Nat.pow 2 63 ≤ natOf digits then throw (.formatText "width too big")
    if maxRepeated < natOf digits then throw .repetitionTooLarge
    return ({ o with width := natOf digits }, source, s.drop digits.length)

def splitPrecision (o : Options) (source : Source) (s : List Char) :
    Checked (Options × Source × List Char) := do
  match s with
  | '.' :: '*' :: rest =>
    let (n, source) ← starred source
    if Nat.pow 2 31 ≤ n.natAbs then throw .intTooLargeForInt
    return ({ o with precision := some n.toNat }, source, rest)
  | '.' :: rest =>
    let digits := rest.takeWhile Char.isDigit
    if Nat.pow 2 31 ≤ natOf digits then throw (.formatText "precision too big")
    return ({ o with precision := some (natOf digits) }, source, rest.drop digits.length)
  | _ => return (o, source, s)

def Options.layout (o : Options) (kind : Char) : Layout :=
  { fill := if o.zero && !o.left then '0' else ' '
    align := some (if o.left then '<' else if o.zero then '=' else '>')
    sign := if o.plus then some '+' else if o.blank then some ' ' else none
    alternate := o.alternate
    width := o.width
    precision := o.precision
    kind := some kind }

/-- Text in a field, cut to the precision. -/
def field (o : Options) (s : String) : String :=
  let chars := match o.precision with
    | some p => s.toList.take p
    | none => s.toList
  String.ofList (if o.left then Text.padRight o.width ' ' chars else Text.padLeft o.width ' ' chars)

/-- The integer that a directive for integers shows. -/
def integerOf (kind : Char) (v : Value) : Checked Int :=
  let exact := kind == 'x' || kind == 'X' || kind == 'o'
  match v with
  | int n => .ok n
  | bool b => .ok (if b then 1 else 0)
  | float _ => if exact then refused else v.toInt
  | undefined a => if exact then refused else .error a.fault
  | _ => refused
where
  refused : Checked Int :=
    .error (.badCall ("%" ++ String.singleton kind ++ " format: " ++
      (if kind == 'x' || kind == 'X' || kind == 'o' then "an integer" else "a real number") ++
      " is required, not " ++ v.typeName))

def integer (o : Options) (kind : Char) (v : Value) : Checked String := do
  let n ← integerOf kind v
  let base := if kind == 'o' then 8 else if kind == 'x' || kind == 'X' then 16 else 10
  if base = 10 then let _ ← writtenInt n
  let digits := Nat.toDigits base n.natAbs
  let digits := if kind == 'X' then digits.map Char.toUpper else digits
  let digits := Text.padLeft (o.precision.getD 0) '0' digits
  let mark := if o.alternate && base != 10 then ['0', kind] else []
  let layout := o.layout kind
  return Layout.assemble layout 3 ⟨Layout.signChars layout (n < 0), mark, digits, []⟩

/-- The number that a directive for real numbers shows. -/
def realOf : Value → Checked Binary64
  | int n => floatOfInt n
  | bool b => .ok (Binary64.ofInt (if b then 1 else 0))
  | float x => .ok x
  | undefined a => .error a.fault
  | v => .error (.badCall ("must be real number, not " ++ v.typeName))

def character (v : Value) : Checked String :=
  match v with
  | int _ | bool _ =>
    let n := (v.intOf?).getD 0
    if 0 ≤ n ∧ n < 0x110000 then .ok (String.singleton (Char.ofNat n.toNat))
    else .error (.formatConversion "%c arg not in range(0x110000)")
  | text s | markup s =>
    if s.length = 1 then .ok s else .error (.formatConversion "%c requires int or char")
  | _ => .error (.formatConversion "%c requires int or char")

/-- The text of an argument under a directive that stands at `place`. -/
def convert (escape : Bool) (place : Nat) (o : Options) (kind : Char) (v : Value) :
    Checked String := do
  if kind == 's' then return field o (← if escape then v.escaped else v.shown)
  else if kind == 'r' then
    let shown ← v.written
    return field o (if escape then Text.escapeMarkup shown else shown)
  else if kind == 'a' then return field o (← asciiWritten v)
  else if "diuxXo".toList.contains kind then integer o kind v
  else if "eEfFgG".toList.contains kind then
    match Layout.real (o.layout kind) (← realOf v) "" with
    | .ok s => return s
    | .error _ => return ""
  else if kind == 'c' then return field { o with precision := none } (← character v)
  else
    let shownKind := if 31 ≤ kind.toNat && kind.toNat < 128 then String.singleton kind else "?"
    throw (.formatText ("unsupported format character '" ++ shownKind ++ "' (0x" ++
      String.ofList (Nat.toDigits 16 kind.toNat) ++ ") at index " ++ toString place))

/-- One directive, after its `%`. -/
def apply (escape : Bool) (whole : Nat) (arguments : Value) (source : Source) (s : List Char) :
    Checked (String × Source × List Char) := do
  let (source, s) ← match s with
    | '(' :: rest =>
      if !isKeyed arguments then throw .formatMapping
      match splitKey 0 [] rest with
      | none => throw (.formatText "incomplete format key")
      | some (key, rest) =>
        let v ← keyed arguments (String.ofList key)
        pure (Source.single v false true, rest)
    | _ => pure (source, s)
  let (o, s) := splitFlags {} s
  let (o, source, s) ← splitWidth o source s
  let (o, source, s) ← splitPrecision o source s
  let s := match s with
    | c :: rest => if c == 'h' || c == 'l' || c == 'L' then rest else s
    | [] => s
  match s with
  | [] => throw (.formatText "incomplete format")
  | kind :: rest =>
    let (v, source) ← source.next
    return (← convert escape (whole - s.length) o kind v, source, rest)

/-- Follows the directives of a text from left to right. -/
def follow (escape : Bool) (whole : Nat) (arguments : Value) :
    Nat → Source → List Char → Checked String
  | 0, _, _ => .ok ""
  | fuel + 1, source, s => do
    let literal := s.takeWhile (· != '%')
    match s.drop literal.length with
    | [] =>
      match source.leftover? with
      | some fault => throw fault
      | none => return String.ofList literal
    | '%' :: '%' :: rest =>
      return String.ofList literal ++ "%" ++ (← follow escape whole arguments fuel source rest)
    | _ :: rest =>
      let (shown, source, rest) ← apply escape whole arguments source rest
      return String.ofList literal ++ shown ++ (← follow escape whole arguments fuel source rest)

end Directive

/-- The text of `template % arguments`. -/
def filled (template : String) (escape : Bool) (arguments : Value) : Checked String :=
  let chars := template.toList
  Directive.follow escape chars.length arguments (chars.length + 1) (.of arguments) chars

/-- The remainder of numbers; on a text, its directives filled in. -/
def mod (v w : Value) : Checked Value :=
  match v with
  | text s => do .ok (text (← filled s false w))
  | markup s => do .ok (markup (← filled s true w))
  | v => modNumbers v w

end Stepwise.Value
