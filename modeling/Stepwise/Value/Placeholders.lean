import Stepwise.Value.Directives
import Stepwise.Value.Subscript

/-!
Texts with placeholders: a pair of braces stands for an argument, named or numbered, with a path of
attributes and items, a conversion and a layout in between. A layout may hold placeholders again.
-/

namespace Stepwise.Value

/-- A value laid out as a specification asks. -/
def laidOut (v : Value) (spec : String) : Checked String :=
  if spec.isEmpty then v.shown
  else
    match v with
    | text s | markup s => checked v.typeName spec (Layout.parse true spec) fun l => l.text s v.typeName
    | int n => integer n
    | bool b => integer (if b then 1 else 0)
    | float x => checked "float" spec (Layout.parse false spec) fun l => l.real x "float"
    | undefined _ | _ =>
      .error (.badCall ("unsupported format string passed to " ++ v.typeName ++ ".__format__"))
where
  checked (typeName spec : String) (layout : Except LayoutError Layout)
      (write : Layout → Except (LayoutError × String) String) : Checked String :=
    match layout with
    | .error e => .error (.formatText (e.message spec typeName))
    | .ok l =>
      match write l with
      | .ok s => .ok s
      | .error (e, t) => .error (.formatText (e.message spec t))
  integer (n : Int) : Checked String :=
    match Layout.parse false spec with
    | .error e => .error (.formatText (e.message spec v.typeName))
    | .ok l => do
      match l.kind with
      | some k =>
        if "eEfFgG%".toList.contains k then
          let x ← floatOfInt n
          checked v.typeName spec (.ok l) fun l => l.real x v.typeName
        else
          if k == 'd' || k == 'n' then let _ ← writtenInt n
          checked v.typeName spec (.ok l) fun l => l.integer n v.typeName
      | none =>
        let _ ← writtenInt n
        checked v.typeName spec (.ok l) fun l => l.integer n v.typeName

namespace Placeholder

/-- A placeholder: what it stands for, how it is converted and how it is laid out. -/
structure Field where
  name : List Char
  conversion : Option Char
  spec : List Char
  deriving Inhabited

def malformed {α : Type} (text : String) : Checked α := .error (.formatText text)

/-- The end of an item's brackets, from behind the opening one. -/
def skipBrackets : List Char → List Char × List Char
  | [] => ([], [])
  | ']' :: rest => ([], ']' :: rest)
  | c :: rest =>
    let (inside, after) := skipBrackets rest
    (c :: inside, after)

theorem length_skipBrackets (s : List Char) : (skipBrackets s).2.length ≤ s.length := by
  induction s with
  | nil => simp [skipBrackets]
  | cons c rest ih =>
    unfold skipBrackets
    split
    · simp_all
    · simp_all
    · rename_i heq
      simp only [List.cons.injEq] at heq
      obtain ⟨_, rfl⟩ := heq
      simp only [List.length_cons]
      omega

/-- The name of a placeholder, and what ended it. -/
def splitName (s : List Char) : Checked (List Char × Option Char × List Char) :=
  match s with
  | [] => .ok ([], none, [])
  | '{' :: _ => malformed "unexpected '\x7b' in field name"
  | '[' :: rest => do
    let skipped := skipBrackets rest
    let (name, mark, after) ← splitName skipped.2
    .ok ('[' :: skipped.1 ++ name, mark, after)
  | c :: rest =>
    if c == '}' || c == ':' || c == '!' then .ok ([], some c, rest)
    else do
      let (name, mark, after) ← splitName rest
      .ok (c :: name, mark, after)
termination_by s.length
decreasing_by
  · have := length_skipBrackets rest
    simp only [List.length_cons]
    omega
  · simp

/-- The layout up to the brace that closes the placeholder; braces inside are counted. -/
def splitSpec (depth : Nat) (taken : List Char) : List Char → Checked (List Char × List Char)
  | [] => malformed "unmatched '\x7b' in format spec"
  | c :: rest =>
    if c == '{' then splitSpec (depth + 1) (c :: taken) rest
    else if c == '}' then
      match depth with
      | 0 => .ok (taken.reverse, rest)
      | depth + 1 => splitSpec depth (c :: taken) rest
    else splitSpec depth (c :: taken) rest

/-- A placeholder, after its opening brace. -/
def splitField (s : List Char) : Checked (Field × List Char) := do
  let (name, mark, rest) ← splitName s
  match mark with
  | none => malformed "expected '\x7d' before end of string"
  | some '!' =>
    match rest with
    | [] => malformed "end of string while looking for conversion specifier"
    | c :: '}' :: rest => return (⟨name, some c, []⟩, rest)
    | c :: ':' :: rest =>
      let (spec, rest) ← splitSpec 0 [] rest
      return (⟨name, some c, spec⟩, rest)
    | [_] => malformed "unmatched '\x7b' in format spec"
    | _ => malformed "expected ':' after conversion specifier"
  | some ':' =>
    let (spec, rest) ← splitSpec 0 [] rest
    return (⟨name, none, spec⟩, rest)
  | some _ => return (⟨name, none, []⟩, rest)

/-- A piece of a text: what stands before a placeholder, and the placeholder if there is one. -/
def splitPiece (s : List Char) : Checked (List Char × Option Field × List Char) := do
  let isBrace (c : Char) : Bool := c == '{' || c == '}'
  let literal := s.takeWhile fun c => !isBrace c
  match s.drop literal.length with
  | [] => return (literal, none, [])
  | [c] => malformed ("Single '" ++ String.singleton c ++ "' encountered in format string")
  | c :: next :: rest =>
    if c == next then return (literal ++ [c], none, rest)
    else if c == '}' then malformed "Single '\x7d' encountered in format string"
    else
      let (field, rest) ← splitField (next :: rest)
      return (literal, some field, rest)

/-! ### What a placeholder stands for -/

/-- A number or a name. -/
def keyOf (s : List Char) : Checked Value :=
  match s.mapM Text.decimalValue? with
  | some (d :: ds) =>
    let n : Nat := (d :: ds).foldl (fun n d => 10 * n + d) 0
    if Nat.pow 2 63 ≤ n then malformed "Too many decimal digits in format string" else .ok (int n)
  | _ => .ok (text (String.ofList s))

/-- Follows the attributes and items of a path. -/
def follow : Nat → Value → List Char → Checked Value
  | 0, v, _ => .ok v
  | fuel + 1, v, path =>
    match path with
    | [] => .ok v
    | '.' :: rest => do
      let name := rest.takeWhile fun c => c != '.' && c != '['
      if name.isEmpty then malformed "Empty attribute in format string"
      follow fuel (← v.getAttribute (String.ofList name)) (rest.drop name.length)
    | '[' :: rest => do
      let key := rest.takeWhile (· != ']')
      match rest.drop key.length with
      | [] => malformed "Missing ']' in format string"
      | _ :: rest =>
        let found ← keyOf key
        if key.isEmpty then malformed "Empty attribute in format string"
        follow fuel (← v.getItem found) rest
    | _ => malformed "Only '.' or '[' may follow ']' in format field specifier"

/-- The arguments of a text with placeholders. -/
structure Source where
  positional : List Value
  named : Value

def Source.get (source : Source) (key : Value) : Checked Value :=
  match key with
  | int n =>
    match source.positional[n.toNat]? with
    | some v => .ok v
    | none => .error (.listIndex "tuple")
  | _ =>
    match source.named with
    | undefined a => .error a.fault
    | dict entries =>
      match lookup? entries key with
      | some v => .ok v
      | none => do .error (.noKey (← key.written))
    | list _ => .error (.badCall "list indices must be integers or slices, not str")
    | tuple _ | group .. => .error (.badCall "tuple indices must be integers or slices, not str")
    | text _ | markup _ => .error (.badCall "string indices must be integers, not 'str'")
    | v => .error (.notSubscriptable v.typeName)

def convert (conversion : Option Char) (v : Value) : Checked Value :=
  match conversion with
  | none => .ok v
  | some 's' => do .ok (text (← v.shown))
  | some 'r' => do .ok (text (← v.written))
  | some 'a' => do .ok (text (← asciiWritten v))
  | some c => malformed ("Unknown conversion specifier " ++ String.singleton c)

/-- How unnamed placeholders are numbered. -/
inductive Numbering where
  /-- The next unnamed placeholder gets this number. -/
  | next (n : Nat)
  /-- Numbers were written out. -/
  | written

def mixedNumbering : Fault :=
  .formatText
    "cannot switch from manual field specification to automatic field numbering"

/-- The name of a placeholder with its number filled in. -/
def numbered (name : List Char) (numbering : Numbering) : Checked (List Char × Numbering) :=
  if name.isEmpty then
    match numbering with
    | .next n => .ok (Decimal.natText n, .next (n + 1))
    | .written => .error mixedNumbering
  else if name.all Text.isDigit then
    match numbering with
    | .next 0 | .written => .ok (name, .written)
    | .next _ => .error mixedNumbering
  else .ok (name, numbering)

/-- The text of a value in a layout; an escaped text escapes what is put into it. -/
def place (escapes : Bool) (v : Value) (spec : String) : Checked String :=
  if !escapes then v.laidOut spec
  else
    match v with
    | markup s =>
      if spec.isEmpty then .ok s
      else malformed "Unsupported format specification for Markup."
    | _ => do .ok (Text.escapeMarkup (← v.laidOut spec))

/-- Fills in the placeholders from left to right, those of layouts included; `depth` bounds how
deeply these are nested. -/
def fill (escapes : Bool) (source : Source) : Nat → Nat → Numbering → List Char →
    Checked (String × Numbering)
  | 0, _, _, _ => malformed "Max string recursion exceeded"
  | _ + 1, 0, numbering, _ => .ok ("", numbering)
  | depth + 1, fuel + 1, numbering, s =>
    if s.isEmpty then .ok ("", numbering)
    else do
      let (literal, field?, rest) ← splitPiece s
      match field? with
      | none =>
        let (more, numbering) ← fill escapes source (depth + 1) fuel numbering rest
        return (String.ofList literal ++ more, numbering)
      | some field =>
        let (name, numbering) ← numbered field.name numbering
        let first := name.takeWhile fun c => c != '.' && c != '['
        let root ← source.get (← keyOf first)
        let found ← follow (name.length + 1) root (name.drop first.length)
        let converted ← convert field.conversion found
        let (spec, numbering) ← fill escapes source depth (field.spec.length + 1) numbering field.spec
        let shown ← place escapes converted spec
        let (more, numbering) ← fill escapes source (depth + 1) fuel numbering rest
        return (String.ofList literal ++ shown ++ more, numbering)
termination_by depth fuel => (depth, fuel)

end Placeholder

/-- A text with its placeholders filled in. -/
def formatted (template : String) (escapes : Bool) (positional : List Value) (named : Value) :
    Checked String := do
  let chars := template.toList
  let (filledIn, _) ← Placeholder.fill escapes ⟨positional, named⟩ 3 (chars.length + 1) (.next 0) chars
  return filledIn

end Stepwise.Value
