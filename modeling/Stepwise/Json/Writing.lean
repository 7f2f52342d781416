import Stepwise.Value.Convert
import Stepwise.Value.Sorting

/-!
JSON text of values.
-/

namespace Stepwise.Json

/-- How JSON text is laid out. -/
structure Style where
  /-- Escape every character outside ASCII. -/
  ascii : Bool := true
  itemGap : String := ", "
  keyGap : String := ": "
  sortKeys : Bool := false
  /-- One item per line, indented by this text per level. -/
  indent : Option String := none
  /-- Write a value that JSON has no form for as its own text, instead of refusing it. -/
  lenient : Bool := false
  /-- Write infinities and NaN as null. -/
  finiteOnly : Bool := false
  deriving Inhabited

/-- Members in their own order, on one line, with a blank after commas and colons. -/
def Style.plain : Style := {}

/-- Like `plain`, and total: what has no form is written as text. -/
def Style.lenientPlain : Style := { lenient := true }

/-- The layout of documents: short, with all characters as they are and with finite numbers only. -/
def Style.document : Style :=
  { ascii := false, itemGap := ",", keyGap := ":", finiteOnly := true }

def unicodeEscape (n : Nat) : List Char := '\\' :: 'u' :: Text.hexDigits n 4

/-- A character above the basic plane as its two surrogate halves. -/
def surrogateEscapes (n : Nat) : List Char :=
  let offset := n - 0x10000
  unicodeEscape (0xd800 + offset / 0x400) ++ unicodeEscape (0xdc00 + offset % 0x400)

def escapedChar (ascii : Bool) (c : Char) : List Char :=
  if c == '"' then ['\\', '"']
  else if c == '\\' then ['\\', '\\']
  else if c == '\n' then ['\\', 'n']
  else if c == '\r' then ['\\', 'r']
  else if c == '\t' then ['\\', 't']
  else if c.toNat = 8 then ['\\', 'b']
  else if c.toNat = 12 then ['\\', 'f']
  else if c.toNat < 0x20 then unicodeEscape c.toNat
  else if ascii && 0x7e < c.toNat then
    if c.toNat < 0x10000 then unicodeEscape c.toNat else surrogateEscapes c.toNat
  else [c]

def quoted (ascii : Bool) (s : String) : String :=
  String.ofList ('"' :: s.toList.flatMap (escapedChar ascii) ++ ['"'])

def numberText (x : Binary64) : String :=
  match x with
  | .nan => "NaN"
  | .infinite negative => if negative then "-Infinity" else "Infinity"
  | _ => x.text

/-- The member name that a key stands for. -/
def keyText (key : Value) : Checked String :=
  match key with
  | .text s => .ok s
  | .markup s => .ok s
  | .float x => .ok (numberText x)
  | .bool b => .ok (if b then "true" else "false")
  | .null => .ok "null"
  | .int n => Value.writtenInt n
  | v => .error (.jsonKey v.typeName)

/-- Puts items between brackets, with line breaks where the style asks for them. -/
def enclose (style : Style) (level : Nat) (left right : String) (items : List String) : String :=
  if items.isEmpty then left ++ right
  else
    match style.indent with
    | none => left ++ style.itemGap.intercalate items ++ right
    | some unit =>
      let line (n : Nat) := "\n" ++ String.join (List.replicate n unit)
      left ++ line (level + 1) ++ ("," ++ line (level + 1)).intercalate items ++ line level ++ right

/-- Entries in the order of their keys, where the style asks for it. -/
def arrange {α : Type} (style : Style) (entries : List (Value × α)) :
    Checked (List (Value × α)) :=
  if style.sortKeys then Sorting.sort (fun a b => Value.ordered .lt a.1 b.1) entries
  else .ok entries

/-- A value that JSON has no form for. -/
def foreignText (style : Style) (v : Value) : Checked String :=
  if style.lenient then do .ok (quoted style.ascii (← v.shown))
  else .error (.notJson v.typeName)

def write (style : Style) (level : Nat) : Value → Checked String
  | .null => .ok "null"
  | .bool b => .ok (if b then "true" else "false")
  | .int n => Value.writtenInt n
  | .float x => .ok (if style.finiteOnly && !x.isFinite then "null" else numberText x)
  | .text s => .ok (quoted style.ascii s)
  | .markup s => .ok (quoted style.ascii s)
  | .list items => do
    .ok (enclose style level "[" "]" ((← writeAll style (level + 1) items)))
  | .tuple items => do
    .ok (enclose style level "[" "]" ((← writeAll style (level + 1) items)))
  | .group key members => do
    let k ← write style (level + 1) key
    let ms ← writeAll style (level + 2) members
    .ok (enclose style level "[" "]" [k, enclose style (level + 1) "[" "]" ms])
  | .dict entries => do
    let texts := writeEntries style (level + 1) entries
    let members ← arrange style texts
    let lines ← members.mapM fun (key, text) => do
      let name ← keyText key
      .ok (quoted style.ascii name ++ style.keyGap ++ (← text))
    .ok (enclose style level "\x7b" "\x7d" lines)
  | v => foreignText style v
where
  writeAll (style : Style) (level : Nat) : List Value → Checked (List String)
    | [] => .ok []
    | v :: rest => do
      let t ← write style level v
      .ok (t :: (← writeAll style level rest))
  writeEntries (style : Style) (level : Nat) :
      List (Value × Value) → List (Value × Checked String)
    | [] => []
    | (k, v) :: rest => (k, write style level v) :: writeEntries style level rest

def render (style : Style) (v : Value) : Checked String := write style 0 v

end Stepwise.Json
