import Stepwise.Value.Basic

/-!
Written values: the text of a value by itself (`shown`), and the text of a value inside another one
or inside a message (`written`), which quotes texts.
-/

namespace Stepwise

namespace Value

/-- The greatest count of digits that an integer is written with. -/
def maxIntDigits : Nat := 4300

def writtenInt (n : Int) : Checked String :=
  if n.natAbs < Nat.pow 10 maxIntDigits then .ok (Decimal.intString n) else .error .digitLimit

def writtenBool (b : Bool) : String := if b then "True" else "False"

/-- Bytes as quoted text, with escapes outside ASCII. -/
def writtenByte (quote : Char) (b : UInt8) : List Char :=
  let c := Char.ofNat b.toNat
  if c == quote || c == '\\' then ['\\', c]
  else if c == '\n' then ['\\', 'n']
  else if c == '\r' then ['\\', 'r']
  else if c == '\t' then ['\\', 't']
  else if ' ' ≤ c && c ≤ '~' then [c]
  else '\\' :: 'x' :: Text.hexDigits b.toNat 2

def writtenBytes (data : List UInt8) : String :=
  let quote := Text.quoteFor (data.map fun b => Char.ofNat b.toNat)
  String.ofList ('b' :: quote :: data.flatMap (writtenByte quote) ++ [quote])

def commaSeparated (texts : List String) : String := ", ".intercalate texts

/-- A tuple of one item keeps a comma, so that it is not read as a parenthesis. -/
def tupleText (texts : List String) : String :=
  match texts with
  | [only] => "(" ++ only ++ ",)"
  | _ => "(" ++ commaSeparated texts ++ ")"

def braced (body : String) : String := "\x7b" ++ body ++ "\x7d"

/-- The text of a value inside another value: texts stand in quotes. -/
def written : Value → Checked String
  | null => .ok "None"
  | bool b => .ok (writtenBool b)
  | int n => writtenInt n
  | float x => .ok x.text
  | text s => .ok (Text.quoted s)
  | list items => do .ok ("[" ++ commaSeparated (← writtenAll items) ++ "]")
  | tuple items => do .ok (tupleText (← writtenAll items))
  | dict entries => do .ok (braced (commaSeparated (← writtenEntries entries)))
  | markup s => .ok ("Markup(" ++ Text.quoted s ++ ")")
  | undefined _ => .ok "Undefined"
  | stream t _ _ => .ok ("<" ++ t ++ " object>")
  | range start stop step =>
    .ok ("range(" ++ Decimal.intString start ++ ", " ++ Decimal.intString stop ++
      (if step = 1 then "" else ", " ++ Decimal.intString step) ++ ")")
  | view .keys entries => do .ok ("dict_keys([" ++ commaSeparated (← writtenKeys entries) ++ "])")
  | view .values entries => do
    .ok ("dict_values([" ++ commaSeparated (← writtenValues entries) ++ "])")
  | view .items entries => do
    .ok ("dict_items([" ++ commaSeparated (← writtenPairs entries) ++ "])")
  | group key members => do
    let k ← key.written
    .ok (tupleText [k, "[" ++ commaSeparated (← writtenAll members) ++ "]"])
  | bytes data => .ok (writtenBytes data)
  | method receiver name => .ok ("<built-in method " ++ name ++ " of " ++ receiver.typeName ++ " object>")
  | formatter _ _ => .ok "<function wrapper>"
  | routine name => .ok ("<function " ++ name ++ ">")
  | constructor name => .ok ("<class '" ++ name ++ "'>")
  | foreign t => .ok ("<" ++ t ++ " object>")
where
  writtenAll : List Value → Checked (List String)
    | [] => .ok []
    | v :: rest => do
      let t ← v.written
      .ok (t :: (← writtenAll rest))
  writtenEntries : List (Value × Value) → Checked (List String)
    | [] => .ok []
    | (k, v) :: rest => do
      let tk ← k.written
      let tv ← v.written
      .ok ((tk ++ ": " ++ tv) :: (← writtenEntries rest))
  writtenKeys : List (Value × Value) → Checked (List String)
    | [] => .ok []
    | (k, _) :: rest => do
      let t ← k.written
      .ok (t :: (← writtenKeys rest))
  writtenValues : List (Value × Value) → Checked (List String)
    | [] => .ok []
    | (_, v) :: rest => do
      let t ← v.written
      .ok (t :: (← writtenValues rest))
  writtenPairs : List (Value × Value) → Checked (List String)
    | [] => .ok []
    | (k, v) :: rest => do
      let tk ← k.written
      let tv ← v.written
      .ok (tupleText [tk, tv] :: (← writtenPairs rest))

/-- The text of a value by itself: a text stands for itself, and a strict absence has no text. -/
def shown : Value → Checked String
  | text s => .ok s
  | markup s => .ok s
  | undefined a => if a.strict then .error a.fault else .ok ""
  | v => v.written

end Value

end Stepwise
