import Stepwise.Script.Arguments
import Stepwise.Text.Case
import Stepwise.Text.Search
import Stepwise.Value.Subscript

/-!
The methods of texts. A method of an escaped text gives escaped text again.
-/

namespace Stepwise.Script.TextMethod

open Value (text markup list tuple int bool bytes)

/-- The longest text that padding may give. -/
def maxWidth : Nat := Value.maxRepeated

/-- An argument that has to be an integer. -/
def whole (v : Value) : Checked Int :=
  match v.intOf? with
  | some n => if Nat.pow 2 63 ≤ n ∨ n < -(Nat.pow 2 63) then .error .intTooLargeForWord else .ok n
  | none => .error (.notAnInteger v.typeName)

def width (v : Value) : Checked Nat := do
  let n ← whole v
  if maxWidth < n.toNat then throw .repetitionTooLarge
  return n.toNat

/-- A count that is unlimited where it is negative. -/
def limit (v : Value) (length : Nat) : Checked Nat := do
  let n ← whole v
  return if n < 0 then length + 1 else min n.toNat (length + 1)

/-- The text of an argument, or a fault in the given words followed by its type. -/
def textArgument (refusal : String) (v : Value) : Checked (List Char) :=
  match v.textOf? with
  | some s => .ok s.toList
  | none => .error (.badCall (refusal ++ v.typeName))

/-- The same, where messages call nothing by its own name. -/
def declaredText (refusal : String) (v : Value) : Checked (List Char) :=
  match v with
  | .null => .error (.badCall (refusal ++ "None"))
  | v => textArgument refusal v

/-- The part of a text that two bounds leave, and where it begins; `none` where it begins past the
end. -/
def searched (s : List Char) (bounds : List Value) : Checked (Option (Nat × List Char)) := do
  let n : Int := s.length
  let low ← Value.sliceBound? (bounds[0]?.getD Value.null)
  let high ← Value.sliceBound? (bounds[1]?.getD Value.null)
  let place (i : Int) : Int := if i < 0 then max 0 (i + n) else i
  let low := (low.map place).getD 0
  let high := min ((high.map place).getD n) n
  if high < low then return none
  return some (low.toNat, (s.drop low.toNat).take (high - low).toNat)

/-- Looks for a text in a part that begins at some place. -/
def locate (last : Bool) (needle : List Char) : Option (Nat × List Char) → Option Nat
  | none => none
  | some (low, part) =>
    (if last then Text.findLast? needle part else Text.find? needle part).map (· + low)

/-- Does a part begin, or end, with the text? -/
def borders (atEnd : Bool) (needle : List Char) : Option (Nat × List Char) → Bool
  | none => false
  | some (_, part) => if atEnd then needle.isSuffixOf part else needle.isPrefixOf part

def bordersAny (atEnd : Bool) (name : String) (part : Option (Nat × List Char)) :
    List Value → Checked Bool
  | [] => .ok false
  | v :: rest => do
    let needle ← textArgument ("tuple for " ++ name ++ " must only contain str, not ") v
    if borders atEnd needle part then return true
    bordersAny atEnd name part rest

def bordering (atEnd : Bool) (name : String) (s : List Char) (args : List Value) : Checked Value := do
  let part ← searched s (args.drop 1)
  let sought := args[0]?.getD Value.null
  match sought.tupleOf? with
  | some xs => return bool (← bordersAny atEnd name part xs)
  | none =>
    let needle ← textArgument (name ++ " first arg must be str or a tuple of str, not ") sought
    return bool (borders atEnd needle part)

/-- The characters that trimming takes off. -/
def trimmed (name : String) (args : List Value) : Checked (Char → Bool) :=
  match args[0]?.getD .null with
  | .null => .ok Text.isBlank
  | v =>
    match v.textOf? with
    | some chars => .ok fun c => chars.toList.contains c
    | none => .error (.badCall (name ++ " arg must be None or str"))

def splitting (right : Bool) (name : String) (wrap : List Char → Value) (s : List Char)
    (args : Arguments) : Checked Value := do
  let values ← args.free name [("sep", .null), ("maxsplit", .int (-1))]
  let most ← limit (values[1]?.getD .null) s.length
  match values[0]?.getD .null with
  | .null =>
    let parts := if right then Text.splitBlankRight most s else Text.splitBlank (s.length + 1) most s
    return list (parts.map wrap)
  | v =>
    match v.textOf? with
    | none => throw (.badCall ("must be str or None, not " ++ v.typeName))
    | some "" => throw .emptySeparator
    | some sep =>
      let parts := if right then Text.splitAtTextRight sep.toList most s
        else Text.splitAtText sep.toList most s
      return list (parts.map wrap)

/-- The items of a text's list, each one a text. -/
def joinedItems (escape : Bool) (index : Nat) : List Value → Checked (List String)
  | [] => .ok []
  | v :: rest => do
    let s ← if escape then v.escaped
      else match v.textOf? with
        | some s => .ok s
        | none => .error (.joinItem index v.typeName)
    return s :: (← joinedItems escape (index + 1) rest)

def join (escape : Bool) (s : String) (v : Value) : Checked String := do
  let items ← match v.items with
    | .ok (items, none) => .ok items
    | .ok (_, some fault) => .error fault
    | .error (.notIterable _) => .error .joinOperand
    | .error fault => .error fault
  return s.intercalate (← joinedItems escape 0 items)

def partition (right : Bool) (wrap : List Char → Value) (s sep : List Char) : Value :=
  match if right then Text.findLast? sep s else Text.find? sep s with
  | some i => tuple [wrap (s.take i), wrap sep, wrap (s.drop (i + sep.length))]
  | none =>
    if right then tuple [wrap [], wrap [], wrap s] else tuple [wrap s, wrap [], wrap []]

def fillCharacter : Option Value → Checked Char
  | none => .ok ' '
  | some v =>
    match v.textOf? with
    | none => .error (.badCall ("The fill character must be a unicode character, not " ++ v.typeName))
    | some s =>
      match s.toList with
      | [c] => .ok c
      | _ => .error (.badCall "The fill character must be exactly one character long")

/-- A character replaced as a table says: by nothing, by a text, or by a character code. -/
def translateChar (table : Value) (c : Char) : Checked (List Char) := do
  match ← table.subscript? (.int c.toNat) with
  | none =>
    match table with
    | .dict _ | .list _ | .tuple _ | .text _ => return [c]
    | _ => throw (.notSubscriptable table.typeName)
  | some .null => return []
  | some v =>
    match v.textOf?, v.intOf? with
    | some s, _ => return s.toList
    | none, some n =>
      if 0 ≤ n ∧ n < 0x110000 then return [Char.ofNat n.toNat]
      else throw (.badArgument "character mapping must be in range(0x110000)")
    | none, none => throw (.badCall "character mapping must return integer, None or str")

def allOf (p : Char → Bool) (s : List Char) : Bool := !s.isEmpty && s.all p

/-- All cased characters of one case, and at least one of them. -/
def uniform (wanted unwanted : Char → Bool) (s : List Char) : Bool :=
  s.any wanted && !s.any fun c => unwanted c || Text.isTitle c

/-- Capitals begin the words and only the words. -/
def isTitled (previous found : Bool) : List Char → Bool
  | [] => found
  | c :: rest =>
    if Text.isUpper c || Text.isTitle c then !previous && isTitled true true rest
    else if Text.isLower c then previous && isTitled true true rest
    else isTitled false found rest

def utf8 (s : String) : List UInt8 := s.toUTF8.toList

/-- One byte for each character, where none is above `top`. -/
def singleBytes (top : Nat) (label size : String) (s : List Char) : Checked (List UInt8) :=
  match s.findIdx? fun c => top < c.toNat with
  | none => .ok (s.map fun c => c.toNat.toUInt8)
  | some i =>
    .error (.badEncoding ("'" ++ label ++ "' codec can't encode character '" ++
      String.ofList (Text.codeEscape (s[i]?.getD ' ')) ++ "' in position " ++ toString i ++
      ": ordinal not in range(" ++ size ++ ")"))

/-- The bytes of a text under the encodings that scripts name. -/
def encode (s : String) (args : Arguments) : Checked Value := do
  let values ← args.free "encode" [("encoding", text "utf-8"), ("errors", text "strict")]
  let encoding := values[0]?.getD Value.null
  match encoding.textOf? with
  | none =>
    let _ ← declaredText "encode() argument 'encoding' must be str, not " encoding
    return encoding
  | some name =>
    let _ ← declaredText "encode() argument 'errors' must be str, not " (values[1]?.getD Value.null)
    let plain := (Text.lowerString name).map fun c => if c == '_' then '-' else c
    if plain == "utf-8" || plain == "utf8" then return bytes (utf8 s)
    else if plain == "ascii" then return bytes (← singleBytes 127 "ascii" "128" s.toList)
    else if plain == "latin-1" || plain == "iso-8859-1" || plain == "latin1" then
      return bytes (← singleBytes 255 "latin-1" "256" s.toList)
    else throw (Fault.badEncoding ("unknown encoding: " ++ name))

/-- The tests and the changes of case that take no argument. -/
def plainMethod? (name : String) : Option (List Char → (List Char → Value) → Value) :=
  match name with
  | "upper" => some fun s wrap => wrap (Text.upper s)
  | "lower" => some fun s wrap => wrap (Text.lower s)
  | "title" => some fun s wrap => wrap (Text.title s)
  | "capitalize" => some fun s wrap => wrap (Text.capitalize s)
  | "swapcase" => some fun s wrap => wrap (Text.swapCase s)
  | "casefold" => some fun s wrap => wrap (Text.fold s)
  | "isalpha" => some fun s _ => bool (allOf Text.isAlpha s)
  | "isalnum" => some fun s _ => bool (allOf Text.isAlnum s)
  | "isdigit" => some fun s _ => bool (allOf Text.isDigit s)
  | "isdecimal" => some fun s _ => bool (allOf Text.isDecimal s)
  | "isnumeric" => some fun s _ => bool (allOf Text.isNumeric s)
  | "isspace" => some fun s _ => bool (allOf Text.isBlank s)
  | "isascii" => some fun s _ => bool (s.all Text.isAscii)
  | "isprintable" => some fun s _ => bool (s.all Text.isPrintable)
  | "isidentifier" => some fun s _ => bool (Text.isIdentifier s)
  | "isupper" => some fun s _ => bool (uniform Text.isUpper Text.isLower s)
  | "islower" => some fun s _ => bool (uniform Text.isLower Text.isUpper s)
  | "istitle" => some fun s _ => bool (isTitled false false s)
  | _ => none

/-- Calls a method of a text; `none` for a name that is no method. -/
def call? (escapes : Bool) (source : String) (name : String) (args : Arguments) :
    Option (Checked Value) :=
  let s := source.toList
  let label := "str." ++ name
  let wrap (chars : List Char) : Value :=
    if escapes then markup (String.ofList chars) else text (String.ofList chars)
  match plainMethod? name with
  | some method => some do
    args.none label
    return method s wrap
  | none =>
    match name with
    | "center" | "ljust" | "rjust" => some do
      let values ← args.between label name 1 2
      let n ← width (values[0]?.getD .null)
      let fill ← fillCharacter values[1]?
      return wrap (if name == "center" then Text.center n fill s
        else if name == "ljust" then Text.padRight n fill s else Text.padLeft n fill s)
    | "zfill" => some do return wrap (Text.zeroFill (← width (← args.one label)) s)
    | "find" | "rfind" | "index" | "rindex" => some do
      let values ← args.searching name 1 3
      let part ← searched s (values.drop 1)
      let needle ← textArgument "must be str, not " (values[0]?.getD .null)
      match locate (name == "rfind" || name == "rindex") needle part with
      | some i => return int i
      | none => if name == "find" || name == "rfind" then return int (-1) else throw .substringMissing
    | "count" => some do
      let values ← args.searching name 1 3
      let part ← searched s (values.drop 1)
      let needle ← textArgument "must be str, not " (values[0]?.getD .null)
      match part with
      | none => return int 0
      | some (_, part) => return int (Text.count needle part)
    | "startswith" => some do bordering false name s (← args.searching name 1 3)
    | "endswith" => some do bordering true name s (← args.searching name 1 3)
    | "strip" => some do
      return wrap (Text.trimBy (← trimmed name (← args.between label name 0 1)) s)
    | "lstrip" => some do
      return wrap (Text.trimLeftBy (← trimmed name (← args.between label name 0 1)) s)
    | "rstrip" => some do
      return wrap (Text.trimRightBy (← trimmed name (← args.between label name 0 1)) s)
    | "split" => some (splitting false name wrap s args)
    | "rsplit" => some (splitting true name wrap s args)
    | "splitlines" => some do
      let values ← args.free name [("keepends", .bool false)]
      let keep ← whole (values[0]?.getD .null)
      return list ((Text.splitLines (keep != 0) [] s).map wrap)
    | "expandtabs" => some do
      let values ← args.free name [("tabsize", .int 8)]
      return wrap (Text.expandTabs (← width (values[0]?.getD .null)) 0 s)
    | "join" => some do
      let joined ← join escapes source (← args.one label)
      return wrap joined.toList
    | "partition" | "rpartition" => some do
      let sep ← textArgument "must be str, not " (← args.one label)
      if sep.isEmpty then throw .emptySeparator
      return partition (name == "rpartition") wrap s sep
    | "removeprefix" => some do
      let part ← declaredText (name ++ "() argument must be str, not ") (← args.one label)
      return wrap (if part.isPrefixOf s then s.drop part.length else s)
    | "removesuffix" => some do
      let part ← declaredText (name ++ "() argument must be str, not ") (← args.one label)
      return wrap (if part.isSuffixOf s then s.take (s.length - part.length) else s)
    | "replace" => some do
      let values ← args.between label name 2 3
      let old ← declaredText "replace() argument 1 must be str, not " (values[0]?.getD .null)
      let new ← declaredText "replace() argument 2 must be str, not " (values[1]?.getD .null)
      let escapedNew ← Value.escaped (values[1]?.getD .null)
      let new := if escapes then escapedNew.toList else new
      let most ← match values[2]? with
        | some v => limit v s.length
        | none => pure (s.length + 1)
      return wrap (Text.replace old new most s)
    | "translate" => some do
      let table ← args.one label
      return wrap (← s.mapM (translateChar table)).flatten
    | "encode" => some (encode source args)
    | _ => none

end Stepwise.Script.TextMethod
