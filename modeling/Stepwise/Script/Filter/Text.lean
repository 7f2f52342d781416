import Stepwise.Json.Writing
import Stepwise.Script.Method.Text
import Stepwise.Value.Directives

/-!
Filters on texts. A value that is no text is shown first; an escaped text stays escaped where only
its own characters are used.
-/

namespace Stepwise.Script.TextFilter

open Value (text markup list int)

/-- A text as it is, anything else as it is shown. -/
def soft (v : Value) : Checked Value :=
  match v with
  | text _ | markup _ => .ok v
  | v => do return text (← v.shown)

/-- Calls a method of the text of a value. -/
def viaMethod (name : String) (v : Value) (args : List Value) : Checked Value := do
  let s ← soft v
  let source := (s.textOf?).getD ""
  let escapes := match s with
    | markup _ => true
    | _ => false
  (TextMethod.call? escapes source name ⟨args, []⟩).getD (.ok s)

/-! ### Words -/

/-- Characters after which a word begins. -/
def beginsWord (c : Char) : Bool :=
  c == '-' || c == '(' || c == '\x7b' || c == '[' || c == '<' || Text.isBlank c

/-- Every word with a capital, and the rest of it in small letters. -/
def titleWords : Nat → List Char → List Char
  | 0, _ => []
  | fuel + 1, s =>
    let gap := s.takeWhile beginsWord
    let rest := s.drop gap.length
    let word := rest.takeWhile fun c => !beginsWord c
    match word with
    | [] => gap
    | c :: tail =>
      gap ++ Text.upperChar c ++ Text.lower tail ++ titleWords fuel (rest.drop word.length)

def title (v : Value) : Checked Value := do
  let s ← soft v
  let chars := ((s.textOf?).getD "").toList
  return text (String.ofList (titleWords (chars.length + 1) chars))

/-- How many stretches of word characters there are. -/
def countWords (inWord : Bool) : List Char → Nat
  | [] => 0
  | c :: rest =>
    if Text.isWordChar c then (if inWord then 0 else 1) + countWords true rest
    else countWords false rest

def wordCount (v : Value) : Checked Value := do
  let s ← soft v
  return int (countWords false ((s.textOf?).getD "").toList)

/-! ### Parts -/

def replace (v old new count : Value) : Checked Value := do
  let s ← v.shown
  let old ← old.shown
  let new ← new.shown
  let most ← match count with
    | .null => pure (s.length + 1)
    | n => TextMethod.limit n s.length
  return text (String.ofList (Text.replace old.toList new.toList most s.toList))

/-- Cuts a value to a length, at a blank unless `killWords`, and ends it with `ending`. -/
def truncate (v length killWords ending leeway : Value) : Checked Value := do
  let leeway := match leeway with
    | .null => int 5
    | n => n
  let ended := int (← ending.length)
  if !(← Value.ordered .ge length ended) then
    throw (.badArgument ("expected length >= " ++ (← ended.shown) ++ ", got " ++ (← length.shown)))
  if !(← Value.ordered .ge leeway (int 0)) then
    throw (.badArgument ("expected leeway >= 0, got " ++ (← leeway.shown)))
  if ← Value.ordered .le (int (← v.length)) (← Value.add length leeway) then return v
  let kept ← v.slice .null (← Value.sub length ended) .null
  if ← killWords.truthy then Value.add kept ending
  else
    match kept with
    | text s | markup s =>
      let first := ((Text.splitAtTextRight [' '] 1 s.toList).head?).getD []
      let cut := match kept with
        | markup _ => markup (String.ofList first)
        | _ => text (String.ofList first)
      Value.add cut ending
    | v => throw (.noAttribute v.typeName "rsplit")

/-- Lines after the first one, or all of them, moved to the right. -/
def indent (v width first blank : Value) : Checked Value := do
  let indention ← match width with
    | text s | markup s => pure s
    | n =>
      match n.intOf? with
      | some k => Value.repeatText " " k
      | none =>
        match n with
        | .undefined a => throw a.fault
        | _ => throw (.repetition n.typeName)
  match v with
  | text s | markup s =>
    let escapes := match v with
      | markup _ => true
      | _ => false
    let gap := indention.toList
    let lines := Text.splitLines false [] (s.toList ++ ['\n'])
    let body ← if ← blank.truthy then
        pure (('\n' :: gap).intercalate lines)
      else
        match lines with
        | [] => pure []
        | head :: [] => pure head
        | head :: rest =>
          pure (head ++ '\n' ::
            ['\n'].intercalate (rest.map fun l => if l.isEmpty then l else gap ++ l))
    let body := if ← first.truthy then gap ++ body else body
    let result := String.ofList body
    return if escapes then markup result else text result
  | .undefined a => throw a.fault
  | list _ => throw (.noAttribute "list" "splitlines")
  | v => throw (.operands "+=" v.typeName "str")

/-! ### Encodings -/

def isUnreserved (c : Char) : Bool :=
  Text.isAsciiLetter c || Text.isAsciiDigit c || c == '_' || c == '.' || c == '-' || c == '~'

/-- Percent escapes for the bytes of a text; in a query a blank becomes a plus. -/
def percentEscaped (query : Bool) (data : List UInt8) : String :=
  String.ofList (data.flatMap fun b =>
    let c := Char.ofNat b.toNat
    if b.toNat < 128 && (isUnreserved c || (!query && c == '/')) then [c]
    else if query && c == ' ' then ['+']
    else '%' :: (Text.hexDigits b.toNat 2).map Char.toUpper)

def percentText (query : Bool) (v : Value) : Checked String := do
  match v with
  | .bytes data => return percentEscaped query data
  | v => return percentEscaped query (TextMethod.utf8 (← v.shown))

/-- A pair of a query. -/
def queryPair (v : Value) : Checked String := do
  match ← v.allItems with
  | [k, w] => return (← percentText true k) ++ "=" ++ (← percentText true w)
  | [] => throw (.unpackTooFew 2 0)
  | [_] => throw (.unpackTooFew 2 1)
  | _ => throw (.unpackTooMany 2)

/-- A text in percent escapes, or the pairs of a mapping or a sequence as a query. -/
def urlEncode (v : Value) : Checked Value := do
  match v with
  | .dict entries => pairs (entries.map fun (k, w) => .tuple [k, w])
  | .list _ | .tuple _ | .group .. | .stream .. | .view .. | .range .. | .bytes _ | .undefined _ =>
    pairs (← v.allItems)
  | v => return text (← percentText false v)
where
  pairs (items : List Value) : Checked Value := do
    return text ("&".intercalate (← items.mapM queryPair))

/-- Characters that JSON text inside markup may not hold. -/
def markupSafe (s : String) : String :=
  String.ofList (s.toList.flatMap fun c =>
    if c == '<' then "\\u003c".toList
    else if c == '>' then "\\u003e".toList
    else if c == '&' then "\\u0026".toList
    else if c == '\'' then "\\u0027".toList
    else [c])

/-- JSON text with sorted members, safe inside markup. -/
def toJson (v indent : Value) : Checked Value := do
  let style ← match indent with
    | .null => pure ({ sortKeys := true } : Json.Style)
    | text s | markup s => pure { sortKeys := true, indent := some s }
    | n =>
      match n.intOf? with
      | some k => do pure { sortKeys := true, indent := some (← Value.repeatText " " k) }
      | none =>
        match n with
        | .undefined a => throw a.fault
        | _ => throw (.repetition n.typeName)
  return markup (markupSafe (← Json.render style v))

/-- Directives filled in from the arguments of a call, all by position or all by name. -/
def format (v : Value) (args : Arguments) : Checked Value := do
  if !args.positional.isEmpty && !args.named.isEmpty then
    throw (.filterArgument "can't handle positional and keyword arguments at the same time")
  let s ← soft v
  let arguments := if args.named.isEmpty then .tuple args.positional else Value.ofFields args.named
  Value.mod s arguments

end Stepwise.Script.TextFilter
