import Stepwise.Number.Reading
import Stepwise.Value.Compare
import Stepwise.Value.Convert

/-!
Reading JSON text into values. Besides the standard it knows `NaN`, `Infinity` and `-Infinity`; of
members with one name the last counts.
-/

namespace Stepwise.Json

/-- What is wrong with a text. -/
inductive Cause where
  | form (text : String)
  /-- An integer of so many digits. -/
  | digits (count : Nat)
  deriving DecidableEq, Repr, Inhabited

/-- What is wrong, and the text from the wrong place on. -/
structure Misread where
  cause : Cause
  rest : List Char

/-- A reader gives what it read and the text after it. -/
abbrev Reader := Except Misread

def isSpace (c : Char) : Bool := c == ' ' || c == '\t' || c == '\n' || c == '\r'

def skipSpace (s : List Char) : List Char := s.dropWhile isSpace

def fail {α : Type} (text : String) (rest : List Char) : Except Misread α :=
  .error ⟨.form text, rest⟩

def isHex (c : Char) : Bool :=
  c.isDigit || ('a' ≤ c && c ≤ 'f') || ('A' ≤ c && c ≤ 'F')

def hexOf (digits : List Char) : Nat :=
  digits.foldl (fun n c => 16 * n + (Reading.digitValue? c).getD 0) 0

/-- The character that a simple escape stands for. -/
def simpleEscape? (c : Char) : Option Char :=
  if c == '"' then some '"'
  else if c == '\\' then some '\\'
  else if c == '/' then some '/'
  else if c == 'b' then some (Char.ofNat 8)
  else if c == 'f' then some (Char.ofNat 12)
  else if c == 'n' then some '\n'
  else if c == 'r' then some '\r'
  else if c == 't' then some '\t'
  else none

/-- Reads four hexadecimal digits that another character follows. -/
def fourDigits? (s : List Char) : Option (Nat × List Char) :=
  let digits := s.take 4
  let rest := s.drop 4
  if digits.length = 4 ∧ digits.all isHex ∧ !rest.isEmpty then some (hexOf digits, rest) else none

/-- Reads the rest of a text whose opening quote stands at the front of `start`. -/
def readText (start : List Char) : Nat → List Char → List Char → Reader (String × List Char)
  | 0, _, _ => fail "Unterminated string starting at" start
  | fuel + 1, done, s =>
    match s with
    | [] => fail "Unterminated string starting at" start
    | '"' :: rest => .ok (String.ofList done.reverse, rest)
    | '\\' :: [] => fail "Unterminated string starting at" start
    | '\\' :: 'u' :: rest =>
      match fourDigits? rest with
      | none => fail "Invalid \\uXXXX escape" ('u' :: rest)
      | some (high, after) =>
        let single := readText start fuel (Char.ofNat high :: done) after
        if 0xd800 ≤ high ∧ high < 0xdc00 then
          match after with
          | '\\' :: 'u' :: more =>
            match fourDigits? more with
            | some (low, beyond) =>
              if 0xdc00 ≤ low ∧ low < 0xe000 then
                let code := 0x10000 + (high - 0xd800) * 0x400 + (low - 0xdc00)
                readText start fuel (Char.ofNat code :: done) beyond
              else single
            | none => single
          | _ => single
        else single
    | '\\' :: c :: rest =>
      match simpleEscape? c with
      | some e => readText start fuel (e :: done) rest
      | none => fail "Invalid \\escape" s
    | c :: rest =>
      if c.toNat < 0x20 then fail "Invalid control character at" s
      else readText start fuel (c :: done) rest

/-- Splits a number off the front: its sign, digits, fraction and exponent. -/
def splitNumber? (s : List Char) : Option (List Char × Bool × List Char) :=
  let (sign, body) := match s with
    | '-' :: rest => (['-'], rest)
    | _ => ([], s)
  let whole := match body with
    | '0' :: _ => ['0']
    | _ => body.takeWhile Char.isDigit
  if whole.isEmpty then none
  else
    let afterWhole := body.drop whole.length
    let fraction := match afterWhole with
      | '.' :: rest =>
        let digits := rest.takeWhile Char.isDigit
        if digits.isEmpty then [] else '.' :: digits
      | _ => []
    let afterFraction := afterWhole.drop fraction.length
    let exponent := match afterFraction with
      | e :: rest =>
        if e == 'e' || e == 'E' then
          let sign := match rest with
            | '-' :: _ => ['-']
            | '+' :: _ => ['+']
            | _ => []
          let digits := (rest.drop sign.length).takeWhile Char.isDigit
          if digits.isEmpty then [] else e :: sign ++ digits
        else []
      | [] => []
    let isWhole := fraction.isEmpty && exponent.isEmpty
    some (sign ++ whole ++ fraction ++ exponent, isWhole, afterFraction.drop exponent.length)

/-- Takes a word off the front. -/
def word? (w : String) (s : List Char) : Option (List Char) :=
  let chars := w.toList
  if chars.isPrefixOf s then some (s.drop chars.length) else none

/-- Words that stand for values. -/
def literals : List (String × Value) :=
  [("null", .null), ("true", .bool true), ("false", .bool false), ("NaN", .float .nan),
    ("Infinity", .float (.infinite false)), ("-Infinity", .float (.infinite true))]

def readNumber (s : List Char) : Reader (Value × List Char) :=
  match splitNumber? s with
  | none => fail "Expecting value" s
  | some (digits, true, rest) =>
    match Reading.int? 10 (String.ofList digits) with
    | .ok n => .ok (.int n, rest)
    | .error (.tooLong n) => .error ⟨.digits n, s⟩
    | .error .malformed => fail "Expecting value" s
  | some (digits, false, rest) =>
    match Reading.float? (String.ofList digits) with
    | some x => .ok (.float x, rest)
    | none => fail "Expecting value" s

def readLiteral (s : List Char) : Reader (Value × List Char) :=
  match literals.findSome? fun (w, v) => (word? w s).map fun rest => (v, rest) with
  | some found => .ok found
  | none => readNumber s

mutual

def readValue : Nat → List Char → Reader (Value × List Char)
  | 0, s => fail "Expecting value" s
  | fuel + 1, s =>
    match s with
    | '"' :: rest => do
      let (t, after) ← readText s s.length [] rest
      .ok (.text t, after)
    | '[' :: rest =>
      match skipSpace rest with
      | ']' :: after => .ok (.list [], after)
      | body => do
        let (items, after) ← readItems fuel [] body
        .ok (.list items, after)
    | '\x7b' :: rest =>
      match skipSpace rest with
      | '\x7d' :: after => .ok (.dict [], after)
      | body => do
        let (entries, after) ← readMembers fuel [] body
        .ok (.dict entries, after)
    | _ => readLiteral s

def readItems : Nat → List Value → List Char → Reader ((List Value) × List Char)
  | 0, _, s => fail "Expecting value" s
  | fuel + 1, done, s => do
    let (item, after) ← readValue fuel s
    match skipSpace after with
    | ']' :: rest => .ok ((item :: done).reverse, rest)
    | ',' :: rest => readItems fuel (item :: done) (skipSpace rest)
    | rest => fail "Expecting ',' delimiter" rest

def readMembers : Nat → List (Value × Value) → List Char → Reader ((List (Value × Value)) × List Char)
  | 0, _, s => fail "Expecting value" s
  | fuel + 1, done, s =>
    match s with
    | '"' :: body => do
      let (name, after) ← readText s s.length [] body
      match skipSpace after with
      | ':' :: rest => do
        let (value, after) ← readValue fuel (skipSpace rest)
        let entries := Value.put done (.text name) value
        match skipSpace after with
        | '\x7d' :: rest => .ok (entries, rest)
        | ',' :: rest => readMembers fuel entries (skipSpace rest)
        | rest => fail "Expecting ',' delimiter" rest
      | rest => fail "Expecting ':' delimiter" rest
    | rest => fail "Expecting property name enclosed in double quotes" rest

end

/-- Where a reader stopped. -/
structure Position where
  index : Nat
  line : Nat
  column : Nat
  deriving DecidableEq, Repr

def positionOf (whole rest : List Char) : Position :=
  let index := whole.length - rest.length
  let before := whole.take index
  let lastLine := (before.reverse.takeWhile (· != '\n')).length
  ⟨index, before.count '\n' + 1, lastLine + 1⟩

/-- A text that is no JSON: the cause and its place. -/
structure ReadError where
  cause : Cause
  position : Position

/-- Reads a whole text. -/
def parse (s : String) : Except ReadError Value :=
  let chars := s.toList
  let located (m : Misread) : ReadError := ⟨m.cause, positionOf chars m.rest⟩
  if chars.head? = some '\ufeff' then
    .error ⟨.form "Unexpected UTF-8 BOM (decode using utf-8-sig)", ⟨0, 1, 1⟩⟩
  else
    match readValue (chars.length + 1) (skipSpace chars) with
    | .error m => .error (located m)
    | .ok (v, rest) =>
      match skipSpace rest with
      | [] => .ok v
      | extra => .error (located ⟨.form "Extra data", extra⟩)

def ReadError.fault (e : ReadError) : Fault :=
  match e.cause with
  | .form text => .badJson text e.position.line e.position.column e.position.index
  | .digits n => .digitLimitReading n

end Stepwise.Json
