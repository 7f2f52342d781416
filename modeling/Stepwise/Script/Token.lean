import Stepwise.Number.Reading
import Stepwise.Text.Class
import Stepwise.Text.Escapes
import Stepwise.Fault

/-!
Tokens of a script. Scanning stops at the first character that begins no token; the parser meets that
fault only if it reads so far.
-/

namespace Stepwise.Script

inductive Lexeme where
  | name (s : String)
  | text (s : String)
  | whole (n : Nat)
  | decimal (x : Binary64)
  | sign (s : String)
  /-- Two closing braces outside all brackets; no expression goes on after them. -/
  | close
  deriving DecidableEq, Repr, Inhabited

structure Token where
  lexeme : Lexeme
  line : Nat
  deriving DecidableEq, Repr, Inhabited

namespace Token

/-- How messages name a lexeme. -/
def describe : Lexeme → String
  | .name s => s
  | .text _ => "string"
  | .whole _ => "integer"
  | .decimal _ => "float"
  | .sign s => s
  | .close => "end of print statement"

/-! ### Numbers -/

/-- Digits that may be separated by single underscores. -/
def moreDigits : List Char → List Char
  | '_' :: c :: rest => if Text.isDecimal c then '_' :: c :: moreDigits rest else []
  | c :: rest => if Text.isDecimal c then c :: moreDigits rest else []
  | [] => []

/-- A run of digits that begins with a digit. -/
def digitRun (s : List Char) : List Char :=
  match s with
  | c :: rest => if Text.isDecimal c then c :: moreDigits rest else []
  | [] => []

def isExponentMark (c : Char) : Bool := c == 'e' || c == 'E'

/-- A power of ten: mark, sign and digits. -/
def exponentRun (s : List Char) : List Char :=
  match s with
  | mark :: rest =>
    if isExponentMark mark then
      let sign := match rest with
        | '+' :: _ => ['+']
        | '-' :: _ => ['-']
        | _ => []
      let digits := digitRun (rest.drop sign.length)
      if digits.isEmpty then [] else mark :: sign ++ digits
    else []
  | [] => []

/-- A point and digits. -/
def fractionRun (s : List Char) : List Char :=
  match s with
  | '.' :: rest =>
    let digits := digitRun rest
    if digits.isEmpty then [] else '.' :: digits
  | _ => []

/-- A decimal number with a fraction or a power of ten. -/
def decimalRun (s : List Char) : List Char :=
  let whole := digitRun s
  if whole.isEmpty then []
  else
    let fraction := fractionRun (s.drop whole.length)
    let exponent := exponentRun (s.drop (whole.length + fraction.length))
    if fraction.isEmpty && exponent.isEmpty then [] else whole ++ fraction ++ exponent

/-- Digits of a marked base, each of which an underscore may precede. -/
def markedDigits (p : Char → Bool) : List Char → List Char
  | '_' :: c :: rest => if p c then '_' :: c :: markedDigits p rest else []
  | c :: rest => if p c then c :: markedDigits p rest else []
  | [] => []

/-- The digits of a base by the mark after a leading zero. -/
def markedRun (s : List Char) : List Char :=
  match s with
  | '0' :: mark :: rest =>
    let digits :=
      if mark == 'b' || mark == 'B' then markedDigits (fun c => c == '0' || c == '1') rest
      else if mark == 'o' || mark == 'O' then markedDigits Text.isOctalDigit rest
      else if mark == 'x' || mark == 'X' then
        markedDigits (fun c => Text.isHexDigit c || Text.isDecimal c) rest
      else []
    if digits.isEmpty then [] else '0' :: mark :: digits
  | _ => []

/-- A whole number: with a base mark, or without leading zeros, or nothing but zeros. -/
def wholeRun (s : List Char) : List Char :=
  let marked := markedRun s
  if !marked.isEmpty then marked
  else
    match s with
    | '0' :: rest => '0' :: markedDigits (· == '0') rest
    | c :: rest => if '1' ≤ c && c ≤ '9' then c :: moreDigits rest else []
    | [] => []

/-! ### Texts and signs -/

/-- The body of a text up to its closing quote. -/
def textBody (quote : Char) : List Char → Option (List Char)
  | [] => none
  | ['\\'] => none
  | '\\' :: c :: rest => (textBody quote rest).map ('\\' :: c :: ·)
  | c :: rest => if c == quote then some [] else (textBody quote rest).map (c :: ·)

def signs : List String :=
  ["//", "**", "==", "!=", ">=", "<=", "+", "-", "/", "*", "%", "~", "[", "]", "(", ")", "\x7b",
    "\x7d", ">", "<", "=", ".", ":", "|", ",", ";"]

def findSign? (s : List Char) : Option String := signs.find? fun w => w.toList.isPrefixOf s

/-- The closing bracket of an opening one. -/
def closer? (sign : String) : Option String :=
  match sign with
  | "\x7b" => some "\x7d"
  | "(" => some ")"
  | "[" => some "]"
  | _ => none

def isCloser (sign : String) : Bool := sign == "\x7d" || sign == ")" || sign == "]"

/-- The brackets that are still open, innermost first, after a sign. -/
def balance (opened : List String) (sign : String) : Checked (List String) :=
  match closer? sign with
  | some right => .ok (right :: opened)
  | none =>
    if isCloser sign then
      match opened with
      | [] => .error (.scriptForm ("unexpected '" ++ sign ++ "'"))
      | expected :: rest =>
        if expected = sign then .ok rest
        else .error (.scriptForm ("unexpected '" ++ sign ++ "', expected '" ++ expected ++ "'"))
    else .ok opened

/-! ### Scanning -/

/-- One token, the text after it and the brackets open after it; no token for a stretch of blanks. -/
structure Scanned where
  lexeme : Option Lexeme
  length : Nat
  opened : List String

def wholeValue (chars : List Char) : Checked Nat :=
  let text := String.ofList (chars.filter (· != '_'))
  match Reading.int? 0 text with
  | .ok n => .ok n.natAbs
  | .error (.tooLong digits) => .error (.digitLimitReading digits)
  | .error .malformed => .error (.scriptForm ("invalid literal " ++ text))

def decimalValue (chars : List Char) : Binary64 :=
  (Reading.float? (String.ofList (chars.filter (· != '_')))).getD Binary64.zero

/-- Marks that identifiers may go on with and scripts do not know: those that are newer than edition 11
of the database, each stretch by its first and last code point. -/
def lateMarks : List (Nat × Nat) :=
  [(0x898, 0x89f), (0x8ca, 0x8d2), (0xb55, 0xb55), (0xc3c, 0xc3c), (0xd81, 0xd81),
    (0xeba, 0xeba), (0x1715, 0x1715), (0x180f, 0x180f), (0x1abf, 0x1ace), (0x1dfa, 0x1dfa),
    (0xa82c, 0xa82c), (0x10eab, 0x10eac), (0x10f82, 0x10f85), (0x11070, 0x11070),
    (0x11073, 0x11074), (0x110c2, 0x110c2), (0x111ce, 0x111cf), (0x11930, 0x11935),
    (0x11937, 0x11938), (0x1193b, 0x1193e), (0x11940, 0x11940), (0x11942, 0x11943),
    (0x119d1, 0x119d7), (0x119da, 0x119e0), (0x119e4, 0x119e4), (0x16f4f, 0x16f4f),
    (0x16f7f, 0x16f87), (0x16fe4, 0x16fe4), (0x16ff0, 0x16ff1), (0x1cf00, 0x1cf2d),
    (0x1cf30, 0x1cf46), (0x1e130, 0x1e136), (0x1e2ae, 0x1e2ae), (0x1e2ec, 0x1e2ef)]

def isLateMark (c : Char) : Bool := lateMarks.any fun m => m.1 ≤ c.toNat && c.toNat ≤ m.2

def nameChar (c : Char) : Bool :=
  Text.isWordChar c || (Text.isIdentifierContinue c && !isLateMark c)

def closesExpression (opened : List String) (s : List Char) : Bool :=
  opened.isEmpty &&
    (['\x7d', '\x7d'].isPrefixOf s || ['-', '\x7d', '\x7d'].isPrefixOf s)

/-- The first token of a non-empty text at an index of the whole script. -/
def scanOne (opened : List String) (previous : Char) (index : Nat) (s : List Char) :
    Checked Scanned :=
  let blanks := s.takeWhile Text.isBlank
  let decimal := if previous == '.' then [] else decimalRun s
  let whole := wholeRun s
  let name := s.takeWhile nameChar
  if closesExpression opened s then .ok ⟨some .close, s.length, opened⟩
  else if !blanks.isEmpty then .ok ⟨none, blanks.length, opened⟩
  else if !decimal.isEmpty then .ok ⟨some (.decimal (decimalValue decimal)), decimal.length, opened⟩
  else if !whole.isEmpty then do
    .ok ⟨some (.whole (← wholeValue whole)), whole.length, opened⟩
  else if !name.isEmpty then
    if Text.isIdentifier name then .ok ⟨some (.name (String.ofList name)), name.length, opened⟩
    else .error (.scriptForm "Invalid character in identifier")
  else
    match s with
    | [] => .ok ⟨none, 1, opened⟩
    | c :: rest =>
      let unexpected : Fault :=
        .scriptForm ("unexpected char " ++ Text.quoted (String.singleton c) ++ " at " ++
          Decimal.natString index)
      if c == '\'' || c == '"' then
        match textBody c rest with
        | none => .error unexpected
        | some body =>
          match Text.unescape body with
          | .error e => .error (.scriptForm e.message)
          | .ok chars => .ok ⟨some (.text (String.ofList chars)), body.length + 2, opened⟩
      else
        match findSign? s with
        | none => .error unexpected
        | some sign => do .ok ⟨some (.sign sign), sign.length, ← balance opened sign⟩

/-- The tokens of a script, and the fault at which scanning stopped. -/
structure Tokens where
  tokens : List Token
  failure : Option Fault

def scanFrom : Nat → List String → Char → Nat → Nat → List Char → Tokens
  | 0, _, _, _, _, _ => ⟨[], none⟩
  | _, _, _, _, _, [] => ⟨[], none⟩
  | fuel + 1, opened, previous, index, line, c :: rest =>
    match scanOne opened previous index (c :: rest) with
    | .error fault => ⟨[], some fault⟩
    | .ok scanned =>
      let taken := (c :: rest).take scanned.length
      let after := scanFrom fuel scanned.opened (taken.getLast?.getD previous)
        (index + scanned.length) (line + taken.count '\n') ((c :: rest).drop scanned.length)
      match scanned.lexeme with
      | none => after
      | some lexeme => ⟨⟨lexeme, line⟩ :: after.tokens, after.failure⟩

/-- Line ends are one character each. -/
def unifyLines : List Char → List Char
  | '\r' :: '\n' :: rest => '\n' :: unifyLines rest
  | '\r' :: rest => '\n' :: unifyLines rest
  | c :: rest => c :: unifyLines rest
  | [] => []

/-- A line end at the end of the script does not count. -/
def dropLastLine (s : List Char) : List Char :=
  match s.reverse with
  | '\n' :: rest => rest.reverse
  | _ => s

def scan (script : String) : Tokens :=
  let chars := dropLastLine (unifyLines script.toList)
  scanFrom (chars.length + 1) [] ' ' 0 1 chars

end Token

end Stepwise.Script
