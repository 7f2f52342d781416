import Stepwise.Text.Quoted
import Stepwise.Text.CharName

/-!
Escapes in the texts of scripts: a backslash and a letter stand for a control character, and
`\x`, `\u`, `\U`, `\N` and octal digits for a character by its code point or name. A backslash before
any other character stands for itself.
-/

namespace Stepwise.Text

/-- Why an escape stands for nothing. -/
inductive EscapeError where
  | truncated (form : String)
  | outOfRange
  | malformedName
  | unknownName
  | loneBackslash
  deriving DecidableEq, Repr

def EscapeError.message : EscapeError → String
  | truncated form => "truncated " ++ form ++ " escape"
  | outOfRange => "illegal Unicode character"
  | malformedName => "malformed \\N character escape"
  | unknownName => "unknown Unicode character name"
  | loneBackslash => "\\ at end of string"

def isHexDigit (c : Char) : Bool :=
  c.isDigit || ('a' ≤ c && c ≤ 'f') || ('A' ≤ c && c ≤ 'F')

def isOctalDigit (c : Char) : Bool := '0' ≤ c && c ≤ '7'

/-- The character of a code point; the replacement character where there is none. -/
def charAt (code : Nat) : Char :=
  if h : code.isValidChar then Char.ofNatAux code h else '\ufffd'

/-- The character that a single letter after a backslash stands for. -/
def letterEscape? (c : Char) : Option Char :=
  match c with
  | '\\' => some '\\'
  | '\'' => some '\''
  | '"' => some '"'
  | 'a' => some (Char.ofNat 7)
  | 'b' => some (Char.ofNat 8)
  | 't' => some '\t'
  | 'n' => some '\n'
  | 'v' => some (Char.ofNat 11)
  | 'f' => some (Char.ofNat 12)
  | 'r' => some '\r'
  | _ => none

/-- How many digits follow the letters that take a code point. -/
def codeWidth? (c : Char) : Option (Nat × String) :=
  match c with
  | 'x' => some (2, "\\xXX")
  | 'u' => some (4, "\\uXXXX")
  | 'U' => some (8, "\\UXXXXXXXX")
  | _ => none

/-- Splits a named escape: the name between braces, and the text after it. -/
def splitName? (s : List Char) : Option (String × List Char) :=
  match s with
  | '\x7b' :: rest =>
    let name := rest.takeWhile (· != '\x7d')
    match rest.drop name.length with
    | _ :: after => if name.isEmpty then none else some (String.ofList name, after)
    | [] => none
  | _ => none

/-- One escape after its backslash: the characters it stands for, and the text after it. -/
def escape (s : List Char) : Except EscapeError (List Char × List Char) :=
  match s with
  | [] => .error .loneBackslash
  | c :: rest =>
    match letterEscape? c with
    | some e => .ok ([e], rest)
    | none =>
      match codeWidth? c with
      | some (width, form) =>
        let digits := (rest.take width).takeWhile isHexDigit
        if digits.length < width then .error (.truncated form)
        else
          let code := hexValue (digits.map Char.toLower)
          if 0x10ffff < code then .error .outOfRange
          else .ok ([charAt code], rest.drop width)
      | none =>
        if c == '\n' then .ok ([], rest)
        else if isOctalDigit c then
          let digits := (s.take 3).takeWhile isOctalDigit
          let code := digits.foldl (fun n d => 8 * n + (d.toNat - '0'.toNat)) 0
          .ok ([charAt code], s.drop digits.length)
        else if c == 'N' then
          match splitName? rest with
          | none => .error .malformedName
          | some (name, after) =>
            match charOfName? name with
            | some found => .ok ([found], after)
            | none => .error .unknownName
        else .ok (['\\', c], rest)

def unescapeFrom : Nat → List Char → Except EscapeError (List Char)
  | 0, s => .ok s
  | _, [] => .ok []
  | fuel + 1, '\\' :: rest => do
    let (chars, after) ← escape rest
    .ok (chars ++ (← unescapeFrom fuel after))
  | fuel + 1, c :: rest => do .ok (c :: (← unescapeFrom fuel rest))

/-- Resolves the escapes of a text. Characters outside ASCII count as their own escapes. -/
def unescape (s : List Char) : Except EscapeError (List Char) :=
  let plain := s.flatMap fun c => if c.toNat < 128 then [c] else codeEscape c
  unescapeFrom (plain.length + 1) plain

end Stepwise.Text
