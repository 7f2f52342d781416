import Stepwise.Text.Blank
import Stepwise.Value.Convert

/-!
Paths into values: segments between dots. A segment is a key, an index or a star, and a star at the
end of a key stands for a segment of its own.
-/

namespace Stepwise

/-- One segment of a path. -/
inductive Segment where
  | key (name : String)
  | index (n : Nat)
  /-- Every item of a list. -/
  | each
  deriving DecidableEq, Repr, Inhabited

abbrev Path := List Segment

namespace Path

/-- The texts between the dots; there is always one. -/
def tokens : List Char → List (List Char)
  | [] => [[]]
  | c :: rest =>
    if c = '.' then [] :: tokens rest
    else
      match tokens rest with
      | [] => [[c]]
      | token :: others => (c :: token) :: others

/-- Do all characters count as digits, and is there one? -/
def isDigits (token : List Char) : Bool := !token.isEmpty && token.all Text.isDigit

/-- The index that digits write. -/
def indexOf (token : List Char) : Checked Nat := do
  return (← Value.readInt 10 (String.ofList token)).toNat

/-- The segments of a text without dots. -/
def ofToken (token : List Char) : Checked Path :=
  let token := Text.trim token
  if token = ['*'] then .ok [.each]
  else if token.getLast? = some '*' then .ok [.key (String.ofList token.dropLast), .each]
  else if isDigits token then do return [.index (← indexOf token)]
  else .ok [.key (String.ofList token)]

/-- The segments of several texts, one after the other. -/
def ofTokens : List (List Char) → Checked Path
  | [] => .ok []
  | token :: rest => do
    let first ← ofToken token
    return first ++ (← ofTokens rest)

def ofChars (s : List Char) : Checked Path := ofTokens (tokens s)

/-- The path that a text writes. Digits that write no index are a fault. -/
def parse (s : String) : Checked Path := ofChars s.toList

def hasEach (path : Path) : Bool := path.contains .each

/-- The first segment, if it is a key. -/
def head? : Path → Option String
  | .key name :: _ => some name
  | _ => none

end Path

end Stepwise
