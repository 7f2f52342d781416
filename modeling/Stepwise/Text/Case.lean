import Stepwise.Text.Runs
import Stepwise.Text.Class
import Stepwise.Text.CaseTable

/-!
Case forms of text: lower, upper, title, folded and swapped.
-/

namespace Stepwise.Text

/-- Characters `first`, `first + step`, … up to `last`, each with its form at the same distance. -/
structure CaseRun where
  first : Nat
  last : Nat
  step : Nat
  distance : Int

/-- A table of case forms: runs, and the characters whose form is several characters. -/
structure CaseForms where
  runs : Array CaseRun
  expansions : List (Nat × List Char)

namespace CaseForms

/-- The number that base-16 digits write, with a minus sign where it is negative. -/
def signedHex : List Char → Int
  | '-' :: digits => -(hexValue digits : Int)
  | digits => (hexValue digits : Int)

def readRun (token : List Char) : CaseRun :=
  match token.splitOn ',' with
  | [first, last, step, distance] =>
    ⟨hexValue first, hexValue last, hexValue step, signedHex distance⟩
  | _ => ⟨0, 0, 1, 0⟩

def readExpansion (token : List Char) : Nat × List Char :=
  match token.splitOn '>' with
  | [code, form] => (hexValue code, (form.splitOn ',').map fun c => Char.ofNat (hexValue c))
  | _ => (0, [])

def ofText (runs expansions : String) : CaseForms :=
  ⟨((runs.toList.splitOn ' ').map readRun).toArray,
    (expansions.toList.splitOn ' ').map readExpansion⟩

/-- The run that could hold the code point, looked for between `low` and `high`. -/
def findRun (runs : Array CaseRun) (code : Nat) : Nat → Nat → Nat → Option CaseRun
  | 0, _, _ => none
  | fuel + 1, low, high =>
    if high ≤ low then none
    else
      let middle := (low + high) / 2
      match runs[middle]? with
      | none => none
      | some run =>
        if code < run.first then findRun runs code fuel low middle
        else if run.last < code then findRun runs code fuel (middle + 1) high
        else some run

/-- The form of one character. -/
def form (table : CaseForms) (c : Char) : List Char :=
  match table.expansions.lookup c.toNat with
  | some chars => chars
  | none =>
    match findRun table.runs c.toNat (table.runs.size + 1) 0 table.runs.size with
    | some run =>
      if (c.toNat - run.first) % run.step = 0 then [Char.ofNat (c.toNat + run.distance).toNat]
      else [c]
    | none => [c]

end CaseForms

def lowerForms : CaseForms := .ofText CaseTable.lowerRuns CaseTable.lowerExpansions
def upperForms : CaseForms := .ofText CaseTable.upperRuns CaseTable.upperExpansions
def titleForms : CaseForms := .ofText CaseTable.titleRuns CaseTable.titleExpansions
def foldForms : CaseForms := .ofText CaseTable.foldRuns CaseTable.foldExpansions

def lowerChar (c : Char) : List Char := if isAscii c then [c.toLower] else lowerForms.form c
def upperChar (c : Char) : List Char := if isAscii c then [c.toUpper] else upperForms.form c
def titleChar (c : Char) : List Char := if isAscii c then [c.toUpper] else titleForms.form c
def foldChar (c : Char) : List Char := if isAscii c then [c.toLower] else foldForms.form c

/-- Is the first character that is not skipped a cased one? -/
def casedNext (s : List Char) : Bool :=
  match s.dropWhile isCaseIgnorable with
  | [] => false
  | c :: _ => isCased c

/-- The lower-case form of a character between its neighbours. A capital sigma at the end of a word
becomes the final sigma. -/
def lowerAt (before : List Char) (c : Char) (after : List Char) : List Char :=
  if c == 'Σ' then [if casedNext before && !casedNext after then 'ς' else 'σ'] else lowerChar c

/-- The lower-case form of the rest of a text; `before` holds what precedes it, nearest first. -/
def lowerFrom (before : List Char) : List Char → List Char
  | [] => []
  | c :: rest => lowerAt before c rest ++ lowerFrom (c :: before) rest

def lower (s : List Char) : List Char := lowerFrom [] s

def upper (s : List Char) : List Char := s.flatMap upperChar

def fold (s : List Char) : List Char := s.flatMap foldChar

/-- The first character in title case and the rest in lower case. -/
def capitalize : List Char → List Char
  | [] => []
  | c :: rest => titleChar c ++ lowerFrom [c] rest

/-- Every word in title case; a word goes on as long as cased characters follow each other. -/
def titleFrom (before : List Char) (inWord : Bool) : List Char → List Char
  | [] => []
  | c :: rest =>
    (if inWord then lowerAt before c rest else titleChar c) ++ titleFrom (c :: before) (isCased c) rest

def title (s : List Char) : List Char := titleFrom [] false s

def swapFrom (before : List Char) : List Char → List Char
  | [] => []
  | c :: rest =>
    (if isUpper c then lowerAt before c rest else if isLower c then upperChar c else [c]) ++
      swapFrom (c :: before) rest

def swapCase (s : List Char) : List Char := swapFrom [] s

def lowerString (s : String) : String := String.ofList (lower s.toList)

def upperString (s : String) : String := String.ofList (upper s.toList)

end Stepwise.Text
