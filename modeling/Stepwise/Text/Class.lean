import Stepwise.Text.Runs
import Stepwise.Text.ClassTable

/-!
Character classes: letters, numerals, identifiers, printable and cased characters.
-/

namespace Stepwise.Text

def alphaSet : Runs := .ofText ClassTable.alphaRuns
def alnumSet : Runs := .ofText ClassTable.alnumRuns
def numericSet : Runs := .ofText ClassTable.numericRuns
def printableSet : Runs := .ofText ClassTable.printableRuns
def startSet : Runs := .ofLengths ClassTable.startRuns
def continueSet : Runs := .ofText ClassTable.continueRuns
def upperSet : Runs := .ofText ClassTable.upperRuns
def lowerSet : Runs := .ofText ClassTable.lowerRuns
def titleSet : Runs := .ofText ClassTable.titleRuns
def casedSet : Runs := .ofText ClassTable.casedRuns
def ignorableSet : Runs := .ofText ClassTable.ignorableRuns

/-- One of the unaccented Latin letters. -/
def isAsciiLetter (c : Char) : Bool := ('a' ≤ c && c ≤ 'z') || ('A' ≤ c && c ≤ 'Z')

def isAsciiDigit (c : Char) : Bool := '0' ≤ c && c ≤ '9'

def isAscii (c : Char) : Bool := c.toNat < 128

def isAlpha (c : Char) : Bool := if isAscii c then isAsciiLetter c else alphaSet.contains c

def isAlnum (c : Char) : Bool :=
  if isAscii c then isAsciiLetter c || isAsciiDigit c else alnumSet.contains c

def isNumeric (c : Char) : Bool := if isAscii c then isAsciiDigit c else numericSet.contains c

/-- Shown as itself in quoted text; of the blanks only the plain space is. -/
def isPrintable (c : Char) : Bool :=
  if isAscii c then ' ' ≤ c && c ≤ '~' else printableSet.contains c

def isUpper (c : Char) : Bool := if isAscii c then 'A' ≤ c && c ≤ 'Z' else upperSet.contains c

def isLower (c : Char) : Bool := if isAscii c then 'a' ≤ c && c ≤ 'z' else lowerSet.contains c

def isTitle (c : Char) : Bool := titleSet.contains c

def isCased (c : Char) : Bool := if isAscii c then isAsciiLetter c else casedSet.contains c

def isCaseIgnorable (c : Char) : Bool := ignorableSet.contains c

def isIdentifierStart (c : Char) : Bool :=
  if isAscii c then isAsciiLetter c || c == '_' else startSet.contains c

def isIdentifierContinue (c : Char) : Bool :=
  if isAscii c then isAsciiLetter c || isAsciiDigit c || c == '_' else continueSet.contains c

/-- Words begin with a letter or underscore and go on with letters, numerals, marks and
underscores. -/
def isIdentifier : List Char → Bool
  | [] => false
  | c :: rest => isIdentifierStart c && rest.all isIdentifierContinue

/-- The characters that a name in a script may be spelled with, before it is checked as a whole. -/
def isWordChar (c : Char) : Bool := isAlnum c || c == '_'

end Stepwise.Text
