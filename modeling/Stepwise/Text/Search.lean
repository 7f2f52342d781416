import Stepwise.Text.Blank

/-!
Finding, counting, replacing and splitting in texts.
-/

namespace Stepwise.Text

/-- The place of the first occurrence. -/
def find? (needle : List Char) : List Char → Option Nat
  | [] => if needle.isEmpty then some 0 else none
  | c :: rest =>
    if needle.isPrefixOf (c :: rest) then some 0 else (find? needle rest).map (· + 1)

def contains (needle hay : List Char) : Bool := (find? needle hay).isSome

/-- The place of the last occurrence. -/
def findLast? (needle hay : List Char) : Option Nat :=
  (find? needle.reverse hay.reverse).map fun i => hay.length - needle.length - i

/-- Occurrences that do not overlap, from the left; the empty text occurs around every character. -/
def countIn (needle : List Char) : Nat → List Char → Nat
  | 0, _ => 0
  | fuel + 1, hay =>
    match find? needle hay with
    | none => 0
    | some i => countIn needle fuel (hay.drop (i + needle.length)) + 1

def count (needle hay : List Char) : Nat :=
  if needle.isEmpty then hay.length + 1 else countIn needle (hay.length + 1) hay

/-- Splits at occurrences from the left, at most `limit` times. -/
def splitAtText (sep : List Char) : Nat → List Char → List (List Char)
  | 0, hay => [hay]
  | limit + 1, hay =>
    match find? sep hay with
    | none => [hay]
    | some i => hay.take i :: splitAtText sep limit (hay.drop (i + sep.length))

/-- Splits at occurrences from the right, at most `limit` times. -/
def splitAtTextRight (sep : List Char) (limit : Nat) (hay : List Char) : List (List Char) :=
  ((splitAtText sep.reverse limit hay.reverse).map List.reverse).reverse

/-- Puts a text before each of the first characters, and at the end if there are that many. -/
def interleave (new : List Char) : Nat → List Char → List Char
  | 0, hay => hay
  | _ + 1, [] => new
  | limit + 1, c :: rest => new ++ c :: interleave new limit rest

/-- Replaces the first `limit` occurrences. -/
def replace (old new : List Char) (limit : Nat) (hay : List Char) : List Char :=
  if old.isEmpty then interleave new limit hay
  else new.intercalate (splitAtText old limit hay)

/-- Replaces every occurrence. -/
def replaceAll (old new hay : List Char) : List Char := replace old new (hay.length + 1) hay

/-- Splits at stretches of blanks, at most `limit` times; the rest loses the blanks at its front. -/
def splitBlank : Nat → Nat → List Char → List (List Char)
  | 0, _, _ => []
  | fuel + 1, limit, hay =>
    let body := hay.dropWhile isBlank
    if body.isEmpty then []
    else
      match limit with
      | 0 => [body]
      | limit + 1 =>
        let word := body.takeWhile fun c => !isBlank c
        word :: splitBlank fuel limit (body.drop word.length)

def splitBlankRight (limit : Nat) (hay : List Char) : List (List Char) :=
  ((splitBlank (hay.length + 1) limit hay.reverse).map List.reverse).reverse

/-- Splits into lines; `keep` leaves the line ends on. A return and a feed end one line together. -/
def splitLines (keep : Bool) (line : List Char) : List Char → List (List Char)
  | [] => if line.isEmpty then [] else [line.reverse]
  | '\r' :: '\n' :: rest =>
    (if keep then ('\n' :: '\r' :: line).reverse else line.reverse) :: splitLines keep [] rest
  | c :: rest =>
    if isLineBreak c then
      (if keep then (c :: line).reverse else line.reverse) :: splitLines keep [] rest
    else splitLines keep (c :: line) rest

/-- Replaces tabs by the spaces to the next column that is a multiple of `size`. -/
def expandTabs (size : Nat) (column : Nat) : List Char → List Char
  | [] => []
  | '\t' :: rest =>
    if size = 0 then expandTabs size column rest
    else
      let gap := size - column % size
      List.replicate gap ' ' ++ expandTabs size (column + gap) rest
  | c :: rest => c :: expandTabs size (if c == '\n' || c == '\r' then 0 else column + 1) rest

/-! ### Widths -/

def padLeft (width : Nat) (fill : Char) (s : List Char) : List Char :=
  List.replicate (width - s.length) fill ++ s

def padRight (width : Nat) (fill : Char) (s : List Char) : List Char :=
  s ++ List.replicate (width - s.length) fill

/-- Pads on both sides. An odd gap is larger on the left where the width is odd. -/
def center (width : Nat) (fill : Char) (s : List Char) : List Char :=
  let gap := width - s.length
  let left := gap / 2 + (if gap % 2 = 1 ∧ width % 2 = 1 then 1 else 0)
  List.replicate left fill ++ s ++ List.replicate (gap - left) fill

/-- Pads a number with zeros after its sign. -/
def zeroFill (width : Nat) (s : List Char) : List Char :=
  match s with
  | c :: rest =>
    if c == '+' || c == '-' then c :: padLeft (width - 1) '0' rest else padLeft width '0' s
  | [] => padLeft width '0' []

end Stepwise.Text
