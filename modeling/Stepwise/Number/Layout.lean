import Stepwise.Number.Decimal
import Stepwise.Text.Search

/-!
Layouts of numbers and texts, as a layout specification asks for them: fill, alignment, sign, width,
grouping, precision and kind.
-/

namespace Stepwise

/-- The separators between groups of digits. -/
inductive Grouping where
  | comma
  | underscore
  deriving DecidableEq, Repr, Inhabited

def Grouping.char : Grouping → Char
  | comma => ','
  | underscore => '_'

/-- A layout specification. -/
structure Layout where
  fill : Char := ' '
  /-- Where the text stands: `<` left, `>` right, `^` in the middle; `=` pads after the sign. -/
  align : Option Char := none
  sign : Option Char := none
  /-- Write a zero that rounding left without its minus sign. -/
  plainZero : Bool := false
  alternate : Bool := false
  width : Nat := 0
  grouping : Option Grouping := none
  precision : Option Nat := none
  kind : Option Char := none
  deriving DecidableEq, Repr, Inhabited

/-- Why a layout specification cannot be followed. -/
inductive LayoutError where
  | malformed
  | tooWide
  | missingPrecision
  | bothGroupings
  | groupingWith (c : Char) (kind : Char)
  | unknownKind (kind : Char)
  | precisionForInteger
  | plainZeroForInteger
  | signForCharacter
  | alternateForCharacter
  | characterRange
  /-- The code of a character that fits no machine word. -/
  | characterTooLarge
  | signForText
  | spaceForText
  | plainZeroForText
  | alternateForText
  | alignForText
  deriving DecidableEq, Repr, Inhabited

namespace Layout

def isAlign (c : Char) : Bool := c == '<' || c == '>' || c == '=' || c == '^'

/-- Splits the digits of a number off the front. -/
def splitDigits (s : List Char) : Except LayoutError (Option Nat × List Char) :=
  let digits := s.takeWhile Char.isDigit
  if digits.isEmpty then .ok (none, s)
  else
    let n := digits.foldl (fun n c => 10 * n + (c.toNat - '0'.toNat)) 0
    if n ≥ Nat.pow 2 63 then .error .tooWide else .ok (some n, s.drop digits.length)

/-- Fill, alignment and the rest. -/
def splitAlign (s : List Char) : Option Char × Option Char × List Char :=
  match s with
  | fill :: align :: rest =>
    if isAlign align then (some fill, some align, rest)
    else if isAlign fill then (none, some fill, align :: rest)
    else (none, none, s)
  | [align] => if isAlign align then (none, some align, []) else (none, none, s)
  | [] => (none, none, [])

def splitChar (p : Char → Bool) (s : List Char) : Option Char × List Char :=
  match s with
  | c :: rest => if p c then (some c, rest) else (none, s)
  | [] => (none, s)

/-- The grouping that a specification names; naming both is refused. -/
def splitGrouping (s : List Char) : Except LayoutError (Option Grouping × List Char) :=
  let (comma, s) := splitChar (· == ',') s
  let (underscore, s') := splitChar (· == '_') s
  match comma, underscore, s' with
  | some _, some _, _ => .error .bothGroupings
  | some _, none, rest => .ok (some .comma, rest)
  | none, some _, ',' :: _ => .error .bothGroupings
  | none, some _, rest => .ok (some .underscore, rest)
  | none, none, rest => .ok (none, rest)

/-- Reads a specification. Zeros before the width fill up numbers between sign and digits. -/
def parse (forText : Bool) (spec : String) : Except LayoutError Layout := do
  let (fill, align, s) := splitAlign spec.toList
  let (sign, s) := splitChar (fun c => c == '+' || c == '-' || c == ' ') s
  let (plainZero, s) := splitChar (· == 'z') s
  let (alternate, s) := splitChar (· == '#') s
  let (zero, s) := if fill.isNone then splitChar (· == '0') s else (none, s)
  let (width, s) ← splitDigits s
  let (grouping, s) ← splitGrouping s
  let (point, s) := splitChar (· == '.') s
  let (precision, s) ← if point.isSome then splitDigits s else .ok (none, s)
  if point.isSome && precision.isNone then throw .missingPrecision
  let kind ← match s with
    | [] => .ok none
    | [c] => .ok (some c)
    | _ => .error .malformed
  let layout : Layout :=
    { fill := if zero.isSome then '0' else fill.getD ' '
      align := if zero.isSome && align.isNone && !forText then some '=' else align
      sign, plainZero := plainZero.isSome, alternate := alternate.isSome
      width := width.getD 0, grouping, precision, kind }
  match grouping, kind.getD (if forText then 's' else 'd') with
  | none, _ => return layout
  | some g, k =>
    if "defgEG%F".toList.contains k then return layout
    else if "boxX".toList.contains k && g == .underscore then return layout
    else throw (.groupingWith g.char k)

/-! ### Digits in groups -/

/-- Puts a separator between groups of digits, counted from the right. -/
def groupFromRight (separator : Char) (size : Nat) : Nat → List Char → List Char
  | _, [] => []
  | n, c :: rest =>
    if n = size then separator :: c :: groupFromRight separator size 1 rest
    else c :: groupFromRight separator size (n + 1) rest

def grouped (separator : Char) (size : Nat) (digits : List Char) : List Char :=
  (groupFromRight separator size 0 digits.reverse).reverse

/-- Adds zeros in front until the digits in their groups reach a width. -/
def groupedToWidth (separator : Char) (size width : Nat) : Nat → List Char → List Char
  | 0, digits => grouped separator size digits
  | fuel + 1, digits =>
    let text := grouped separator size digits
    if width ≤ text.length then text else groupedToWidth separator size width fuel ('0' :: digits)

/-- The parts of a number: its sign, a base mark, the digits before the point and what follows. -/
structure Parts where
  sign : List Char
  mark : List Char
  digits : List Char
  tail : List Char

def signChars (layout : Layout) (negative : Bool) : List Char :=
  if negative then ['-']
  else
    match layout.sign with
    | some '+' => ['+']
    | some ' ' => [' ']
    | _ => []

/-- Puts the parts together and fills up to the width. -/
def assemble (layout : Layout) (groupSize : Nat) (parts : Parts) : String :=
  let between := layout.align == some '='
  let fixedLength := parts.sign.length + parts.mark.length + parts.tail.length
  let digits :=
    match layout.grouping with
    | none => parts.digits
    | some g =>
      if between && layout.fill == '0' then
        groupedToWidth g.char groupSize (layout.width - fixedLength) layout.width parts.digits
      else grouped g.char groupSize parts.digits
  let front := parts.sign ++ parts.mark
  let body := digits ++ parts.tail
  let gap := layout.width - (front.length + body.length)
  let chars :=
    match layout.align.getD '>' with
    | '<' => front ++ body ++ List.replicate gap layout.fill
    | '^' =>
      List.replicate (gap / 2) layout.fill ++ front ++ body ++
        List.replicate (gap - gap / 2) layout.fill
    | '=' => front ++ List.replicate gap layout.fill ++ body
    | _ => List.replicate gap layout.fill ++ front ++ body
  String.ofList chars

/-! ### Kinds of numbers -/

/-- The exponent form with a fixed count of digits after the point. -/
def exponentForm (mantissa : Nat) (exponent : Int) (precision : Nat) (alternate : Bool) :
    List Char × List Char :=
  let d : Decimal.Digits :=
    if mantissa = 0 then ⟨List.replicate (precision + 1) '0', 1⟩
    else Binary64.roundedDigits mantissa exponent (precision + 1)
  let tail := d.digits.drop 1
  let point := if tail.isEmpty && !alternate then [] else ['.']
  (d.digits.take 1, point ++ tail ++ 'e' :: (Decimal.exponentText (d.point - 1)).toList)

/-- Digits laid out with or without a power of ten, whichever suits `precision` digits; `whole` keeps
a digit after the point. -/
def generalForm (d : Decimal.Digits) (precision : Nat) (alternate whole : Bool) :
    List Char × List Char :=
  let count := d.digits.length
  let kept := if alternate then d.digits ++ Decimal.zeros (precision - count) else d.digits
  let limit : Int := (precision : Int) - (if whole then 1 else 0)
  if d.point ≤ -4 || limit < d.point then
    let tail := kept.drop 1
    let point := if tail.isEmpty && !alternate then [] else ['.']
    (kept.take 1, point ++ tail ++ 'e' :: (Decimal.exponentText (d.point - 1)).toList)
  else if d.point ≤ 0 then (['0'], '.' :: Decimal.zeros (-d.point).toNat ++ kept)
  else
    let before := d.point.toNat
    let digits := kept.take before ++ Decimal.zeros (before - kept.length)
    let fraction := kept.drop before
    if fraction.isEmpty then (digits, if whole then ['.', '0'] else if alternate then ['.'] else [])
    else (digits, '.' :: fraction)

/-- The digits of a magnitude in the general form, without zeros at the end. -/
def generalDigits (mantissa : Nat) (exponent : Int) (precision : Nat) : Decimal.Digits :=
  if mantissa = 0 then ⟨['0'], 1⟩
  else
    let d := Binary64.roundedDigits mantissa exponent precision
    ⟨Decimal.trimZeros d.digits, d.point⟩

/-- The magnitude of a finite number, split at the point. -/
def magnitudeForm (kind : Option Char) (mantissa : Nat) (exponent : Int) (layout : Layout) :
    List Char × List Char :=
  let precision := layout.precision.getD 6
  match kind with
  | some 'e' => exponentForm mantissa exponent precision layout.alternate
  | some 'f' =>
    let text := (Binary64.magnitudeFixed mantissa exponent precision).toList
    let digits := text.takeWhile Char.isDigit
    let tail := text.drop digits.length
    (digits, if tail.isEmpty && layout.alternate then ['.'] else tail)
  | some _ =>
    let count := max precision 1
    generalForm (generalDigits mantissa exponent count) count layout.alternate false
  | none =>
    match layout.precision with
    | some p =>
      let count := max p 1
      generalForm (generalDigits mantissa exponent count) count layout.alternate true
    | none =>
      let d := if mantissa = 0 then ⟨['0'], 1⟩ else Decimal.shortest mantissa exponent
      let (digits, tail) := generalForm d 17 false true
      (digits, if layout.alternate && tail.head? == some 'e' then '.' :: tail else tail)

def isLoud (kind : Option Char) : Bool := kind == some 'E' || kind == some 'F' || kind == some 'G'

/-- The kind without regard to the case of its output. -/
def plainKind (kind : Option Char) : Option Char :=
  match kind with
  | some 'n' => some 'g'
  | some '%' => some 'f'
  | some c => some c.toLower
  | none => none

/-- A number in one of the kinds for real numbers. -/
def real (layout : Layout) (x : Binary64) (typeName : String) : Except (LayoutError × String) String :=
  let known := match layout.kind with
    | none => true
    | some c => "eEfFgGn%".toList.contains c
  if !known then .error (.unknownKind (layout.kind.getD ' '), typeName)
  else
    let value := if layout.kind == some '%' then x.mul (.ofInt 100) else x
    let kind := plainKind layout.kind
    let (digits, tail) : List Char × List Char :=
      match value with
      | .nan => (['n', 'a', 'n'], [])
      | .infinite _ => (['i', 'n', 'f'], [])
      | .finite _ m e => magnitudeForm kind m e layout
    let allZero := value.isFinite &&
      ((digits ++ tail.takeWhile (· != 'e')).all fun c => c == '0' || c == '.')
    let negative := value.isNegative && !(layout.plainZero && allZero)
    let loud (s : List Char) := if isLoud layout.kind then s.map Char.toUpper else s
    let percent := if layout.kind == some '%' then ['%'] else []
    let layout := if value.isFinite then layout else { layout with grouping := none }
    .ok (assemble layout 3 ⟨signChars layout negative, [], loud digits, loud tail ++ percent⟩)

/-- The base and the mark of the kinds for integers. -/
def baseOf? (kind : Option Char) : Option (Nat × List Char) :=
  match kind with
  | none | some 'd' | some 'n' => some (10, [])
  | some 'b' => some (2, ['0', 'b'])
  | some 'o' => some (8, ['0', 'o'])
  | some 'x' => some (16, ['0', 'x'])
  | some 'X' => some (16, ['0', 'X'])
  | _ => none

/-- A text, cut to the precision and filled up on the right. -/
def text (layout : Layout) (s : String) (typeName : String) : Except (LayoutError × String) String :=
  match layout.kind with
  | some k =>
    if k != 's' then .error (.unknownKind k, typeName) else go
  | none => go
where
  go : Except (LayoutError × String) String :=
    if layout.sign == some ' ' then .error (.spaceForText, typeName)
    else if layout.sign.isSome then .error (.signForText, typeName)
    else if layout.plainZero then .error (.plainZeroForText, typeName)
    else if layout.alternate then .error (.alternateForText, typeName)
    else if layout.align == some '=' then .error (.alignForText, typeName)
    else
      let chars := match layout.precision with
        | some p => s.toList.take p
        | none => s.toList
      let aligned := { layout with align := some (layout.align.getD '<'), grouping := none }
      .ok (assemble aligned 3 ⟨[], [], chars, []⟩)

/-- An integer in one of the kinds for integers. -/
def integer (layout : Layout) (n : Int) (typeName : String) : Except (LayoutError × String) String :=
  if layout.kind == some 'c' then
    if layout.precision.isSome then .error (.precisionForInteger, typeName)
    else if layout.plainZero then .error (.plainZeroForInteger, typeName)
    else if layout.sign.isSome then .error (.signForCharacter, typeName)
    else if layout.alternate then .error (.alternateForCharacter, typeName)
    else if n < -(Nat.pow 2 63) || Nat.pow 2 63 ≤ n then .error (.characterTooLarge, typeName)
    else if n < 0 || 0x10ffff < n then .error (.characterRange, typeName)
    else .ok (assemble layout 3 ⟨[], [], [Char.ofNat n.toNat], []⟩)
  else
    match baseOf? layout.kind with
    | none => .error (.unknownKind (layout.kind.getD ' '), typeName)
    | some (base, mark) =>
      if layout.precision.isSome then .error (.precisionForInteger, typeName)
      else if layout.plainZero then .error (.plainZeroForInteger, typeName)
      else
        let digits := Nat.toDigits base n.natAbs
        let digits := if layout.kind == some 'X' then digits.map Char.toUpper else digits
        let mark := if layout.alternate then mark else []
        .ok (assemble layout (if base = 10 then 3 else 4)
          ⟨signChars layout (n < 0), mark, digits, []⟩)

end Layout

/-- How messages show a character of a specification. -/
def LayoutError.shownKind (k : Char) : String :=
  if 32 < k.toNat && k.toNat < 128 then String.singleton k
  else "\\x" ++ String.ofList (Nat.toDigits 16 k.toNat)

def LayoutError.message (spec typeName : String) : LayoutError → String
  | malformed => "Invalid format specifier '" ++ spec ++ "' for object of type '" ++ typeName ++ "'"
  | tooWide => "Too many decimal digits in format string"
  | missingPrecision => "Format specifier missing precision"
  | bothGroupings => "Cannot specify both ',' and '_'."
  | groupingWith c k => "Cannot specify '" ++ String.singleton c ++ "' with '" ++ shownKind k ++ "'."
  | unknownKind k =>
    "Unknown format code '" ++ shownKind k ++ "' for object of type '" ++ typeName ++ "'"
  | precisionForInteger => "Precision not allowed in integer format specifier"
  | plainZeroForInteger => "Negative zero coercion (z) not allowed in integer format specifier"
  | signForCharacter => "Sign not allowed with integer format specifier 'c'"
  | alternateForCharacter => "Alternate form (#) not allowed with integer format specifier 'c'"
  | characterRange => "%c arg not in range(0x110000)"
  | characterTooLarge => "Python int too large to convert to C long"
  | signForText => "Sign not allowed in string format specifier"
  | spaceForText => "Space not allowed in string format specifier"
  | plainZeroForText => "Negative zero coercion (z) not allowed in string format specifier"
  | alternateForText => "Alternate form (#) not allowed in string format specifier"
  | alignForText => "'=' alignment not allowed in string format specifier"

end Stepwise
