import Stepwise.Text.Quoted

/-!
Faults: why an operation on values has no result. Each cause is a constructor; its wording is
`Fault.message`, and the family it belongs to is `Fault.family`.
-/

namespace Stepwise

/-- The families of faults that callers tell apart. -/
inductive FaultFamily where
  | type
  | value
  | overflow
  | zeroDivision
  | attribute
  | key
  | index
  | name
  | undefined
  | security
  | scriptText
  | scriptRun
  | filterArgument
  | jsonText
  | schema
  deriving DecidableEq, Repr, Inhabited

inductive Fault where
  /-- An absent value was used; the text says what is absent. -/
  | absent (text : String)
  /-- An attribute that scripts may not touch. -/
  | unsafeAttribute (text : String)
  | noAttribute (typeName name : String)
  | noKey (shown : String)
  | listIndex (sequence : String)
  | notIterable (typeName : String)
  | notCallable (typeName : String)
  | notSubscriptable (typeName : String)
  | noLength (typeName : String)
  | unhashable (typeName : String)
  | operands (operator left right : String)
  | unaryOperand (operator typeName : String)
  | absOperand (typeName : String)
  | ordering (operator left right : String)
  | concatenation (sequence other : String)
  | repetition (typeName : String)
  | notAnInteger (typeName : String)
  | noMembership (typeName : String)
  | textMembership (typeName : String)
  | sliceBound
  | sliceStepZero
  | joinItem (index : Nat) (typeName : String)
  | joinOperand
  | divisionByZero
  | integerDivisionByZero
  | integerModuloByZero
  | floatDivisionByZero
  | floatFloorDivisionByZero
  | floatModuloByZero
  | zeroToNegativePower
  | powerTooLarge
  | intTooLargeForFloat
  | intTooLargeForIndex
  | intTooLargeForWord
  | intTooLargeForInt
  | quotientTooLarge
  | repetitionTooLarge
  | infiniteToInteger
  | nanToInteger
  | infiniteToRatio
  | nanToRatio
  | roundingTooLarge
  | noRounding (typeName : String)
  | numberOperand (conversion typeName : String)
  | intLiteral (base : Nat) (shown : String)
  | floatLiteral (shown : String)
  | intBase
  | nonTextWithBase
  | digitLimit
  | digitLimitReading (digits : Nat)
  | dateRange
  | dayCount (magnitude : String)
  | notInSequence (text : String)
  | substringMissing
  | emptySeparator
  /-- A built-in operation called in a way its signature does not allow. -/
  | badCall (text : String)
  /-- An argument of the right type whose value is not allowed. -/
  | badArgument (text : String)
  | missingArguments (function : String) (names : List String)
  | surplusArguments (function : String) (least most given : Nat)
  | unknownKeyword (function keyword : String)
  | repeatedArgument (function name : String)
  | notJson (typeName : String)
  | jsonKey (typeName : String)
  | jsonNumber
  | formatConversion (text : String)
  | formatText (text : String)
  | formatArguments
  | formatLeftover
  | formatMapping
  | rangeTooBig
  | unknownFilter (name : String) (late : Bool)
  | unknownTest (name : String) (late : Bool)
  | filterArgument (text : String)
  | scriptForm (text : String)
  | unboundName (name : String)
  | unpackTooMany (expected : Nat)
  | unpackTooFew (expected got : Nat)
  | keywordMapping (function typeName : String)
  | argumentSequence (function typeName : String)
  | updateElement (index length : Nat)
  | updateSequence (index : Nat)
  | badJson (text : String) (line column position : Nat)
  | badModel (text : String)
  | badEncoding (text : String)
  deriving DecidableEq, Repr, Inhabited

namespace Fault

/-- Names in quotes, separated by commas and a final "and". -/
def listed (names : List String) : String :=
  let quotedNames := names.map fun n => Text.quoted n
  match quotedNames.reverse with
  | [] => ""
  | [only] => only
  | [second, first] => first ++ " and " ++ second
  | last :: rest => ", ".intercalate rest.reverse ++ ", and " ++ last

def plural (n : Nat) (word : String) : String := if n = 1 then word else word ++ "s"

def message : Fault → String
  | absent text => text
  | unsafeAttribute text => text
  | noAttribute t a => s!"'{t}' object has no attribute '{a}'"
  | noKey shown => shown
  | listIndex sequence => s!"{sequence} index out of range"
  | notIterable t => s!"'{t}' object is not iterable"
  | notCallable t => s!"'{t}' object is not callable"
  | notSubscriptable t => s!"'{t}' object is not subscriptable"
  | noLength t => s!"object of type '{t}' has no len()"
  | unhashable t => s!"unhashable type: '{t}'"
  | operands op l r => s!"unsupported operand type(s) for {op}: '{l}' and '{r}'"
  | unaryOperand op t => s!"bad operand type for unary {op}: '{t}'"
  | absOperand t => s!"bad operand type for abs(): '{t}'"
  | ordering op l r => s!"'{op}' not supported between instances of '{l}' and '{r}'"
  | concatenation s o => s!"can only concatenate {s} (not \"{o}\") to {s}"
  | repetition t => s!"can't multiply sequence by non-int of type '{t}'"
  | notAnInteger t => s!"'{t}' object cannot be interpreted as an integer"
  | noMembership t => s!"argument of type '{t}' is not iterable"
  | textMembership t => s!"'in <string>' requires string as left operand, not {t}"
  | sliceBound => "slice indices must be integers or None or have an __index__ method"
  | sliceStepZero => "slice step cannot be zero"
  | joinItem i t => s!"sequence item {i}: expected str instance, {t} found"
  | joinOperand => "can only join an iterable"
  | divisionByZero => "division by zero"
  | integerDivisionByZero => "integer division or modulo by zero"
  | integerModuloByZero => "integer modulo by zero"
  | floatDivisionByZero => "float division by zero"
  | floatFloorDivisionByZero => "float floor division by zero"
  | floatModuloByZero => "float modulo"
  | zeroToNegativePower => "0.0 cannot be raised to a negative power"
  | powerTooLarge => "(34, 'Numerical result out of range')"
  | intTooLargeForFloat => "int too large to convert to float"
  | intTooLargeForIndex => "cannot fit 'int' into an index-sized integer"
  | intTooLargeForWord => "Python int too large to convert to C ssize_t"
  | intTooLargeForInt => "Python int too large to convert to C int"
  | quotientTooLarge => "integer division result too large for a float"
  | repetitionTooLarge => ""
  | infiniteToInteger => "cannot convert float infinity to integer"
  | nanToInteger => "cannot convert float NaN to integer"
  | infiniteToRatio => "cannot convert Infinity to integer ratio"
  | nanToRatio => "cannot convert NaN to integer ratio"
  | roundingTooLarge => "rounded value too large to represent"
  | noRounding t => s!"type {t} doesn't define __round__ method"
  | numberOperand conversion t =>
    if conversion = "int" then
      s!"int() argument must be a string, a bytes-like object or a real number, not '{t}'"
    else s!"float() argument must be a string or a real number, not '{t}'"
  | intLiteral base shown => s!"invalid literal for int() with base {base}: {shown}"
  | floatLiteral shown => s!"could not convert string to float: {shown}"
  | intBase => "int() base must be >= 2 and <= 36, or 0"
  | nonTextWithBase => "int() can't convert non-string with explicit base"
  | digitLimit =>
    "Exceeds the limit (4300 digits) for integer string conversion; use sys.set_int_max_str_digits() to increase the limit"
  | digitLimitReading n =>
    s!"Exceeds the limit (4300 digits) for integer string conversion: value has {n} digits; use sys.set_int_max_str_digits() to increase the limit"
  | dateRange => "date value out of range"
  | dayCount magnitude => magnitude
  | notInSequence text => text
  | substringMissing => "substring not found"
  | emptySeparator => "empty separator"
  | badCall text => text
  | badArgument text => text
  | missingArguments f names =>
    s!"{f}() missing {names.length} required positional " ++ plural names.length "argument" ++
      ": " ++ listed names
  | surplusArguments f least most given =>
    let wanted := if least = most then s!"{most} positional " ++ plural most "argument"
      else s!"from {least} to {most} positional arguments"
    s!"{f}() takes {wanted} but {given} " ++ (if given = 1 then "was" else "were") ++ " given"
  | unknownKeyword f k => s!"{f}() got an unexpected keyword argument '{k}'"
  | repeatedArgument f n => s!"{f}() got multiple values for argument '{n}'"
  | notJson t => s!"Object of type {t} is not JSON serializable"
  | jsonKey t => s!"keys must be str, int, float, bool or None, not {t}"
  | jsonNumber => "Out of range float values are not JSON compliant"
  | formatConversion text => text
  | formatText text => text
  | formatArguments => "not enough arguments for format string"
  | formatLeftover => "not all arguments converted during string formatting"
  | formatMapping => "format requires a mapping"
  | rangeTooBig => "Range too big. The sandbox blocks ranges larger than MAX_RANGE (100000)."
  | unknownFilter name late =>
    "No filter named " ++ Text.quoted name ++ (if late then " found." else ".")
  | unknownTest name late =>
    "No test named " ++ Text.quoted name ++ (if late then " found." else ".")
  | filterArgument text => text
  | scriptForm text => text
  | unboundName name => s!"name '{name}' is not defined"
  | unpackTooMany n => s!"too many values to unpack (expected {n})"
  | unpackTooFew n got => s!"not enough values to unpack (expected {n}, got {got})"
  | keywordMapping f t => s!"{f} argument after ** must be a mapping, not {t}"
  | argumentSequence f t => s!"{f} argument after * must be an iterable, not {t}"
  | updateElement i n =>
    s!"dictionary update sequence element #{i} has length {n}; 2 is required"
  | updateSequence i => s!"cannot convert dictionary update sequence element #{i} to a sequence"
  | badJson text line column position => s!"{text}: line {line} column {column} (char {position})"
  | badModel text => text
  | badEncoding text => text

def family : Fault → FaultFamily
  | absent _ => .undefined
  | unsafeAttribute _ => .security
  | noAttribute .. => .attribute
  | noKey _ => .key
  | listIndex _ => .index
  | divisionByZero | integerDivisionByZero | integerModuloByZero | floatDivisionByZero
  | floatFloorDivisionByZero | floatModuloByZero | zeroToNegativePower => .zeroDivision
  | powerTooLarge | intTooLargeForFloat | intTooLargeForWord | intTooLargeForInt | quotientTooLarge
  | repetitionTooLarge | infiniteToInteger | infiniteToRatio | roundingTooLarge | dateRange
  | dayCount _ | rangeTooBig => .overflow
  | intTooLargeForIndex => .index
  | sliceStepZero | nanToInteger | nanToRatio | intLiteral .. | floatLiteral _ | intBase
  | digitLimit | digitLimitReading _ | notInSequence _ | substringMissing | emptySeparator
  | badArgument _ | formatText _ | jsonNumber | unpackTooMany _ | unpackTooFew ..
  | updateElement .. | badEncoding _ => .value
  | unknownFilter _ late | unknownTest _ late => if late then .scriptRun else .scriptText
  | filterArgument _ => .filterArgument
  | scriptForm _ => .scriptText
  | unboundName _ => .name
  | badJson .. => .jsonText
  | badModel _ => .schema
  | _ => .type

end Fault

/-- The result of an operation that may fault. -/
abbrev Checked (α : Type) := Except Fault α

end Stepwise
