import Stepwise.Value.Written

/-!
Issues: what is wrong with a value that does not fit a schema, where in the value it is, and the
report of all issues of one value.
-/

namespace Stepwise.Schema

/-- One step on the way into a value. -/
inductive Place where
  | member (name : String)
  | element (index : Nat)
  deriving DecidableEq, Repr, Inhabited

def Place.text : Place → String
  | member name => name
  | element index => Nat.repr index

/-- What a record says of a value that is no mapping. -/
inductive RecordForm where
  /-- The value may be a mapping or a record of the named kind. -/
  | named (record : String)
  /-- The value comes from a document. -/
  | document
  deriving DecidableEq, Repr, Inhabited

inductive Cause where
  | missing
  | extra
  | text
  | textEncoding
  | textTooShort (least : Nat)
  | integer
  | integerText
  | integerTextSize
  | integerFraction
  | finite
  | number
  | numberText
  | tooSmall (least : Int)
  | tooLarge (most : Int)
  | boolean
  | booleanText
  | mapping
  | list
  | record (form : RecordForm)
  | choice (options : List String)
  | moment
  | momentRange (detail : String)
  | momentText (detail : String)
  deriving DecidableEq, Repr, Inhabited

namespace Cause

def code : Cause → String
  | missing => "missing"
  | extra => "extra_forbidden"
  | text => "string_type"
  | textEncoding => "string_unicode"
  | textTooShort _ => "string_too_short"
  | integer => "int_type"
  | integerText => "int_parsing"
  | integerTextSize => "int_parsing_size"
  | integerFraction => "int_from_float"
  | finite => "finite_number"
  | number => "float_type"
  | numberText => "float_parsing"
  | tooSmall _ => "greater_than_equal"
  | tooLarge _ => "less_than_equal"
  | boolean => "bool_type"
  | booleanText => "bool_parsing"
  | mapping => "dict_type"
  | list => "list_type"
  | record (.named _) => "model_type"
  | record .document => "model_attributes_type"
  | choice _ => "enum"
  | moment => "datetime_type"
  | momentRange _ => "datetime_parsing"
  | momentText _ => "datetime_from_date_parsing"

/-- Options in quotes, the last after "or". -/
def optionText (options : List String) : String :=
  let shown := options.map fun o => "'" ++ o ++ "'"
  match shown.reverse with
  | [] => ""
  | [only] => only
  | last :: rest => ", ".intercalate rest.reverse ++ " or " ++ last

def message : Cause → String
  | missing => "Field required"
  | extra => "Extra inputs are not permitted"
  | text => "Input should be a valid string"
  | textEncoding =>
    "Input should be a valid string, unable to parse raw data as a unicode string"
  | textTooShort n =>
    s!"String should have at least {n} character" ++ (if n = 1 then "" else "s")
  | integer => "Input should be a valid integer"
  | integerText => "Input should be a valid integer, unable to parse string as an integer"
  | integerTextSize => "Unable to parse input string as an integer, exceeded maximum size"
  | integerFraction => "Input should be a valid integer, got a number with a fractional part"
  | finite => "Input should be a finite number"
  | number => "Input should be a valid number"
  | numberText => "Input should be a valid number, unable to parse string as a number"
  | tooSmall n => s!"Input should be greater than or equal to {n}"
  | tooLarge n => s!"Input should be less than or equal to {n}"
  | boolean => "Input should be a valid boolean"
  | booleanText => "Input should be a valid boolean, unable to interpret input"
  | mapping => "Input should be a valid dictionary"
  | list => "Input should be a valid list"
  | record (.named name) => "Input should be a valid dictionary or instance of " ++ name
  | record .document => "Input should be a valid dictionary or object to extract fields from"
  | choice options => "Input should be " ++ optionText options
  | moment => "Input should be a valid datetime"
  | momentRange detail => "Input should be a valid datetime, " ++ detail
  | momentText detail => "Input should be a valid datetime or date, " ++ detail

/-- The parameters of a cause, by name. -/
def context : Cause → Fields
  | textTooShort n => [("min_length", .int n)]
  | tooSmall n => [("ge", .int n)]
  | tooLarge n => [("le", .int n)]
  | choice options => [("expected", .text (optionText options))]
  | momentRange detail => [("error", .text detail)]
  | momentText detail => [("error", .text detail)]
  | _ => []

end Cause

structure Issue where
  place : List Place
  cause : Cause
  input : Value
  deriving Inhabited

namespace Issue

/-- The longest written form, in bytes, that a report shows whole. -/
def maxShown : Nat := 50

/-- The longest run of characters from the front that fits into a number of bytes. -/
def takeBytes : Nat → List Char → List Char
  | _, [] => []
  | n, c :: rest => if c.utf8Size ≤ n then c :: takeBytes (n - c.utf8Size) rest else []

/-- A written form for a report; the middle of a long one is left out. -/
def shorten (s : String) : String :=
  if s.utf8ByteSize ≤ maxShown then s
  else
    let front := takeBytes 25 s.toList
    let back := (takeBytes 24 s.toList.reverse).reverse
    String.ofList front ++ "..." ++ String.ofList back

def inputText (v : Value) : String :=
  match v.written with
  | .ok s => shorten s
  | .error _ => "<unprintable " ++ v.typeName ++ " object>"

def placeText (place : List Place) : String := ".".intercalate (place.map Place.text)

def text (issue : Issue) : String :=
  (if issue.place.isEmpty then "" else placeText issue.place ++ "\n") ++
    "  " ++ issue.cause.message ++ " [type=" ++ issue.cause.code ++ ", input_value=" ++
    inputText issue.input ++ ", input_type=" ++ issue.input.typeName ++ "]"

/-- The issue of a part as an issue of the whole. -/
def under (place : Place) (issue : Issue) : Issue := { issue with place := place :: issue.place }

end Issue

/-- The report of the issues of one value. -/
def report (record : String) (issues : List Issue) : String :=
  let n := issues.length
  Nat.repr n ++ " validation error" ++ (if n = 1 then "" else "s") ++ " for " ++ record ++ "\n" ++
    "\n".intercalate (issues.map Issue.text)

end Stepwise.Schema
