import Stepwise.Value.Convert

/-!
Arguments of calls and how they meet a signature: by position, by name, or left out. What a call
gets wrong is reported in a fixed order: names first, then a surplus, then what is missing.
-/

namespace Stepwise.Script

/-- The arguments of a call. -/
structure Arguments where
  positional : List Value := []
  named : Fields := []
  deriving Inhabited

/-- The parameters of a function. -/
structure Signature where
  function : String
  /-- How many arguments the caller does not see; they count in messages. -/
  hidden : Nat := 0
  required : List String
  optional : Fields := []

namespace Signature

def names (s : Signature) : List String := s.required ++ s.optional.map (·.1)

/-- The first argument name that the signature does not have, or that a position has filled. -/
def nameFault? (s : Signature) (filled : List String) : Fields → Option Fault
  | [] => none
  | (name, _) :: rest =>
    if !s.names.contains name then some (.unknownKeyword s.function name)
    else if filled.contains name then some (.repeatedArgument s.function name)
    else s.nameFault? filled rest

/-- The values of all parameters, in order. -/
def bind (s : Signature) (args : Arguments) : Checked (List Value) := do
  let given := args.positional.length
  let most := s.required.length + s.optional.length
  if let some fault := s.nameFault? (s.names.take given) args.named then throw fault
  if most < given then
    throw (.surplusArguments s.function (s.hidden + s.required.length) (s.hidden + most)
      (s.hidden + given))
  let missing := (s.required.drop given).filter fun n => !args.named.any (·.1 == n)
  if !missing.isEmpty then throw (.missingArguments s.function missing)
  let later := (s.names.drop given).map fun n =>
    match args.named.find? (·.1 == n) with
    | some (_, v) => v
    | none => ((s.optional.find? (·.1 == n)).map (·.2)).getD .null
  return args.positional ++ later

end Signature

namespace Arguments

def countText (n : Nat) : String := if n = 1 then "1 argument" else toString n ++ " arguments"

def refuseNames (label : String) (args : Arguments) : Checked Unit :=
  if args.named.isEmpty then .ok ()
  else .error (.badCall (label ++ "() takes no keyword arguments"))

def none (label : String) (args : Arguments) : Checked Unit := do
  refuseNames label args
  if !args.positional.isEmpty then
    throw (.badCall (label ++ "() takes no arguments (" ++ toString args.positional.length ++
      " given)"))

def one (label : String) (args : Arguments) : Checked Value := do
  refuseNames label args
  match args.positional with
  | [v] => return v
  | vs =>
    throw (.badCall (label ++ "() takes exactly one argument (" ++ toString vs.length ++ " given)"))

/-- Between `least` and `most` arguments by position. -/
def between (label name : String) (least most : Nat) (args : Arguments) : Checked (List Value) := do
  refuseNames label args
  let n := args.positional.length
  if n < least then
    throw (.badCall (name ++ " expected " ++ (if least = most then "" else "at least ") ++
      countText least ++ ", got " ++ toString n))
  if most < n then
    throw (.badCall (name ++ " expected " ++ (if least = most then "" else "at most ") ++
      countText most ++ ", got " ++ toString n))
  return args.positional

/-- Between `least` and `most` arguments by position, in the wording of the searching methods. -/
def searching (name : String) (least most : Nat) (args : Arguments) : Checked (List Value) := do
  refuseNames name args
  let n := args.positional.length
  if n < least then
    throw (.badCall (name ++ "() takes at least " ++ countText least ++ " (" ++ toString n ++
      " given)"))
  if most < n then
    throw (.badCall (name ++ "() takes at most " ++ countText most ++ " (" ++ toString n ++
      " given)"))
  return args.positional

/-- Arguments that may all be left out, by position or by name. -/
def free (name : String) (parameters : Fields) (args : Arguments) : Checked (List Value) := do
  let given := args.positional.length
  let total := given + args.named.length
  let most := parameters.length
  if most < total then
    throw (.badCall (name ++ "() takes at most " ++ countText most ++ " (" ++
      toString total ++ " given)"))
  if let some (repeated, _) := args.named.find? fun (k, _) => ((parameters.take given).any (·.1 == k)) then
    throw (.badCall ("argument for " ++ name ++ "() given by name ('" ++ repeated ++
      "') and position (" ++
      toString ((parameters.findIdx (·.1 == repeated)) + 1) ++ ")"))
  if let some (unknown, _) := args.named.find? fun (k, _) => !(parameters.any (·.1 == k)) then
    throw (.badCall ("'" ++ unknown ++ "' is an invalid keyword argument for " ++ name ++ "()"))
  return args.positional ++ (parameters.drop given).map fun (k, v) =>
    ((args.named.find? (·.1 == k)).map (·.2)).getD v

end Arguments

end Stepwise.Script
