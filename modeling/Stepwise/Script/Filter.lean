import Stepwise.Script.Filter.Number
import Stepwise.Script.Filter.Sequence
import Stepwise.Script.Filter.Text
import Stepwise.Script.Test

/-!
Filters: functions that scripts apply to a value with `|`. Some of them apply another filter or a
test, given by name, to each item.
-/

namespace Stepwise.Script.Filter

open SequenceFilter (Flow Getter)
open Value (text list int bool)

def isKnown (name : String) : Bool := Test.filterNames.contains name

/-- Filters that need to know more than their arguments; their result is never settled early. -/
def needsContext (name : String) : Bool :=
  ["map", "select", "reject", "selectattr", "rejectattr", "random"].contains name

/-- The name that a filter was given for another one. -/
def nestedName (kind : String) (v : Value) : Checked String := do
  Value.checkKey v
  match v.textOf? with
  | some name => return name
  | none => throw (.filterArgument ("No " ++ kind ++ " named " ++ (← v.written) ++ "."))

/-! ### Filters without nested names -/

/-- A filter by its signature, and what it does with the values of its parameters. -/
structure Plain where
  signature : Signature
  run : List Value → Checked Value

/-- A filter of one value. -/
def one (function parameter : String) (hidden : Nat) (f : Value → Checked Value) : Plain :=
  ⟨{ function, hidden, required := [parameter] }, fun values => f (values[0]?.getD .null)⟩

def at? (values : List Value) (i : Nat) : Value := values[i]?.getD .null

def plain? (name : String) : Option Plain :=
  match name with
  | "upper" => some (one "do_upper" "s" 0 fun v => TextFilter.viaMethod "upper" v [])
  | "lower" => some (one "do_lower" "s" 0 fun v => TextFilter.viaMethod "lower" v [])
  | "capitalize" => some (one "do_capitalize" "s" 0 fun v => TextFilter.viaMethod "capitalize" v [])
  | "title" => some (one "do_title" "s" 0 TextFilter.title)
  | "string" => some (one "soft_str" "s" 0 TextFilter.soft)
  | "wordcount" => some (one "do_wordcount" "s" 0 TextFilter.wordCount)
  | "urlencode" => some (one "do_urlencode" "value" 0 TextFilter.urlEncode)
  | "e" | "escape" => some (one "escape" "s" 0 fun v => do return .markup (← v.escaped))
  | "forceescape" => some (one "do_forceescape" "value" 0 fun v => do
      return .markup (Text.escapeMarkup (← v.shown)))
  | "safe" => some (one "do_mark_safe" "value" 0 fun v => do return .markup (← v.shown))
  | "items" => some (one "do_items" "value" 0 fun v => .ok (SequenceFilter.entries v))
  | "first" => some (one "sync_do_first" "seq" 1 SequenceFilter.first)
  | "last" => some (one "do_last" "seq" 1 SequenceFilter.last)
  | "list" => some (one "sync_do_list" "value" 0 fun v => do return list (← v.allItems))
  | "reverse" => some (one "do_reverse" "value" 0 SequenceFilter.reverse)
  | "center" => some ⟨{ function := "do_center", required := ["value"], optional := [("width", int 80)] },
      fun vs => TextFilter.viaMethod "center" (at? vs 0) [at? vs 1]⟩
  | "trim" => some ⟨{ function := "do_trim", required := ["value"], optional := [("chars", .null)] },
      fun vs => TextFilter.viaMethod "strip" (at? vs 0) [at? vs 1]⟩
  | "replace" => some
      ⟨{ function := "do_replace", hidden := 1, required := ["s", "old", "new"],
         optional := [("count", .null)] },
       fun vs => TextFilter.replace (at? vs 0) (at? vs 1) (at? vs 2) (at? vs 3)⟩
  | "truncate" => some
      ⟨{ function := "do_truncate", hidden := 1, required := ["s"],
         optional := [("length", int 255), ("killwords", bool false), ("end", text "..."),
           ("leeway", .null)] },
       fun vs => TextFilter.truncate (at? vs 0) (at? vs 1) (at? vs 2) (at? vs 3) (at? vs 4)⟩
  | "indent" => some
      ⟨{ function := "do_indent", required := ["s"],
         optional := [("width", int 4), ("first", bool false), ("blank", bool false)] },
       fun vs => TextFilter.indent (at? vs 0) (at? vs 1) (at? vs 2) (at? vs 3)⟩
  | "tojson" => some
      ⟨{ function := "do_tojson", hidden := 1, required := ["value"], optional := [("indent", .null)] },
       fun vs => TextFilter.toJson (at? vs 0) (at? vs 1)⟩
  | "default" | "d" => some
      ⟨{ function := "do_default", required := ["value"],
         optional := [("default_value", text ""), ("boolean", bool false)] },
       fun vs => default (at? vs 0) (at? vs 1) (at? vs 2)⟩
  | "int" => some
      ⟨{ function := "do_int", required := ["value"],
         optional := [("default", int 0), ("base", int 10)] },
       fun vs => NumberFilter.toInt (at? vs 0) (at? vs 1) (at? vs 2)⟩
  | "float" => some
      ⟨{ function := "do_float", required := ["value"],
         optional := [("default", .float Binary64.zero)] },
       fun vs => NumberFilter.toFloat (at? vs 0) (at? vs 1)⟩
  | "round" => some
      ⟨{ function := "do_round", required := ["value"],
         optional := [("precision", int 0), ("method", text "common")] },
       fun vs => NumberFilter.round (at? vs 0) (at? vs 1) (at? vs 2)⟩
  | "attr" => some
      ⟨{ function := "do_attr", hidden := 1, required := ["obj", "name"] },
       fun vs => attr (at? vs 0) (at? vs 1)⟩
  | "sort" => some
      ⟨{ function := "do_sort", hidden := 1, required := ["value"],
         optional := [("reverse", bool false), ("case_sensitive", bool false), ("attribute", .null)] },
       fun vs => SequenceFilter.sort (at? vs 0) (at? vs 1) (at? vs 2) (at? vs 3)⟩
  | "dictsort" => some
      ⟨{ function := "do_dictsort", required := ["value"],
         optional := [("case_sensitive", bool false), ("by", text "key"), ("reverse", bool false)] },
       fun vs => SequenceFilter.dictSort (at? vs 0) (at? vs 1) (at? vs 2) (at? vs 3)⟩
  | "unique" => some
      ⟨{ function := "do_unique", hidden := 1, required := ["value"],
         optional := [("case_sensitive", bool false), ("attribute", .null)] },
       fun vs => .ok (SequenceFilter.unique (at? vs 0) (at? vs 1) (at? vs 2))⟩
  | "min" => some (extreme "do_min" false)
  | "max" => some (extreme "do_max" true)
  | "groupby" => some
      ⟨{ function := "sync_do_groupby", hidden := 1, required := ["value", "attribute"],
         optional := [("default", .null), ("case_sensitive", bool false)] },
       fun vs => SequenceFilter.groupBy (at? vs 0) (at? vs 1) (at? vs 2) (at? vs 3)⟩
  | "batch" => some
      ⟨{ function := "do_batch", required := ["value", "linecount"],
         optional := [("fill_with", .null)] },
       fun vs => .ok (SequenceFilter.batch (at? vs 0) (at? vs 1) (at? vs 2))⟩
  | "slice" => some
      ⟨{ function := "sync_do_slice", required := ["value", "slices"],
         optional := [("fill_with", .null)] },
       fun vs => .ok (SequenceFilter.slice (at? vs 0) (at? vs 1) (at? vs 2))⟩
  | "sum" => some
      ⟨{ function := "sync_do_sum", hidden := 1, required := ["iterable"],
         optional := [("attribute", .null), ("start", int 0)] },
       fun vs => SequenceFilter.sum (at? vs 0) (at? vs 1) (at? vs 2)⟩
  | "join" => some
      ⟨{ function := "sync_do_join", hidden := 1, required := ["value"],
         optional := [("d", text ""), ("attribute", .null)] },
       fun vs => SequenceFilter.join (at? vs 0) (at? vs 1) (at? vs 2)⟩
  | _ => none
where
  extreme (function : String) (greatest : Bool) : Plain :=
    ⟨{ function, hidden := 1, required := ["value"],
       optional := [("case_sensitive", bool false), ("attribute", .null)] },
     fun vs => SequenceFilter.extreme greatest (at? vs 0) (at? vs 1) (at? vs 2)⟩
  default (v instead boolean : Value) : Checked Value := do
    match v with
    | .undefined _ => return instead
    | v => if ← boolean.truthy then return (if ← v.truthy then v else instead) else return v
  attr (v name : Value) : Checked Value := do
    match name.textOf? with
    | none => throw (.badCall ("attribute name must be string, not '" ++ name.typeName ++ "'"))
    | some s =>
      match v with
      | .undefined _ => v.getAttribute s
      | _ =>
        match v.attribute? s with
        | some found => return v.allowedAttribute s found
        | none => return v.missing name

/-! ### Filters with nested names -/

/-- The items for which a test holds, or does not hold. -/
def choose (wanted byPart : Bool) (v : Value) (args : Arguments) : Value :=
  match chosen with
  | .ok flow => flow.toValue
  | .error fault => (Flow.failed fault).toValue
where
  ask (name : String) (rest : List Value) (item : Value) : Checked Bool :=
    (Test.call? name item ⟨rest, args.named⟩).getD (.error (.unknownTest name false))
  chosen : Checked Flow := do
    if !(← v.truthy) then return {}
    let (getter, rest) ← match byPart, args.positional with
      | true, [] => throw (.filterArgument "Missing parameter for attribute name")
      | true, part :: rest => do pure (some (← Getter.ofAttribute part false), rest)
      | false, rest => pure (none, rest)
    return (Flow.of v).filterMap fun item => do
      let looked ← match getter with
        | some g => g.get item
        | none => pure item
      let holds ← match rest with
        | [] => looked.truthy
        | name :: rest => ask (← nestedName "test" name) rest looked
      return if holds == wanted then some item else none

/-- The part of each item that the names of a call ask for. -/
def mapPart (v : Value) (named : Fields) : Value :=
  match mapped with
  | .ok flow => flow.toValue
  | .error fault => (Flow.failed fault).toValue
where
  mapped : Checked Flow := do
    if !(← v.truthy) then return {}
    let part := ((named.find? (·.1 == "attribute")).map (·.2)).getD .null
    let default := match (named.find? (·.1 == "default")).map (·.2) with
      | some .null => none
      | d => d
    match named.find? fun (k, _) => k != "attribute" && k != "default" with
    | some (k, _) => throw (.filterArgument ("Unexpected keyword argument " ++ Text.quoted k))
    | none => pure ()
    let getter : Getter := { path := ← SequenceFilter.pathOf part, default }
    return (Flow.of v).filterMap fun item => do return some (← getter.get item)

/-- Applies a filter to a value with arguments. The arguments of a nested filter are what follows
its name. -/
def apply (name : String) (v : Value) (named : Fields) : List Value → Checked Value
  | [] =>
    if name == "map" then
      if named.any (·.1 == "attribute") then .ok (mapPart v named)
      else .ok (match v.truthy with
        | .ok false => ({} : Flow).toValue
        | .ok true => (Flow.failed (.filterArgument "map requires a filter argument")).toValue
        | .error fault => (Flow.failed fault).toValue)
    else other name v ⟨[], named⟩
  | nested :: rest =>
    if name == "map" then
      match v.truthy with
      | .error fault => .ok (Flow.failed fault).toValue
      | .ok false => .ok ({} : Flow).toValue
      | .ok true =>
        .ok ((Flow.of v).filterMap fun item => do
          let filter ← nestedName "filter" nested
          return some (← apply filter item named rest)).toValue
    else other name v ⟨nested :: rest, named⟩
where
  other (name : String) (v : Value) (args : Arguments) : Checked Value :=
    let all : Arguments := { args with positional := v :: args.positional }
    match name with
    | "abs" => do (← all.one "abs").magnitude
    | "length" | "count" => do return int (← (← all.one "len").length)
    | "format" => TextFilter.format v args
    | "select" => .ok (choose true false v args)
    | "reject" => .ok (choose false false v args)
    | "selectattr" => .ok (choose true true v args)
    | "rejectattr" => .ok (choose false true v args)
    | _ =>
      match plain? name with
      | some filter => do filter.run (← filter.signature.bind all)
      | none => .error (.unknownFilter name false)

end Stepwise.Script.Filter
