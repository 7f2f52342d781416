import Stepwise.Json.Writing
import Stepwise.Text.Utf8

/-!
Documents of values: the part of a value that JSON has a form for. Tuples become lists, keys become
texts, and infinities and NaN become null. The items of a stream are handed out for a document once,
so that the value is left without them.
-/

namespace Stepwise.Json

/-- The text that a document files a key under. -/
def documentKey : Value → Checked String
  | .null => .ok "None"
  | .bool b => .ok (if b then "true" else "false")
  | .int n => Value.writtenInt n
  | .float x => .ok x.text
  | .text s => .ok s
  | .markup s => .ok s
  | .tuple items => do return ",".intercalate (← keys items)
  | v => .error (.notJson v.typeName)
where
  keys : List Value → Checked (List String)
    | [] => .ok []
    | v :: rest => do return (← documentKey v) :: (← keys rest)

/-- The document of a value, and what is left of the value. -/
def take : Value → Checked Value × Value
  | .float x => (.ok (if x.isFinite then .float x else .null), .float x)
  | .markup s => (.ok (.text s), .markup s)
  | .bytes data =>
    (((Text.Utf8.text? data).elim (.error (.notJson "bytes")) fun s => .ok (.text s)), .bytes data)
  | .list items =>
    let (documents, left) := takeAll items
    (documents.map .list, .list left)
  | .tuple items =>
    let (documents, left) := takeAll items
    (documents.map .list, .tuple left)
  | .group key members =>
    match take key with
    | (.error f, key) => (.error f, .group key members)
    | (.ok k, key) =>
      let (documents, left) := takeAll members
      (documents.map fun ms => .list [k, .list ms], .group key left)
  | .dict entries =>
    let (documents, left) := takeEntries [] entries
    (documents.map .dict, .dict left)
  | .stream typeName items failure =>
    match drain items with
    | (.error f, rest) => (.error f, .stream typeName rest failure)
    | (.ok documents, _) =>
      (failure.elim (.ok (.list documents)) .error, .stream typeName [] none)
  | v => (if v.isPlain then .ok v else .error (.notJson v.typeName), v)
where
  takeAll : List Value → Checked (List Value) × List Value
    | [] => (.ok [], [])
    | v :: rest =>
      match take v with
      | (.error f, v) => (.error f, v :: rest)
      | (.ok document, v) =>
        let (documents, left) := takeAll rest
        (documents.map (document :: ·), v :: left)
  /-- The documents of items that are handed out, and the items that are not. -/
  drain : List Value → Checked (List Value) × List Value
    | [] => (.ok [], [])
    | v :: rest =>
      match (take v).1 with
      | .error f => (.error f, rest)
      | .ok document =>
        let (documents, left) := drain rest
        (documents.map (document :: ·), left)
  /-- Files the documents of entries after those that are done. -/
  takeEntries (done : Entries) : Entries → Checked Entries × Entries
    | [] => (.ok done, [])
    | (key, v) :: rest =>
      match documentKey key with
      | .error f => (.error f, (key, v) :: rest)
      | .ok name =>
        match take v with
        | (.error f, v) => (.error f, (key, v) :: rest)
        | (.ok document, v) =>
          let (entries, left) := takeEntries (Value.put done (.text name) document) rest
          (entries, (key, v) :: left)

/-- The document of a value. -/
def document (v : Value) : Checked Value := (take v).1

/-- The documents of named values, and what is left of the values. -/
def takeFields : Fields → Checked Fields × Fields
  | [] => (.ok [], [])
  | (name, v) :: rest =>
    match take v with
    | (.error f, v) => (.error f, (name, v) :: rest)
    | (.ok document, v) =>
      let (documents, left) := takeFields rest
      (documents.map ((name, document) :: ·), (name, v) :: left)

/-! ### Finite data -/

/-- Is plain data free of infinities and NaN? -/
def isFinite : Value → Bool
  | .float x => x.isFinite
  | .list items => finiteAll items
  | .tuple items => finiteAll items
  | .dict entries => finiteEntries entries
  | _ => true
where
  finiteAll : List Value → Bool
    | [] => true
    | v :: rest => isFinite v && finiteAll rest
  finiteEntries : Entries → Bool
    | [] => true
    | (_, v) :: rest => isFinite v && finiteEntries rest

end Stepwise.Json
