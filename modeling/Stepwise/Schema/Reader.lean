import Stepwise.Schema.Issue
import Stepwise.Text.Search
import Stepwise.Text.Utf8
import Stepwise.Time.Moment
import Stepwise.Value.Convert

/-!
Readers: they turn a value into typed data, or say all that is wrong with it. The readers of the
fields of a record are joined so that the issues of all of them are found, in the order of the
fields.
-/

namespace Stepwise.Schema

/-- Typed data, or the issues of the value that it was read from. -/
inductive Loaded (α : Type) where
  | ok (data : α)
  | bad (issues : List Issue)
  deriving Inhabited

namespace Loaded

def map {α β : Type} (f : α → β) : Loaded α → Loaded β
  | ok a => ok (f a)
  | bad issues => bad issues

/-- Joins two results; the issues of the first come first. -/
def seq {α β : Type} (f : Loaded (α → β)) (x : Loaded α) : Loaded β :=
  match f, x with
  | ok g, ok a => ok (g a)
  | ok _, bad issues => bad issues
  | bad issues, ok _ => bad issues
  | bad issues, bad more => bad (issues ++ more)

instance : Applicative Loaded where
  map := map
  pure := ok
  seq f x := seq f (x ())

/-- Goes on with the data, if there is any. -/
def andThen {α β : Type} (x : Loaded α) (f : α → Loaded β) : Loaded β :=
  match x with
  | ok a => f a
  | bad issues => bad issues

/-- The issues of a part as issues of the whole. -/
def under {α : Type} (place : Place) : Loaded α → Loaded α
  | ok a => ok a
  | bad issues => bad (issues.map (Issue.under place))

/-- One issue, with the value itself. -/
def fail {α : Type} (cause : Cause) (input : Value) : Loaded α := bad [⟨[], cause, input⟩]

/-- The data, or the report as a fault. -/
def checked {α : Type} (record : String) : Loaded α → Checked α
  | ok a => .ok a
  | bad issues => .error (.badModel (report record issues))

end Loaded

/-- Reads typed data from a value. -/
abbrev Reader (α : Type) := Value → Loaded α

/-! ### Results -/

theorem under_eq_ok {α : Type} {x : Loaded α} {place : Place} {a : α} :
    x.under place = .ok a ↔ x = .ok a := by
  cases x <;> simp [Loaded.under]

theorem map_eq_ok {α β : Type} {f : α → β} {x : Loaded α} {b : β} :
    x.map f = .ok b ↔ ∃ a, x = .ok a ∧ f a = b := by
  cases x <;> simp [Loaded.map]

theorem seq_eq_ok {α β : Type} {f : Loaded (α → β)} {x : Loaded α} {b : β} :
    f.seq x = .ok b ↔ ∃ g a, f = .ok g ∧ x = .ok a ∧ g a = b := by
  cases f <;> cases x <;> simp [Loaded.seq]

/-! ### Scalars -/

def text : Reader String
  | .text s => .ok s
  | .markup s => .ok s
  | .bytes data =>
    match Text.Utf8.text? data with
    | some s => .ok s
    | none => .fail .textEncoding (.bytes data)
  | v => .fail .text v

/-- A text of at least so many characters. -/
def textOf (least : Nat) : Reader String := fun v =>
  (text v).andThen fun s => if s.length < least then .fail (.textTooShort least) v else .ok s

/-- Nothing, or what another reader reads. -/
def optional {α : Type} (reader : Reader α) : Reader (Option α)
  | .null => .ok none
  | v => (reader v).map some

/-- Blanks around a number; the separators among the control characters are none. -/
def isSpace (c : Char) : Bool := Text.isBlank c && !(0x1c ≤ c.toNat && c.toNat ≤ 0x1f)

/-- The longest text that is read as an integer. -/
def maxIntegerText : Nat := 4300

/-- Removes underscores that stand alone between other characters. -/
def withoutUnderscores (s : List Char) : List Char :=
  if s.head? = some '_' ∨ s.getLast? = some '_' ∨ Text.contains ['_', '_'] s then s
  else s.filter (· != '_')

/-- Cuts off a point and the zeros after it. -/
def withoutZeroFraction (s : List Char) : List Char :=
  let whole := s.takeWhile (· != '.')
  match s.drop whole.length with
  | [] => s
  | _ :: fraction => if fraction.all (· == '0') then whole else s

/-- The integer that a text writes, perhaps with a sign, with underscores and with a fraction of
zeros. -/
def integerOfText? (s : String) : Option Int :=
  let body := Text.trimBy isSpace s.toList
  let (negative, body) := match body with
    | '-' :: rest => (true, rest)
    | '+' :: rest => (false, rest)
    | rest => (false, rest)
  let digits := withoutUnderscores (withoutZeroFraction body)
  (Moment.number? digits).map fun n => if negative then -(n : Int) else n

def integer : Reader Int
  | .int n => .ok n
  | .bool b => .ok (if b then 1 else 0)
  | v@(.float x) =>
    match x.toInt? with
    | none => .fail .finite v
    | some n => if x.isInteger then .ok n else .fail .integerFraction v
  | v =>
    match v.textOf? with
    | none => .fail .integer v
    | some s =>
      if maxIntegerText < s.utf8ByteSize then .fail .integerTextSize v
      else
        match integerOfText? s with
        | some n => .ok n
        | none => .fail .integerText v

/-- An integer between bounds. -/
def integerIn (least : Int) (most? : Option Int) : Reader Int := fun v =>
  (integer v).andThen fun n =>
    match most? with
    | some most =>
      if most < n then .fail (.tooLarge most) v
      else if n < least then .fail (.tooSmall least) v else .ok n
    | none => if n < least then .fail (.tooSmall least) v else .ok n

/-- The number that a text writes. -/
def numberOfText? (s : String) : Option Binary64 :=
  let body := Text.trimBy isSpace s.toList
  let plain := withoutUnderscores body
  if plain.all (fun c => c.toNat < 128 && c != '_') then Reading.float? (String.ofList plain)
  else none

def number : Reader Binary64
  | .float x => .ok x
  | v@(.int n) =>
    match Binary64.ofInt? n with
    | some x => .ok x
    | none => .fail .number v
  | .bool b => .ok (Binary64.ofInt (if b then 1 else 0))
  | v =>
    match v.textOf? with
    | none => .fail .number v
    | some s =>
      match numberOfText? s with
      | some x => .ok x
      | none => .fail .numberText v

/-- A number between bounds; the upper one is tested first, and a NaN fails it. -/
def numberIn (least most : Int) : Reader Binary64 := fun v =>
  (number v).andThen fun x =>
    if !x.le (Binary64.ofInt most) then .fail (.tooLarge most) v
    else if !(Binary64.ofInt least).le x then .fail (.tooSmall least) v
    else .ok x

def trueWords : List String := ["1", "on", "t", "true", "y", "yes"]

def falseWords : List String := ["0", "off", "f", "false", "n", "no"]

def booleanOfInt (v : Value) (n : Int) : Loaded Bool :=
  if n = 0 then .ok false else if n = 1 then .ok true else .fail .booleanText v

def boolean : Reader Bool
  | .bool b => .ok b
  | v@(.int n) => booleanOfInt v n
  | v@(.float x) =>
    match x.toInt? with
    | some n => if x.isInteger then booleanOfInt v n else .fail .boolean v
    | none => .fail .boolean v
  | v =>
    match v.textOf? with
    | none => .fail .boolean v
    | some s =>
      let word := s.map Char.toLower
      if trueWords.contains word then .ok true
      else if falseWords.contains word then .ok false
      else .fail .booleanText v

/-- One of a few texts, each of which stands for something. -/
def choice {α : Type} (options : List (String × α)) : Reader α := fun v =>
  match v.textOf?.bind fun s => options.find? (·.1 == s) with
  | some (_, a) => .ok a
  | none => .fail (.choice (options.map (·.1))) v

/-- What is said of a number of seconds that no moment has. -/
def momentRangeText (n : Int) : String :=
  if n < 0 then "dates before 0000 are not supported as unix timestamps"
  else "dates after 9999 are not supported as unix timestamps"

def moment : Reader Moment
  | v@(.int n) =>
    match Moment.ofCount? (n * 1000000) with
    | some m => .ok m
    | none => .fail (.momentRange (momentRangeText n)) v
  | v@(.float .nan) => .fail (.momentRange "NaN values not permitted") v
  | v@(.float x) =>
    match (x.mul (Binary64.ofInt 1000000)).roundEven.bind Moment.ofCount? with
    | some m => .ok m
    | none => .fail (.momentRange (momentRangeText (if x.isNegative then -1 else 1))) v
  | v@(.text s) =>
    match Moment.ofText s with
    | .ok m => .ok m
    | .error e => .fail (.momentText e.message) v
  | v => .fail .moment v

/-! ### Lists and mappings -/

/-- Reads every item; the issues of an item stand under its index. -/
def readItems {α : Type} (reader : Reader α) (index : Nat) : List Value → Loaded (List α)
  | [] => .ok []
  | v :: rest =>
    (((reader v).under (.element index)).map List.cons).seq (readItems reader (index + 1) rest)

/-- Every item read comes from an item of the list. -/
theorem exists_of_readItems {α : Type} {reader : Reader α} {index : Nat} {items : List Value}
    {read : List α} (h : readItems reader index items = .ok read) :
    ∀ a ∈ read, ∃ v ∈ items, reader v = .ok a := by
  induction items generalizing index read with
  | nil => simp_all [readItems]
  | cons v rest ih =>
    obtain ⟨g, others, hg, hOthers, rfl⟩ := seq_eq_ok.1 h
    obtain ⟨b, hb, rfl⟩ := map_eq_ok.1 hg
    intro a ha
    rcases List.mem_cons.1 ha with rfl | ha
    · exact ⟨v, by simp, under_eq_ok.1 hb⟩
    · obtain ⟨w, hw, read⟩ := ih hOthers a ha
      exact ⟨w, by simp [hw], read⟩

def list {α : Type} (reader : Reader α) : Reader (List α) := fun v =>
  match v with
  | .list items => readItems reader 0 items
  | .tuple items => readItems reader 0 items
  | _ => .fail .list v

def keyPlace (key : Value) : Place :=
  .member (match key.shown with
    | .ok s => s
    | .error _ => "")

/-- Reads the members of a mapping whose keys are texts. -/
def readMembers : List (Value × Value) → Loaded Fields
  | [] => .ok []
  | (key, v) :: rest =>
    let name := ((text key).under (.member "[key]")).under (keyPlace key)
    (name.map fun n members => (n, v) :: members).seq (readMembers rest)

def mapping : Reader Fields
  | .dict entries => readMembers entries
  | v => .fail .mapping v

/-- The members read are no deeper than the entries. -/
theorem depth_readMembers {entries : List (Value × Value)} {fields : Fields}
    (h : readMembers entries = .ok fields) :
    (Value.ofFields fields).depth ≤ (Value.dict entries).depth := by
  induction entries generalizing fields with
  | nil =>
    simp only [readMembers, Loaded.ok.injEq] at h
    subst h
    simp [Value.ofFields]
  | cons e rest ih =>
    obtain ⟨k, v⟩ := e
    obtain ⟨g, others, hg, hOthers, rfl⟩ := seq_eq_ok.1 h
    obtain ⟨n, hn, rfl⟩ := map_eq_ok.1 hg
    have := ih hOthers
    simp only [Value.ofFields, Value.depth, List.map_cons, Value.depth.depthEntries] at this ⊢
    omega

/-! ### Records -/

/-- A field that must be there. -/
def required {α : Type} (entries : Entries) (name : String) (reader : Reader α) : Loaded α :=
  match Value.lookupText? entries name with
  | some v => (reader v).under (.member name)
  | none => .bad [⟨[.member name], .missing, .dict entries⟩]

/-- A field that stands for a default where it is not there. -/
def field {α : Type} (entries : Entries) (name : String) (default : α) (reader : Reader α) :
    Loaded α :=
  match Value.lookupText? entries name with
  | some v => (reader v).under (.member name)
  | none => .ok default

/-- A field is its default or comes from the member of its name. -/
theorem field_eq_ok {α : Type} {entries : Entries} {name : String} {default a : α}
    {reader : Reader α} (h : field entries name default reader = .ok a) :
    a = default ∨ ∃ v, Value.lookupText? entries name = some v ∧ reader v = .ok a := by
  unfold field at h
  split at h
  · rename_i v found
    exact Or.inr ⟨v, found, under_eq_ok.1 h⟩
  · exact Or.inl (Loaded.ok.inj h).symm

/-- Refuses every member that is no field. -/
def noExtras (names : List String) (entries : Entries) : Loaded Unit :=
  let extras := entries.filter fun e =>
    match e.1.textOf? with
    | some name => !names.contains name
    | none => true
  if extras.isEmpty then .ok ()
  else .bad (extras.map fun e => ⟨[keyPlace e.1], .extra, e.2⟩)

/-- Reads a record from the entries of a mapping. -/
def record {α : Type} (form : RecordForm) (read : Entries → Loaded α) : Reader α
  | .dict entries => read entries
  | v => .fail (.record form) v

end Stepwise.Schema
