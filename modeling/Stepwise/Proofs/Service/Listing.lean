import Mathlib.Algebra.Group.Nat.Defs
import Mathlib.Data.List.TakeWhile
import Stepwise.Proofs.Reference.Path
import Stepwise.Service.Answer
import Stepwise.Service.Listing
import Stepwise.Service.Route

/-!
Requests for pages of the history: which listing a request is read as, and that every listing of a page
with one to a thousand places can be asked for.
-/

namespace Stepwise

/-! ### Integers in a query -/

namespace Schema

variable {v : Value} {s : List Char} {n : Nat}

theorem bounds_of_integerIn {least m : Int} {most? : Option Int}
    (read : integerIn least most? v = .ok m) : least ≤ m ∧ ∀ most ∈ most?, m ≤ most := by
  rw [integerIn] at read
  cases number : integer v with
  | bad issues =>
      rw [number] at read
      cases read
  | ok m' =>
      rw [number, Loaded.andThen] at read
      cases most? with
      | none =>
          dsimp only at read
          split at read
          · cases read
          · cases read
            exact ⟨by omega, fun most absent => absurd absent (Option.not_mem_none most)⟩
      | some most =>
          dsimp only at read
          split at read
          · cases read
          · split at read
            · cases read
            · cases read
              refine ⟨by omega, ?_⟩
              rintro _ ⟨⟩
              omega

theorem integerIn_eq_ok {least m : Int} {most? : Option Int} (read : integer v = .ok m)
    (low : least ≤ m) (high : ∀ most ∈ most?, m ≤ most) : integerIn least most? v = .ok m := by
  rw [integerIn, read, Loaded.andThen]
  cases most? with
  | none => exact if_neg (by omega)
  | some most =>
      have bound := high most rfl
      dsimp only
      rw [if_neg (by omega), if_neg (by omega)]

theorem utf8ByteSize_of_digits (digits : ∀ c ∈ s, c.isDigit = true) :
    (String.ofList s).utf8ByteSize = s.length := by
  induction s with
  | nil => rfl
  | cons c rest ih =>
      obtain ⟨digit, others⟩ := List.forall_mem_cons.mp digits
      have narrow : c.utf8Size = 1 := by
        rw [Char.isDigit, Bool.and_eq_true, decide_eq_true_eq, decide_eq_true_eq] at digit
        exact Char.utf8Size_eq_one_iff.mpr (UInt32.le_trans digit.2 (by decide))
      rw [String.ofList_cons, String.utf8ByteSize_append, ih others, String.utf8ByteSize_singleton,
        narrow, List.length_cons, Nat.add_comm]

/-- Nothing is cut off digits before they are read. -/
theorem integerOfText?_of_digits (digits : ∀ c ∈ s, c.isDigit = true) :
    integerOfText? (String.ofList s) = (Moment.number? s).map Int.ofNat := by
  have solid : ∀ c ∈ s, isSpace c = false := by
    intro c member
    rw [isSpace, Text.isBlank_of_isDigit (digits c member), Bool.false_and]
  have apart {odd : Char} (sign : odd.isDigit = false) : ∀ c ∈ s, (c != odd) = true := by
    intro c member
    rw [bne_iff_ne]
    rintro rfl
    rw [digits c member] at sign
    cases sign
  have whole : withoutZeroFraction s = s := by
    have all : s.takeWhile (· != '.') = s := List.takeWhile_eq_self_iff.mpr (apart rfl)
    rw [withoutZeroFraction, all, List.drop_length]
  have plain : withoutUnderscores s = s := by
    have all : s.filter (· != '_') = s := List.filter_eq_self.mpr (apart rfl)
    rw [withoutUnderscores, all, ite_self]
  rw [integerOfText?, String.toList_ofList, Text.trimBy_of_forall solid]
  dsimp only
  split
  · rename_i rest
    exact absurd (digits '-' List.mem_cons_self) (by decide)
  · rename_i rest
    exact absurd (digits '+' List.mem_cons_self) (by decide)
  · rw [whole, plain]
    cases Moment.number? s <;> rfl

/-- A number is read as it is written, unless there are too many digits. -/
theorem integer_repr (short : n < 10 ^ maxIntegerText) : integer (.text n.repr) = .ok n := by
  have digits : ∀ c ∈ Nat.toDigits 10 n, c.isDigit = true := fun c member =>
    Nat.isDigit_of_mem_toDigits (by omega) (Nat.le_refl 10) member
  have written : n.repr = String.ofList (Nat.toDigits 10 n) := by
    rw [← Nat.toList_repr, String.ofList_toList]
  have read : integerOfText? n.repr = some (n : Int) := by
    rw [written, integerOfText?_of_digits digits, Moment.number?, if_pos]
    · exact congrArg (fun m => some (Int.ofNat m)) (Nat.ofDigitChars_toDigits (by omega) (by omega))
    · refine ⟨?_, List.all_eq_true.mpr digits⟩
      rw [Bool.not_eq_true', List.isEmpty_eq_false_iff]
      exact Nat.toDigits_ne_nil
  have size : ¬maxIntegerText < n.repr.utf8ByteSize := by
    rw [written, utf8ByteSize_of_digits digits, Nat.not_lt]
    exact (Nat.length_toDigits_le_iff (by omega) (by decide)).mpr short
  show (if maxIntegerText < n.repr.utf8ByteSize then _ else _) = _
  rw [if_neg size, read]

end Schema

/-! ### Listings and requests -/

/-- The request asks for the runs of a listing. -/
structure Request.Lists (r : Request) (l : Listing) : Prop where
  routed : Routing.ofRequest r = .found .runs
  read : Listing.ofRequest r = .ok l

namespace Listing

variable {l : Listing} {r : Request}

/-- A listing that is read is of a page with at least one place and at most a thousand. -/
theorem bounds_of_ofRequest (read : ofRequest r = .ok l) :
    1 ≤ l.limit ∧ l.limit ≤ maxLimit ∧ 0 ≤ l.offset := by
  rw [ofRequest] at read
  split at read
  · rename_i l' entries
    cases read
    obtain ⟨f, status, entries', -, rfl⟩ := Schema.seq_eq_ok.mp entries
    obtain ⟨g, workflow, onPage, -, rfl⟩ := Schema.seq_eq_ok.mp entries'
    obtain ⟨build, offset, made, onOffset, rfl⟩ := Schema.seq_eq_ok.mp onPage
    obtain ⟨limit, onLimit, rfl⟩ := Schema.map_eq_ok.mp made
    have size : 1 ≤ limit ∧ limit ≤ maxLimit := by
      obtain rfl | ⟨v, -, given⟩ := Schema.field_eq_ok onLimit
      · decide
      · obtain ⟨least, most⟩ := Schema.bounds_of_integerIn given
        exact ⟨least, most maxLimit rfl⟩
    refine ⟨size.1, size.2, ?_⟩
    obtain rfl | ⟨v, -, given⟩ := Schema.field_eq_ok onOffset
    · exact Int.le_refl 0
    · exact (Schema.bounds_of_integerIn given).1
  · cases read

theorem limit_nonneg (read : ofRequest r = .ok l) : 0 ≤ l.limit :=
  Int.le_trans (by decide) (bounds_of_ofRequest read).1

/-- What is said of a page: the documents of its runs, and how many runs are asked for in all. -/
def document (l : Listing) (stats : RunStats) (total : Nat) (items : List Value) : Value :=
  .ofFields [("executions", .list items), ("total", .int total), ("limit", .int l.limit),
    ("offset", .int l.offset), ("stats", stats.toValue)]

/-- The request that spells a listing out. -/
def toRequest (l : Listing) : Request where
  method := .get
  path := "/executions"
  query := [("limit", l.limit.toNat.repr), ("offset", l.offset.toNat.repr)] ++
    (l.workflow.map ("workflow_id", ·)).toList ++ (l.status.map ("status", ·.name)).toList

theorem routed_toRequest (l : Listing) : Routing.ofRequest l.toRequest = .found .runs := by
  have all : Routing.candidates l.toRequest.path = [(.get, .runs)] := by
    show Routing.candidates "/executions" = _
    decide +kernel
  rw [Routing.ofRequest, all]
  rfl

theorem ofEntries_eq_ok {entries : Entries} {limit offset : Value}
    (onLimit : Value.lookupText? entries "limit" = some limit)
    (onOffset : Value.lookupText? entries "offset" = some offset)
    (onWorkflow : Value.lookupText? entries "workflow_id" = l.workflow.map .text)
    (onStatus : Value.lookupText? entries "status" = l.status.map fun status => .text status.name)
    (size : Schema.integerIn 1 (some maxLimit) limit = .ok l.limit)
    (start : Schema.integerIn 0 none offset = .ok l.offset) : ofEntries entries = .ok l := by
  have named (status : RunStatus) :
      Schema.choice RunStatus.options (.text status.name) = .ok status := by
    cases status <;> rfl
  have workflow : Schema.field entries "workflow_id" none (Schema.optional Schema.text) =
      .ok l.workflow := by
    rw [Schema.field, onWorkflow]
    cases l.workflow <;> rfl
  have status : Schema.field entries "status" none
      (Schema.optional (Schema.choice RunStatus.options)) = .ok l.status := by
    rw [Schema.field, onStatus]
    cases l.status with
    | none => rfl
    | some status =>
        show ((Schema.choice RunStatus.options (.text status.name)).map some).under _ = _
        rw [named]
        rfl
  rw [ofEntries, workflow, status, Schema.field, Schema.field, onLimit, onOffset]
  dsimp only
  rw [size, start]
  rfl

/-- Every listing with one to a thousand places, whatever is asked of the runs, can be asked for. -/
theorem lists_toRequest (least : 1 ≤ l.limit) (most : l.limit ≤ maxLimit) (forward : 0 ≤ l.offset)
    (short : l.offset.toNat < 10 ^ Schema.maxIntegerText) : l.toRequest.Lists l := by
  have few : l.limit.toNat < 10 ^ Schema.maxIntegerText := by
    rw [maxLimit] at most
    refine Nat.lt_of_lt_of_le (m := 10 ^ 4) (by omega) ?_
    exact Nat.pow_le_pow_right (by omega) (by decide)
  have limit : Schema.integerIn 1 (some maxLimit) (.text l.limit.toNat.repr) = .ok l.limit := by
    have read := Schema.integer_repr few
    rw [Int.toNat_of_nonneg (by omega)] at read
    exact Schema.integerIn_eq_ok read least fun bound same => Option.mem_some.mp same ▸ most
  have offset : Schema.integerIn 0 none (.text l.offset.toNat.repr) = .ok l.offset := by
    have read := Schema.integer_repr short
    rw [Int.toNat_of_nonneg forward] at read
    exact Schema.integerIn_eq_ok read forward fun bound absent => absurd absent (Option.not_mem_none _)
  have entries : ofEntries l.toRequest.parameters = .ok l := by
    obtain ⟨size, start, workflow, status⟩ := l
    cases workflow <;> cases status <;> exact ofEntries_eq_ok rfl rfl rfl rfl limit offset
  refine ⟨routed_toRequest l, ?_⟩
  rw [ofRequest, entries]

end Listing

end Stepwise
