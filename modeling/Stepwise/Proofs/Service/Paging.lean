import Mathlib.Data.List.Forall2
import Stepwise.Proofs.Execution.Registry
import Stepwise.Proofs.Service.Listing
import Stepwise.Proofs.Service.Refusal

/-!
Pages of the history. The pages that are asked for one after the other hold the runs that are asked for,
the latest first and each once, and each tells how many there are in all. Writing the runs of a page may
use up what they hold, but the runs of the pages after it stay as they are.
-/

namespace Stepwise

/-! ### Pages of a list -/

theorem History.between_eq {α : Type} (items : List α) {start stop : Int} (forward : 0 ≤ start)
    (later : 0 ≤ stop) :
    History.between items start stop = (items.take stop.toNat).drop start.toNat := by
  have place {n : Int} (positive : 0 ≤ n) :
      (Value.clampPlace items.length 0 items.length n).toNat = min n.toNat items.length := by
    simp only [Value.clampPlace]
    omega
  rw [History.between]
  dsimp only
  rw [place forward, place later, ← List.take_eq_take_min]
  rcases Nat.le_total start.toNat items.length with inside | beyond
  · rw [Nat.min_eq_left inside]
  · have short := List.length_take_le' stop.toNat items
    rw [Nat.min_eq_right beyond, List.drop_eq_nil_of_le short,
      List.drop_eq_nil_of_le (Nat.le_trans short beyond)]

/-- The pages one after the other are the front of the list. -/
theorem flatMap_pages {α : Type} (items : List α) (size n : Nat) :
    ((List.range n).flatMap fun k => (items.drop (k * size)).take size) = items.take (n * size) := by
  induction n with
  | zero => rw [Nat.zero_mul]; rfl
  | succ n ih =>
      rw [List.range_succ, List.flatMap_append, ih, List.flatMap_singleton, Nat.succ_mul, List.take_add]

/-! ### Pages of the history -/

namespace Listing

variable {l : Listing} {h : History} {r : Run}

/-- The runs that are asked for, the latest first. -/
def matching (l : Listing) (h : History) : List Run := h.recent.filter l.accepts

/-- The same listing on a page, counted from none. -/
def atPage (l : Listing) (k : Nat) : Listing := { l with offset := k * l.limit }

/-- The runs on a page. -/
def slice (l : Listing) (h : History) (k : Nat) : List Run :=
  ((l.matching h).drop (k * l.limit.toNat)).take l.limit.toNat

theorem accepted_eq : l.accepted h = l.matching h := by
  rw [accepted, History.page_of_size_le (Int.ofNat_le.mpr h.length_le), matching]

theorem accepts_iff : l.accepts r = true ↔ (∀ w, l.workflow = some w → w ≠ "" → r.workflow = w) ∧
    ∀ status, l.status = some status → r.status = status := by
  have workflow : l.workflow?.all (· == r.workflow) = true ↔
      ∀ w, l.workflow = some w → w ≠ "" → r.workflow = w := by
    rw [workflow?]
    cases l.workflow with
    | none => exact iff_of_true rfl fun w absent => nomatch absent
    | some w =>
        by_cases unnamed : w = ""
        · subst unnamed
          exact iff_of_true rfl fun w same named => absurd (Option.some.inj same).symm named
        · rw [Option.filter_some, if_pos (bne_iff_ne.mpr unnamed), Option.all_some, beq_iff_eq]
          constructor
          · rintro rfl w same -
            exact Option.some.inj same
          · intro only
            exact (only w rfl unnamed).symm
  have status : l.status.all (· == r.status) = true ↔
      ∀ status, l.status = some status → r.status = status := by
    cases l.status with
    | none => exact iff_of_true rfl fun w absent => nomatch absent
    | some status =>
        rw [Option.all_some, beq_iff_eq]
        constructor
        · rintro rfl status same
          exact Option.some.inj same
        · intro only
          exact (only status rfl).symm
  rw [accepts, Bool.and_eq_true, workflow, status]

theorem accepts_of_plain (plain : l.isFiltered = false) : l.accepts r = true := by
  obtain ⟨noWorkflow, noStatus⟩ := Bool.or_eq_false_iff.mp plain
  rw [Option.isSome_eq_false_iff, Option.isNone_iff_eq_none] at noWorkflow noStatus
  rw [accepts, noWorkflow, noStatus]
  rfl

/-- Whether or not anything is asked of the runs, the page is cut from those that are asked for. -/
theorem page_eq (forward : 0 ≤ l.offset) (positive : 0 ≤ l.limit) : l.page h =
    ((l.matching h).length, ((l.matching h).drop l.offset.toNat).take l.limit.toNat) := by
  have cut (items : List Run) : History.between items l.offset (l.offset + l.limit) =
      (items.drop l.offset.toNat).take l.limit.toNat := by
    rw [History.between_eq items forward (Int.add_nonneg forward positive),
      Int.toNat_add forward positive, List.drop_take, Nat.add_sub_cancel_left]
  rw [page]
  cases filtered : l.isFiltered with
  | true =>
      rw [if_pos rfl]
      dsimp only
      rw [accepted_eq, cut]
  | false =>
      have all : l.matching h = h.recent :=
        List.filter_eq_self.mpr fun r _ => accepts_of_plain filtered
      rw [if_neg Bool.false_ne_true, History.page, cut, all, History.size]

theorem page_atPage (positive : 0 ≤ l.limit) (k : Nat) :
    (l.atPage k).page h = ((l.matching h).length, l.slice h k) := by
  have forward : 0 ≤ (l.atPage k).offset := Int.mul_nonneg (Int.natCast_nonneg k) positive
  have place : (l.atPage k).offset.toNat = k * l.limit.toNat := by
    rw [atPage, Int.toNat_mul (Int.natCast_nonneg k) positive, Int.toNat_natCast]
  rw [page_eq forward positive, place]
  rfl

theorem nonneg_of_atPage {request : Request} {k : Nat} (lists : request.Lists (l.atPage k)) :
    0 ≤ l.limit :=
  (limit_nonneg lists.read :)

end Listing

/-! ### What writing leaves of the runs -/

namespace History

variable {ids : List String} {a b : Run} {as bs : List Run} {h h' : History} {id : String}

/-- The results of the run may have been used up, if it has one of the ids. -/
def SpentRun (ids : List String) (a b : Run) : Prop :=
  b = a ∨ a.id ∈ ids ∧ ∃ results, b = { a with results }

/-- The history with the results of some runs used up. -/
def Spent (ids : List String) (h h' : History) : Prop :=
  List.Forall₂ (SpentRun ids) h.recent h'.recent

theorem spent_refl (ids : List String) (h : History) : Spent ids h h :=
  List.forall₂_same.mpr fun _ _ => Or.inl rfl

theorem SpentRun.mono {others : List String} (subset : ids ⊆ others) (spent : SpentRun ids a b) :
    SpentRun others a b := spent.imp_right fun found => ⟨subset found.1, found.2⟩

theorem Spent.mono {others : List String} (subset : ids ⊆ others) (spent : Spent ids h h') :
    Spent others h h' := spent.imp fun _ _ => SpentRun.mono subset

theorem SpentRun.id_eq (spent : SpentRun ids a b) : b.id = a.id := by
  obtain rfl | ⟨-, results, rfl⟩ := spent <;> rfl

theorem SpentRun.accepts_eq (spent : SpentRun ids a b) (l : Listing) : l.accepts b = l.accepts a := by
  obtain rfl | ⟨-, results, rfl⟩ := spent <;> rfl

theorem spent_updateFirst (left : Fields) (spent : List.Forall₂ (SpentRun ids) as bs) :
    List.Forall₂ (SpentRun (id :: ids)) as (updateFirst id { results? := some left } bs) := by
  -- The first run of the id is updated; those after it stay as they are, even of the same id.
  induction spent with
  | nil => exact List.Forall₂.nil
  | @cons a b as bs first rest ih =>
      have kept := rest.imp fun _ _ => SpentRun.mono (List.subset_cons_self id ids)
      rw [updateFirst]
      split
      · rename_i same
        refine List.Forall₂.cons (Or.inr ⟨?_, left, ?_⟩) kept
        · rw [← first.id_eq, eq_of_beq same]
          exact List.mem_cons_self
        · obtain rfl | ⟨-, results, rfl⟩ := first <;> rfl
      · exact List.Forall₂.cons (first.mono (List.subset_cons_self id ids)) ih

theorem Spent.update (spent : Spent ids h h') (id : String) (left : Fields) :
    Spent (id :: ids) h (h'.update id { results? := some left }) := by
  rw [History.update]
  split
  · exact spent_updateFirst left spent
  · exact spent.mono (List.subset_cons_self id ids)

theorem Spent.matching (spent : Spent ids h h') (l : Listing) :
    List.Forall₂ (SpentRun ids) (l.matching h) (l.matching h') :=
  List.rel_filter (fun _ _ same => iff_of_eq (congrArg (· = true) (same.accepts_eq l).symm)) spent

theorem Spent.length_matching (spent : Spent ids h h') (l : Listing) :
    (l.matching h').length = (l.matching h).length := (spent.matching l).length_eq.symm

theorem Spent.slice (spent : Spent ids h h') (l : Listing) (k : Nat) :
    List.Forall₂ (SpentRun ids) (l.slice h k) (l.slice h' k) :=
  List.forall₂_take _ (List.forall₂_drop _ (spent.matching l))

theorem ids_of_spent (spent : List.Forall₂ (SpentRun ids) as bs) :
    bs.map (·.id) = as.map (·.id) := by
  induction spent with
  | nil => rfl
  | cons first rest ih => rw [List.map_cons, List.map_cons, first.id_eq, ih]

theorem eq_of_spent (spent : List.Forall₂ (SpentRun ids) as bs) (apart : ∀ a ∈ as, a.id ∉ ids) :
    bs = as := by
  induction spent with
  | nil => rfl
  | @cons a b as bs first rest ih =>
      obtain ⟨now, later⟩ := List.forall_mem_cons.mp apart
      rw [ih later, first.resolve_right fun spent => now spent.1]

end History

namespace Service

open History (Spent titled)

variable {s : Service} {h : History} {ids : List String} {l : Listing} {r : Request}

theorem showRun_eq (s : Service) (r : Run) :
    s.showRun r = (r.take.1, { s with history := s.history.update r.id { results? := some r.take.2 } }) :=
  rfl

theorem fst_showRuns (s : Service) (runs : List Run) :
    (s.showRuns runs).1 = runs.mapM fun r => r.take.1 := by
  induction runs generalizing s with
  | nil => rfl
  | cons r rest ih =>
      rw [showRuns, List.mapM_cons, showRun_eq]
      cases r.take.1 with
      | error f => rfl
      | ok document =>
          show (showRuns _ rest).1.map (document :: ·) = rest.mapM _ >>= _
          rw [ih]
          cases rest.mapM fun r => r.take.1 <;> rfl

theorem spent_showRuns (spent : Spent ids h s.history) (runs : List Run) :
    Spent (runs.map (·.id) ++ ids) h (s.showRuns runs).2.history := by
  induction runs generalizing s ids with
  | nil => exact spent
  | cons r rest ih =>
      have first := spent.update r.id r.take.2
      rw [showRuns, showRun_eq]
      cases r.take.1 with
      | error f =>
          refine first.mono (List.cons_subset_cons r.id ?_)
          exact List.subset_append_right _ _
      | ok document =>
          refine (ih first).mono ?_
          intro id member
          simp only [List.map_cons, List.cons_append, List.mem_cons, List.mem_append] at member ⊢
          tauto

/-! ### Requests for pages -/

theorem respond_of_lists (lists : r.Lists l) : (s.respond r).value =
    (s.showRuns (l.page s.history).2).2.sayChecked
      ((s.showRuns (l.page s.history).2).1.map
        (l.document s.history.stats (l.page s.history).1)) := by
  rw [respond, lists.routed]
  show s.settle (s.listRuns r) = _
  rw [listRuns, lists.read]
  rfl

theorem next_of_lists (lists : r.Lists l) :
    (s.handle r).value.2 = (s.showRuns (l.page s.history).2).2 := by
  show (s.respond r).value.2 = _
  rw [respond_of_lists lists]
  cases (s.showRuns (l.page s.history).2).1 <;> rfl

/-- The response to a request is the page of these runs, unless one of them cannot be written. -/
structure Tells (s : Service) (r : Request) (l : Listing) (total : Nat) (runs : List Run) :
    Prop where
  answer : ∀ items, (runs.mapM fun r => r.take.1) = .ok items →
    (s.handle r).value.1.response = .answer (l.document s.history.stats total items)
  broken : ∀ f, (runs.mapM fun r => r.take.1) = .error f →
    (s.handle r).value.1.response = .broken

theorem tells_of_lists (lists : r.Lists l) :
    s.Tells r l (l.page s.history).1 (l.page s.history).2 := by
  have response : (s.handle r).value.1.response = _ :=
    (response_handle s r).trans (congrArg Prod.fst (respond_of_lists lists))
  rw [fst_showRuns] at response
  constructor
  · intro items written
    rw [response, written]
    rfl
  · intro f failed
    rw [response, failed]
    rfl

theorem handleAll_snoc (s : Service) (requests : List Request) (r : Request) :
    (s.handleAll (requests ++ [r])).2 = ((s.handleAll requests).2.handle r).value.2 := by
  induction requests generalizing s with
  | nil => rfl
  | cons q rest ih => exact ih _

/-- The service when the requests before one have been handled. -/
def before (s : Service) (ask : Nat → Request) (k : Nat) : Service :=
  (s.handleAll ((List.range k).map ask)).2

theorem before_succ (s : Service) (ask : Nat → Request) (k : Nat) :
    s.before ask (k + 1) = ((s.before ask k).handle (ask k)).value.2 := by
  rw [before, List.range_succ, List.map_append, List.map_singleton, handleAll_snoc]
  rfl

/-- The ids of the runs on the pages before one. -/
def earlier (s : Service) (l : Listing) (k : Nat) : List String :=
  ((l.matching s.history).take (k * l.limit.toNat)).map (·.id)

variable {ask : Nat → Request} {n k : Nat}

section

variable (s) (asked : ∀ k < n, (ask k).Lists (l.atPage k))
include asked

theorem spent_before (within : k ≤ n) :
    Spent (s.earlier l k) s.history (s.before ask k).history := by
  induction k with
  | zero => exact History.spent_refl _ _
  | succ k ih =>
      have spent := ih (Nat.le_of_succ_le within)
      have lists := asked k within
      rw [before_succ, next_of_lists lists, Listing.page_atPage (Listing.nonneg_of_atPage lists)]
      -- The page uses up what it shows, and by then this has the ids that it had at first.
      refine (spent_showRuns spent _).mono ?_
      rw [History.ids_of_spent (spent.slice l k), earlier, earlier, Nat.succ_mul, List.take_add,
        List.map_append]
      exact List.append_subset.mpr ⟨List.subset_append_right _ _, List.subset_append_left _ _⟩

theorem tells_before (within : k < n) :
    (s.before ask k).Tells (ask k) (l.atPage k) (l.matching s.history).length
      (l.slice (s.before ask k).history k) := by
  have lists := asked k within
  have told := tells_of_lists (s := s.before ask k) lists
  have spent := spent_before s asked (Nat.le_of_lt within)
  rw [Listing.page_atPage (Listing.nonneg_of_atPage lists), spent.length_matching] at told
  exact told

theorem slice_before (within : k < n) (once : ((l.matching s.history).map (·.id)).Nodup) :
    l.slice (s.before ask k).history k = l.slice s.history k := by
  have spent := (spent_before s asked (Nat.le_of_lt within)).slice l k
  -- A run of this page stands after those of the earlier pages, so that its id is none of theirs.
  apply History.eq_of_spent spent
  intro r member before
  rw [← List.take_append_drop (k * l.limit.toNat) (l.matching s.history), List.map_append] at once
  have later : r.id ∈ ((l.matching s.history).drop (k * l.limit.toNat)).map (·.id) :=
    List.mem_map_of_mem (List.mem_of_mem_take member)
  exact List.disjoint_of_nodup_append once before later

/-- Where no id is listed twice and all runs can be written, the responses are pages of their documents. -/
theorem responses_before (within : k < n) (once : ((l.matching s.history).map (·.id)).Nodup)
    {items : List Value}
    (written : ((l.matching s.history).mapM fun r => r.take.1) = .ok items) :
    ((s.before ask k).handle (ask k)).value.1.response =
      .answer ((l.atPage k).document (s.before ask k).history.stats items.length
        ((items.drop (k * l.limit.toNat)).take l.limit.toNat)) := by
  have all := Checked.mapM_eq_ok_iff.mp written
  have told := tells_before s asked within
  rw [slice_before s asked within once] at told
  rw [← all.length_eq]
  apply told.answer
  exact Checked.mapM_eq_ok_iff.mpr (List.forall₂_take _ (List.forall₂_drop _ all))

end

/-- Where nothing is asked of the runs, the response is that to a request whose filters every run
passes. -/
theorem response_of_plain {plain filtered : Listing} {first second : Request}
    (asksAll : first.Lists plain) (asksSome : second.Lists filtered)
    (unfiltered : plain.isFiltered = false) (limit : filtered.limit = plain.limit)
    (offset : filtered.offset = plain.offset)
    (pass : ∀ r ∈ s.history.recent, filtered.accepts r = true) :
    (s.handle first).value.1.response = (s.handle second).value.1.response := by
  have matching : filtered.matching s.history = plain.matching s.history := by
    rw [Listing.matching, Listing.matching, List.filter_eq_self.mpr pass,
      List.filter_eq_self.mpr fun r _ => Listing.accepts_of_plain unfiltered]
  have page : filtered.page s.history = plain.page s.history := by
    obtain ⟨-, -, forward⟩ := Listing.bounds_of_ofRequest asksAll.read
    have positive := Listing.limit_nonneg asksAll.read
    rw [Listing.page_eq (offset ▸ forward) (limit ▸ positive), Listing.page_eq forward positive,
      matching, limit, offset]
  have document : filtered.document = plain.document := by
    funext stats total items
    rw [Listing.document, limit, offset]
    rfl
  rw [response_handle, response_handle, respond_of_lists asksAll, respond_of_lists asksSome, page,
    document]

/-! ### Pages one after the other -/

/-- Requests for the pages, one after the other, are answered with the runs that are asked for. -/
structure Pages (s : Service) (l : Listing) (ask : Nat → Request) (n : Nat) : Prop where
  /-- The pages hold the runs that are asked for, in their order. -/
  whole : ((List.range n).flatMap fun k => l.slice s.history k) = l.matching s.history
  /-- Each page is answered with the runs in their place, and with how many there are in all. -/
  told : ∀ k < n, (s.before ask k).Tells (ask k) (l.atPage k) (l.matching s.history).length
    (l.slice (s.before ask k).history k)
  /-- Of a run on a page, the pages before it have used up the results at most, and this only if they
  have shown a run of its id. -/
  kept : ∀ k < n, List.Forall₂ (History.SpentRun (s.earlier l k)) (l.slice s.history k)
    (l.slice (s.before ask k).history k)

/-- The same where no id is listed twice: the runs are on the pages as they were before the first. -/
structure ExactPages (s : Service) (l : Listing) (ask : Nat → Request) (n : Nat) : Prop where
  once : ((l.matching s.history).map (·.id)).Nodup
  unspent : ∀ k < n, l.slice (s.before ask k).history k = l.slice s.history k
  /-- The pages are those of the documents of the runs, if all of them can be written. -/
  joined : ∀ items, ((l.matching s.history).mapM fun run => run.take.1) = .ok items →
    ∃ pages : Nat → List Value, (List.range n).flatMap pages = items ∧
      ∀ k < n, ((s.before ask k).handle (ask k)).value.1.response =
        .answer ((l.atPage k).document (s.before ask k).history.stats items.length (pages k))

theorem exact_of_nodup (s : Service) (asked : ∀ k < n, (ask k).Lists (l.atPage k))
    (enough : (l.matching s.history).length ≤ n * l.limit.toNat)
    (once : ((l.matching s.history).map (·.id)).Nodup) : s.ExactPages l ask n where
  once := once
  unspent k within := slice_before s asked within once
  joined items written := by
    refine ⟨fun k => (items.drop (k * l.limit.toNat)).take l.limit.toNat, ?_, ?_⟩
    · rw [flatMap_pages, List.take_of_length_le]
      exact (Checked.mapM_eq_ok_iff.mp written).length_eq ▸ enough
    · exact fun k within => responses_before s asked within once written

/-- Whatever runs have been stored, updated and forgotten, the pages that are asked for one after the
other, as many as it takes, hold the runs that are asked for: those that are listed, of the workflow and
in the state that is asked for, the latest first; and each page tells how many they are. If no id has been
stored twice each of them is on one page, as it was before the first. Where nothing is asked of the runs
the response is that to filters that every run passes. Each page can be asked for, if it has one to a
thousand places. -/
theorem pages_of_listing {bound : Int} {start : History} {acts : List History.Act}
    (made : History.empty bound = .ok start) (reached : s.history = start.replay acts)
    (asked : ∀ k < n, (ask k).Lists (l.atPage k))
    (enough : (l.matching s.history).length ≤ n * l.limit.toNat) :
    s.Pages l ask n ∧ ((History.logged acts).Nodup → s.ExactPages l ask n) ∧
    s.history.recent.map (·.id) = (History.logged acts).take bound.toNat ∧
    (l.matching s.history).Sublist s.history.recent ∧
    (∀ run, run ∈ l.matching s.history ↔ run ∈ s.history.recent ∧
      (∀ w, l.workflow = some w → w ≠ "" → run.workflow = w) ∧
      ∀ status, l.status = some status → run.status = status) ∧
    (∀ (plain filtered : Listing) (first second : Request), first.Lists plain →
      second.Lists filtered → plain.isFiltered = false → filtered.limit = plain.limit →
      filtered.offset = plain.offset → (∀ run ∈ s.history.recent, filtered.accepts run = true) →
      (s.handle first).value.1.response = (s.handle second).value.1.response) ∧
    (1 ≤ l.limit → l.limit ≤ Listing.maxLimit → ∀ k : Nat,
      (k * l.limit).toNat < 10 ^ Schema.maxIntegerText → (l.atPage k).toRequest.Lists (l.atPage k)) := by
  have front : (l.matching s.history).Sublist s.history.recent := List.filter_sublist
  obtain ⟨accounts, -, room⟩ := History.accounts_empty made
  refine ⟨⟨?_, ?_, ?_⟩, ?_, ?_, front, ?_, ?_, ?_⟩
  · exact (flatMap_pages _ _ n).trans (List.take_of_length_le enough)
  · exact fun k within => tells_before s asked within
  · exact fun k within => (spent_before s asked (Nat.le_of_lt within)).slice l k
  · intro stored
    have listed := History.nodup_recent accounts stored
    rw [← reached] at listed
    exact exact_of_nodup s asked enough (listed.sublist (front.map _))
  · rw [reached, (History.accounts_replay accounts acts).listed, History.capacity_replay, room]
  · intro run
    rw [Listing.matching, List.mem_filter, Listing.accepts_iff]
  · intro plain filtered first second asksAll asksSome
    exact response_of_plain asksAll asksSome
  · intro least most k short
    exact Listing.lists_toRequest least most
      (Int.mul_nonneg (Int.natCast_nonneg k) (Int.le_trans (by decide) least)) short

/-- The listing of the runs of a workflow, one on a page. -/
def singly : Listing := { limit := 1, workflow := some "wf" }

def askSingly (k : Nat) : Request := (singly.atPage k).toRequest

theorem lists_askSingly : ∀ k < 2, (askSingly k).Lists (singly.atPage k) := by
  intro k within
  have start : (singly.atPage k).offset = k := Int.mul_one k
  refine Listing.lists_toRequest (Int.le_refl 1) (show (1 : Int) ≤ Listing.maxLimit by decide) ?_ ?_
  · rw [start]
    exact Int.natCast_nonneg k
  · rw [start, Int.toNat_natCast]
    exact Nat.lt_of_lt_of_le within (Nat.le_trans (by decide) (Nat.le_pow (by decide)))

/-- A history with room for two runs. -/
def narrow : History := { capacity := 2, capacity_pos := Nat.two_pos, length_le := by simp }

def thirdStored : List History.Act := [.store (titled "a"), .store (titled "b"), .store (titled "c")]

/-- A service that has stored three runs. -/
def thrice : Service := { fresh with history := narrow.replay thirdStored }

/-- The third run is on the first page, and the second on the second. -/
theorem pages_of_listing_singly : History.empty 2 = .ok narrow ∧
    ∀ k < 2, ∃ id document, ["c", "b"][k]? = some id ∧ (titled id).take.1 = .ok document ∧
      ((thrice.before askSingly k).handle (askSingly k)).value.1.response =
        .answer ((singly.atPage k).document (thrice.before askSingly k).history.stats 2 [document]) := by
  obtain ⟨pages, exact, -⟩ := pages_of_listing (s := thrice) (l := singly)
    (show History.empty 2 = .ok narrow from rfl) (show thrice.history = narrow.replay thirdStored from rfl)
    lists_askSingly (by decide)
  refine ⟨rfl, ?_⟩
  intro k within
  have told := pages.told k within
  rw [(exact (by decide)).unspent k within] at told
  obtain rfl | rfl : k = 0 ∨ k = 1 := by omega
  · exact ⟨"c", _, rfl, rfl, told.answer [_] rfl⟩
  · exact ⟨"b", _, rfl, rfl, told.answer [_] rfl⟩

/-- A service whose history has this run. -/
def keeping (r : Run) : Service := { fresh with history := Engine.single.store r }

/-- A run with a result that no document can hold. -/
def unwritable : Run :=
  { titled "a" with results := [("step", .ofFields [("out", .constructor "range")])] }

/-- A page with more than a thousand places is refused, an empty id of a workflow asks for none, and a page
with a run that cannot be written is a fault. -/
theorem pages_refused :
    ((keeping (titled "a")).handle (Listing.toRequest { limit := 1001 })).value.1.response.status =
      422 ∧
    (∃ document, ((keeping (titled "a")).handle
        (Listing.toRequest { workflow := some "" })).value.1.response =
      .answer (Listing.document { workflow := some "" } (keeping (titled "a")).history.stats 1
        [document])) ∧
    ((keeping unwritable).handle (Listing.toRequest {})).value.1.response.status = 500 := by
  refine ⟨by decide +kernel, ?_, by decide +kernel⟩
  have lists : (Listing.toRequest { workflow := some "" }).Lists { workflow := some "" } :=
    Listing.lists_toRequest (by decide) (by decide) (by decide) (Nat.pow_pos (by decide))
  exact ⟨_, (tells_of_lists lists).answer [_] rfl⟩

end Service

end Stepwise
