import Stepwise.Execution.Run
import Stepwise.Value.Subscript

/-!
The history of runs: the most recent runs, the latest first, and never more of them than there is
room for. A run is found by its id while it is registered; the run that leaves the history takes the
registration of its id along.
-/

namespace Stepwise

structure History where
  capacity : Nat
  /-- The runs, the latest first. -/
  recent : List Run := []
  /-- The ids under which runs are found. -/
  registered : List String := []
  capacity_pos : 0 < capacity
  length_le : recent.length ≤ capacity

/-- Why a history cannot do what is asked of it. -/
inductive HistoryError where
  | capacity
  | unknownStatus (written : String)
  | unknownField (name : String)
  deriving DecidableEq, Repr, Inhabited

def HistoryError.message : HistoryError → String
  | capacity => "Execution store capacity must be at least 1"
  | unknownStatus written => written ++ " is not a valid ExecutionStatus"
  | unknownField name => "\"WorkflowExecution\" object has no field \"" ++ name ++ "\""

namespace History

/-- How many runs are kept where nothing else is said. -/
def defaultCapacity : Nat := 100

/-- How many runs a page holds where nothing else is said. -/
def pageSize : Nat := 50

/-- The same for the runs of one workflow. -/
def workflowPageSize : Nat := 20

/-- A history without runs. -/
def empty (capacity : Int) : Except HistoryError History :=
  if h : 1 ≤ capacity then
    .ok { capacity := capacity.toNat
          capacity_pos := by omega
          length_le := by simp }
  else .error .capacity

/-- Forgets all runs. -/
def clear (h : History) : History :=
  { capacity := h.capacity, capacity_pos := h.capacity_pos, length_le := by simp }

def size (h : History) : Nat := h.recent.length

/-- Puts a run first. The oldest run leaves where there is no room for it. -/
def store (h : History) (r : Run) : History :=
  let all := r :: h.recent
  let evicted := (all.drop h.capacity).map (·.id)
  { capacity := h.capacity
    recent := all.take h.capacity
    registered := (h.registered.insert r.id).filter fun id => !evicted.contains id
    capacity_pos := h.capacity_pos
    length_le := by simp only [List.length_take]; omega }

/-- The run that an id is registered for: the latest of that id. -/
def get? (h : History) (id : String) : Option Run :=
  if h.registered.contains id then h.recent.find? (·.id == id) else none

/-- Updates the latest run of an id in a list. -/
def updateFirst (id : String) (u : RunUpdate) : List Run → List Run
  | [] => []
  | r :: rest => if r.id == id then r.update u :: rest else r :: updateFirst id u rest

@[simp]
theorem length_updateFirst (id : String) (u : RunUpdate) (runs : List Run) :
    (updateFirst id u runs).length = runs.length := by
  induction runs with
  | nil => rfl
  | cons r rest ih => unfold updateFirst; split <;> simp [ih]

/-- Updates the run that an id is registered for, if there is one. -/
def update (h : History) (id : String) (u : RunUpdate) : History :=
  if h.registered.contains id then
    { h with
      recent := updateFirst id u h.recent
      length_le := by simpa using h.length_le }
  else h

/-! ### Listing -/

/-- The items between two places, each counted from the end where it is negative. -/
def between {α : Type} (items : List α) (start stop : Int) : List α :=
  let place (n : Int) : Nat := (Value.clampPlace items.length 0 items.length n).toNat
  (items.take (place stop)).drop (place start)

/-- A page of the history. -/
def page (h : History) (limit : Int := pageSize) (offset : Int := 0) : List Run :=
  between h.recent offset (offset + limit)

/-- The latest runs of a workflow. -/
def ofWorkflow (h : History) (workflow : String) (limit : Int := workflowPageSize) : List Run :=
  between (h.recent.filter (·.workflow == workflow)) 0 limit

/-- The runs that have not ended. -/
def active (h : History) : List Run := h.recent.filter (·.status == .running)

end History

/-! ### Statistics -/

structure RunStats where
  total : Nat
  completed : Nat
  failed : Nat
  running : Nat
  cancelled : Nat
  /-- The completed runs in percent, to one place. -/
  successRate : Binary64
  /-- The mean duration of the completed runs, in milliseconds. -/
  meanDuration : Int
  deriving Inhabited

namespace History

def count (h : History) (s : RunStatus) : Nat := h.recent.countP (·.status == s)

/-- The durations of the completed runs. -/
def durations (h : History) : List Int :=
  (h.recent.filter (·.status == .completed)).filterMap Run.duration?

/-- A part of a whole in percent, to one place. -/
def percent (part whole : Nat) : Binary64 :=
  if whole = 0 then .zero
  else ((Binary64.ofRatio false part whole).mul (Binary64.ofInt 100)).roundPlaces 1

/-- The mean of some numbers, rounded to an integer; a tie goes to the even one. -/
def mean (numbers : List Int) : Int :=
  if numbers.isEmpty then 0
  else
    let sum := numbers.foldl (· + ·) 0
    (Binary64.ofRatio (sum < 0) sum.natAbs numbers.length).roundEven.getD 0

def stats (h : History) : RunStats where
  total := h.size
  completed := h.count .completed
  failed := h.count .failed
  running := h.count .running
  cancelled := h.count .cancelled
  successRate := percent (h.count .completed) h.size
  meanDuration := mean h.durations

end History

end Stepwise
