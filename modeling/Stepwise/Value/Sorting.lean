import Stepwise.Fault

/-!
A stable sort whose comparisons may fault. It keeps the longest run at the front that is in order
already, or strictly in reverse order, and puts the other items in one by one by halving.
-/

namespace Stepwise.Sorting

variable {α : Type}

/-- Puts an item into a sorted list, after the items that it is not less than. -/
def insert (less : α → α → Checked Bool) (pivot : α) (sorted : List α) : Checked (List α) :=
  let half := sorted.length / 2
  match _shape : sorted.drop half with
  | [] => .ok [pivot]
  | middle :: after => do
    if ← less pivot middle then
      .ok ((← insert less pivot (sorted.take half)) ++ middle :: after)
    else .ok (sorted.take half ++ middle :: (← insert less pivot after))
termination_by sorted.length
decreasing_by
  · have := congrArg List.length _shape
    simp only [List.length_drop, List.length_cons] at this
    simp only [List.length_take]
    omega
  · have := congrArg List.length _shape
    simp only [List.length_drop, List.length_cons] at this
    omega

def insertAll (less : α → α → Checked Bool) (sorted : List α) : List α → Checked (List α)
  | [] => .ok sorted
  | pivot :: rest => do insertAll less (← insert less pivot sorted) rest

/-- Takes items while they do not fall below the one before; gives the run in reverse. -/
def risingRun (less : α → α → Checked Bool) (last : α) (taken : List α) :
    List α → Checked (List α × List α)
  | [] => .ok (taken, [])
  | next :: rest => do
    if ← less next last then .ok (taken, next :: rest)
    else risingRun less next (next :: taken) rest

/-- Takes items while they fall below the one before; gives the run in reverse, hence sorted. -/
def fallingRun (less : α → α → Checked Bool) (last : α) (taken : List α) :
    List α → Checked (List α × List α)
  | [] => .ok (taken, [])
  | next :: rest => do
    if ← less next last then fallingRun less next (next :: taken) rest
    else .ok (taken, next :: rest)

/-- Sorts a list; items of which neither is less than the other keep their order. -/
def sort (less : α → α → Checked Bool) : List α → Checked (List α)
  | [] => .ok []
  | [only] => .ok [only]
  | first :: second :: rest => do
    if ← less second first then
      let (run, others) ← fallingRun less second [second, first] rest
      insertAll less run others
    else
      let (run, others) ← risingRun less second [second, first] rest
      insertAll less run.reverse others

/-- Sorts in the other direction; equal items still keep their order. -/
def sortDirected (less : α → α → Checked Bool) (descending : Bool) (items : List α) :
    Checked (List α) := do
  if descending then .ok (← sort less items.reverse).reverse else sort less items

end Stepwise.Sorting
