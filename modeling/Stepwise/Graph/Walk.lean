/-!
Walks of a graph of dependencies. A walk puts every node after its dependencies, or finds a node
that is reached again on the way down from itself.
-/

namespace Stepwise.Graph

/-- A dependency that closes a cycle: a node, and the dependency that the walk was already under. -/
structure Cycle where
  node : String
  back : String
  deriving DecidableEq, Repr, Inhabited

/-- How many nodes are not on a path. -/
def remaining (nodes path : List String) : Nat := nodes.countP fun n => !path.contains n

theorem remaining_cons_lt {nodes path : List String} {n : String} (member : n ∈ nodes)
    (fresh : path.contains n = false) : remaining nodes (n :: path) < remaining nodes path := by
  unfold remaining
  induction nodes with
  | nil => simp at member
  | cons m rest ih =>
    have le : rest.countP (fun k => !(n :: path).contains k) ≤
        rest.countP fun k => !path.contains k := by
      apply List.countP_mono_left
      intro k _ h
      simp only [List.contains_cons, Bool.not_or, Bool.and_eq_true] at h
      exact h.2
    simp only [List.contains_cons] at le
    by_cases same : m = n
    · subst same
      simp only [List.countP_cons, List.contains_cons, BEq.rfl, Bool.true_or, Bool.not_true,
        Bool.false_eq_true, ↓reduceIte, fresh, Bool.not_false]
      omega
    · have inRest : n ∈ rest := by
        rcases List.mem_cons.1 member with h | h
        · exact absurd h.symm same
        · exact h
      have lt := ih inRest
      have apart : (m == n) = false := by simpa using same
      simp only [List.countP_cons, List.contains_cons, apart, Bool.false_or] at lt ⊢
      omega

/-- Walks the dependencies of the node at the end of a path, one after the other. `done` holds the
nodes that the walk has left, in order. A dependency that is no node is passed over. -/
def walkFrom (nodes : List String) (dependencies : String → List String) (path : List String)
    (node : String) : List String → List String → Except Cycle (List String)
  | [], done => .ok done
  | next :: rest, done =>
    if done.contains next then walkFrom nodes dependencies path node rest done
    else if onPath : path.contains next then .error ⟨node, next⟩
    else if member : next ∈ nodes then
      have : remaining nodes (next :: path) < remaining nodes path :=
        remaining_cons_lt member (by simpa using onPath)
      match walkFrom nodes dependencies (next :: path) next (dependencies next) done with
      | .error cycle => .error cycle
      | .ok inner => walkFrom nodes dependencies path node rest (inner ++ [next])
    else walkFrom nodes dependencies path node rest done
termination_by rest => (remaining nodes path, rest.length)

/-- All nodes, each after its dependencies; otherwise in their own order. -/
def walk (nodes : List String) (dependencies : String → List String) :
    Except Cycle (List String) :=
  walkFrom nodes dependencies [] "" nodes []

end Stepwise.Graph
