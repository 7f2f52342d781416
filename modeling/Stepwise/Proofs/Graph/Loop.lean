import Stepwise.Graph.Walk

/-!
A walk as a loop with a stack of its own. A frame of the stack holds a node and those of its
dependencies that are still to come, and a mark says of each node whether it is on the stack or has
left it. The loop halts on every graph, with the result of the walk.
-/

namespace Stepwise.Graph

inductive Mark where
  | unvisited
  | inProgress
  | done
  deriving DecidableEq, Repr

/-- Where the loop stands. -/
structure Loop where
  /-- The nodes that the loop has yet to begin a descent from. -/
  roots : List String
  /-- The frames, the innermost first. -/
  stack : List (String × List String)
  marks : String → Mark
  /-- The nodes that have left the stack. -/
  order : List String

namespace Loop

/-- The marks after one of them is set. -/
def marked (marks : String → Mark) (node : String) (mark : Mark) : String → Mark :=
  fun n => if n = node then mark else marks n

@[simp]
theorem marked_self (marks : String → Mark) (node : String) (mark : Mark) :
    marked marks node mark node = mark := if_pos rfl

theorem marked_of_ne {marks : String → Mark} {node n : String} {mark : Mark} (other : n ≠ node) :
    marked marks node mark n = marks n := if_neg other

def start (nodes : List String) : Loop := ⟨nodes, [], fun _ => .unvisited, []⟩

/-- One turn of the loop: it goes on, or it ends with a result. -/
def step (nodes : List String) (dependencies : String → List String) :
    Loop → Loop ⊕ Except Cycle (List String)
  | ⟨[], [], _, order⟩ => .inr (.ok order)
  | ⟨root :: roots, [], marks, order⟩ =>
    if marks root = .done then .inl ⟨roots, [], marks, order⟩
    else .inl ⟨roots, [(root, dependencies root)], marked marks root .inProgress, order⟩
  | ⟨roots, (node, []) :: below, marks, order⟩ =>
    .inl ⟨roots, below, marked marks node .done, order ++ [node]⟩
  | ⟨roots, (node, next :: pending) :: below, marks, order⟩ =>
    match marks next with
    | .done => .inl ⟨roots, (node, pending) :: below, marks, order⟩
    | .inProgress => .inr (.error ⟨node, next⟩)
    | .unvisited =>
      if next ∈ nodes then
        .inl ⟨roots, (next, dependencies next) :: (node, pending) :: below,
          marked marks next .inProgress, order⟩
      else .inl ⟨roots, (node, pending) :: below, marks, order⟩

variable (nodes : List String) (dependencies : String → List String)

/-- The loop ends with a result after finitely many turns. -/
inductive Halts : Loop → Except Cycle (List String) → Prop where
  | now {l : Loop} {result : Except Cycle (List String)}
      (last : step nodes dependencies l = .inr result) : Halts l result
  | later {l next : Loop} {result : Except Cycle (List String)}
      (turn : step nodes dependencies l = .inl next) (rest : Halts next result) : Halts l result

/-- The marks tell the nodes on the stack from those that have left it. -/
structure Fits (marks : String → Mark) (path done : List String) : Prop where
  done_iff : ∀ n, marks n = .done ↔ n ∈ done
  inProgress_iff : ∀ n, marks n = .inProgress ↔ n ∈ path

variable {nodes dependencies}

namespace Fits

variable {marks : String → Mark} {path done : List String} {node : String}

theorem unvisited (fits : Fits marks path done) (outside : node ∉ done) (offPath : node ∉ path) :
    marks node = .unvisited := by
  cases mark : marks node with
  | unvisited => rfl
  | inProgress => exact absurd ((fits.inProgress_iff node).mp mark) offPath
  | done => exact absurd ((fits.done_iff node).mp mark) outside

/-- A node that is put on the stack. -/
theorem push (fits : Fits marks path done) (outside : node ∉ done) :
    Fits (marked marks node .inProgress) (node :: path) done := by
  constructor
  · intro n
    by_cases same : n = node
    · simp [same, outside]
    · rw [marked_of_ne same, fits.done_iff]
  · intro n
    by_cases same : n = node
    · simp [same]
    · rw [marked_of_ne same, fits.inProgress_iff, List.mem_cons, or_iff_right same]

/-- A node that leaves the stack. -/
theorem pop (fits : Fits marks (node :: path) done) (offPath : node ∉ path) :
    Fits (marked marks node .done) path (done ++ [node]) := by
  constructor
  · intro n
    by_cases same : n = node
    · simp [same]
    · rw [marked_of_ne same, fits.done_iff, List.mem_append, List.mem_singleton, or_iff_left same]
  · intro n
    by_cases same : n = node
    · simp [same, offPath]
    · rw [marked_of_ne same, fits.inProgress_iff, List.mem_cons, or_iff_right same]

end Fits

/-- The loop takes the dependencies of the innermost node as the walk does: it comes to the end of
its frame with the order of the walk, or stops where the walk stops. -/
theorem halts_of_walkFrom {path rest done : List String} {node : String}
    {below : List (String × List String)} {roots : List String} {marks : String → Mark}
    {result : Except Cycle (List String)}
    (stacked : path = node :: below.map (·.1)) (fits : Fits marks path done)
    (through : ∀ order marks', walkFrom nodes dependencies path node rest done = .ok order →
      Fits marks' path order →
        Halts nodes dependencies ⟨roots, (node, []) :: below, marks', order⟩ result)
    (stopped : ∀ cycle, walkFrom nodes dependencies path node rest done = .error cycle →
      result = .error cycle) :
    Halts nodes dependencies ⟨roots, (node, rest) :: below, marks, done⟩ result := by
  -- The walk comes back to a node from below it, where the loop only goes on: what happens once the
  -- frame is used up is a hypothesis, and the induction is for all of these.
  fun_induction walkFrom nodes dependencies path node rest done generalizing below marks result with
  | case1 path node done => exact through done marks rfl fits
  | case2 path node next rest done visited ih =>
      have mark : marks next = .done := (fits.done_iff next).mpr (List.contains_iff_mem.mp visited)
      refine .later ?_ (ih stacked fits through stopped)
      simp only [step, mark]
  | case3 path node next rest done unvisited onPath =>
      have mark : marks next = .inProgress :=
        (fits.inProgress_iff next).mpr (List.contains_iff_mem.mp onPath)
      rw [stopped _ rfl]
      apply Halts.now
      simp only [step, mark]
  | case4 path node next rest done unvisited offPath member smaller cycle failed ih =>
      have outside : next ∉ done := fun present => unvisited (List.contains_iff_mem.mpr present)
      have above : next ∉ path := fun present => offPath (List.contains_iff_mem.mpr present)
      have mark := fits.unvisited outside above
      have turn : step nodes dependencies ⟨roots, (node, next :: rest) :: below, marks, done⟩ =
          .inl ⟨roots, (next, dependencies next) :: (node, rest) :: below,
            marked marks next .inProgress, done⟩ := by
        simp only [step, mark, if_pos member]
      refine .later turn (ih ?_ (fits.push outside) ?_ ?_)
      · rw [stacked, List.map_cons]
      · intro order marks' walked
        rw [failed] at walked
        cases walked
      · intro found walked
        rw [failed] at walked
        cases walked
        exact stopped cycle rfl
  | case5 path node next rest done unvisited offPath member smaller inner found ihInner ihRest =>
      have outside : next ∉ done := fun present => unvisited (List.contains_iff_mem.mpr present)
      have above : next ∉ path := fun present => offPath (List.contains_iff_mem.mpr present)
      have mark := fits.unvisited outside above
      have turn : step nodes dependencies ⟨roots, (node, next :: rest) :: below, marks, done⟩ =
          .inl ⟨roots, (next, dependencies next) :: (node, rest) :: below,
            marked marks next .inProgress, done⟩ := by
        simp only [step, mark, if_pos member]
      refine .later turn (ihInner ?_ (fits.push outside) ?_ ?_)
      · rw [stacked, List.map_cons]
      · -- The frame of the dependency is used up: it leaves the stack, and the node goes on.
        intro order marks' walked fitsInner
        rw [found] at walked
        cases walked
        exact .later (by simp only [step]) (ihRest stacked (fitsInner.pop above) through stopped)
      · intro cycle walked
        rw [found] at walked
        cases walked
  | case6 path node next rest done unvisited offPath outside ih =>
      have mark := fits.unvisited
        (fun present => unvisited (List.contains_iff_mem.mpr present))
        (fun present => offPath (List.contains_iff_mem.mpr present))
      refine .later ?_ (ih stacked fits through stopped)
      simp only [step, mark, if_neg outside]

/-- Between two descents the loop goes on as the walk does. -/
theorem halts_of_roots {roots done : List String} {marks : String → Mark} (inside : roots ⊆ nodes)
    (fits : Fits marks [] done) :
    Halts nodes dependencies ⟨roots, [], marks, done⟩
      (walkFrom nodes dependencies [] "" roots done) := by
  induction roots generalizing done marks with
  | nil =>
      rw [walkFrom]
      exact .now rfl
  | cons root roots ih =>
      obtain ⟨member, later⟩ := List.cons_subset.mp inside
      rw [walkFrom]
      by_cases visited : root ∈ done
      · rw [if_pos (List.contains_iff_mem.mpr visited)]
        refine .later ?_ (ih later fits)
        simp only [step, if_pos ((fits.done_iff root).mpr visited)]
      · have mark : marks root ≠ .done := fun same => visited ((fits.done_iff root).mp same)
        rw [if_neg (fun same => visited (List.contains_iff_mem.mp same)),
          dif_neg (by simp), dif_pos member]
        have turn : step nodes dependencies ⟨root :: roots, [], marks, done⟩ =
            .inl ⟨roots, [(root, dependencies root)], marked marks root .inProgress, done⟩ := by
          simp only [step, if_neg mark]
        have stacked : [root] = root :: ([] : List (String × List String)).map (·.1) := rfl
        refine .later turn (halts_of_walkFrom stacked (fits.push visited) ?_ ?_)
        · intro order marks' walked fitsInner
          rw [walked]
          exact .later (by simp only [step]) (ih later (fitsInner.pop List.not_mem_nil))
        · intro cycle walked
          rw [walked]

/-- On every graph the loop halts with the result of the walk. -/
theorem halts_start : Halts nodes dependencies (start nodes) (walk nodes dependencies) :=
  halts_of_roots (List.Subset.refl nodes) ⟨fun _ => by simp, fun _ => by simp⟩

end Loop

end Stepwise.Graph
