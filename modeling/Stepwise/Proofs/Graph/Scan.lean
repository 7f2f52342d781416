import Stepwise.Proofs.Graph.Loop

/-!
A loop that only looks for a cycle. It descends as the loop that puts the nodes in order does, but
keeps no order, and begins a descent from no node that bears a mark. The two loops agree on every
graph.
-/

namespace Stepwise.Graph

/-- Where the loop stands. -/
structure Scan where
  /-- The nodes that the loop has yet to begin a descent from. -/
  roots : List String
  /-- The frames, the innermost first. -/
  stack : List (String × List String)
  marks : String → Mark

namespace Scan

open Loop (marked)

def start (nodes : List String) : Scan := ⟨nodes, [], fun _ => .unvisited⟩

/-- One turn of the loop. -/
def step (nodes : List String) (dependencies : String → List String) :
    Scan → Scan ⊕ Except Cycle Unit
  | ⟨[], [], _⟩ => .inr (.ok ())
  | ⟨root :: roots, [], marks⟩ =>
    if marks root ≠ .unvisited then .inl ⟨roots, [], marks⟩
    else .inl ⟨roots, [(root, dependencies root)], marked marks root .inProgress⟩
  | ⟨roots, (node, []) :: below, marks⟩ => .inl ⟨roots, below, marked marks node .done⟩
  | ⟨roots, (node, next :: pending) :: below, marks⟩ =>
    match marks next with
    | .done => .inl ⟨roots, (node, pending) :: below, marks⟩
    | .inProgress => .inr (.error ⟨node, next⟩)
    | .unvisited =>
      if next ∈ nodes then
        .inl ⟨roots, (next, dependencies next) :: (node, pending) :: below,
          marked marks next .inProgress⟩
      else .inl ⟨roots, (node, pending) :: below, marks⟩

variable (nodes : List String) (dependencies : String → List String)

/-- The loop ends with a result after finitely many turns. -/
inductive Halts : Scan → Except Cycle Unit → Prop where
  | now {l : Scan} {result : Except Cycle Unit}
      (last : step nodes dependencies l = .inr result) : Halts l result
  | later {l next : Scan} {result : Except Cycle Unit}
      (turn : step nodes dependencies l = .inl next) (rest : Halts next result) : Halts l result

variable {nodes dependencies}

/-- What the loop that keeps an order has in common with this one. -/
def ofLoop (l : Loop) : Scan := ⟨l.roots, l.stack, l.marks⟩

end Scan

namespace Loop

variable {nodes : List String} {dependencies : String → List String}

/-- The marks fit the stack, on which no node stands twice. -/
structure Sound (l : Loop) : Prop where
  fits : Fits l.marks (l.stack.map (·.1)) l.order
  distinct : (l.stack.map (·.1)).Nodup

theorem sound_start : Sound (start nodes) :=
  ⟨⟨fun _ => by simp [start], fun _ => by simp [start]⟩, List.nodup_nil⟩

/-- A node that is put on the stack bears no mark. -/
private theorem Sound.descend {roots order : List String} {stack : List (String × List String)}
    {marks : String → Mark} {node : String} (sound : Sound ⟨roots, stack, marks, order⟩)
    (fresh : marks node = .unvisited) (pending : List String) (others : List String) :
    Sound ⟨others, (node, pending) :: stack, marked marks node .inProgress, order⟩ := by
  have outside : node ∉ order := fun visited =>
    nomatch fresh.symm.trans ((sound.fits.done_iff node).mpr visited)
  have offPath : node ∉ stack.map (·.1) := fun onPath =>
    nomatch fresh.symm.trans ((sound.fits.inProgress_iff node).mpr onPath)
  exact ⟨sound.fits.push outside, List.nodup_cons.mpr ⟨offPath, sound.distinct⟩⟩

/-- A turn of the one loop is a turn of the other, and keeps the marks fitting. -/
theorem step_scan {l : Loop} (sound : Sound l) :
    (∃ next, step nodes dependencies l = .inl next ∧ Sound next ∧
        Scan.step nodes dependencies (.ofLoop l) = .inl (.ofLoop next)) ∨
      ∃ result, step nodes dependencies l = .inr result ∧
        Scan.step nodes dependencies (.ofLoop l) = .inr (result.map fun _ => ()) := by
  obtain ⟨roots, stack, marks, order⟩ := l
  cases stack with
  | nil =>
      cases roots with
      | nil => exact Or.inr ⟨.ok order, rfl, rfl⟩
      | cons root roots =>
          by_cases visited : marks root = .done
          · refine Or.inl ⟨⟨roots, [], marks, order⟩, by rw [step, if_pos visited],
              ⟨sound.fits, List.nodup_nil⟩, ?_⟩
            have marked : marks root ≠ .unvisited := by
              intro fresh
              rw [visited] at fresh
              cases fresh
            simp only [Scan.ofLoop, Scan.step, if_pos marked]
          · -- Between two descents no node is in progress: one that is not done bears no mark.
            have fresh : marks root = .unvisited := by
              apply sound.fits.unvisited
              · exact fun present => visited ((sound.fits.done_iff root).mpr present)
              · exact List.not_mem_nil
            refine Or.inl ⟨_, by rw [step, if_neg visited], sound.descend fresh _ _, ?_⟩
            rw [Scan.ofLoop, Scan.step, if_neg (fun marked => marked fresh)]
            rfl
  | cons frame below =>
      obtain ⟨node, pending⟩ := frame
      cases pending with
      | nil =>
          refine Or.inl ⟨⟨roots, below, marked marks node .done, order ++ [node]⟩, ?_, ?_, ?_⟩
          · rw [step]
          · obtain ⟨offPath, distinct⟩ := List.nodup_cons.mp sound.distinct
            exact ⟨sound.fits.pop offPath, distinct⟩
          · rw [Scan.ofLoop, Scan.step]
            rfl
      | cons next pending =>
          have goesOn : Sound ⟨roots, (node, pending) :: below, marks, order⟩ :=
            ⟨sound.fits, sound.distinct⟩
          cases mark : marks next with
          | done =>
              refine Or.inl ⟨_, by simp only [step, mark], goesOn, ?_⟩
              simp only [Scan.ofLoop, Scan.step, mark]
          | inProgress =>
              refine Or.inr ⟨.error ⟨node, next⟩, by simp only [step, mark], ?_⟩
              simp only [Scan.ofLoop, Scan.step, mark]
              rfl
          | unvisited =>
              by_cases member : next ∈ nodes
              · refine Or.inl ⟨_, by simp only [step, mark, if_pos member],
                  goesOn.descend mark (dependencies next) roots, ?_⟩
                simp only [Scan.ofLoop, Scan.step, mark, if_pos member]
              · refine Or.inl ⟨_, by simp only [step, mark, if_neg member], goesOn, ?_⟩
                simp only [Scan.ofLoop, Scan.step, mark, if_neg member]

/-- The loop that looks for a cycle halts where the other does, and finds the same. -/
theorem Halts.scan {l : Loop} {result : Except Cycle (List String)}
    (halts : Halts nodes dependencies l result) (sound : Sound l) :
    Scan.Halts nodes dependencies (.ofLoop l) (result.map fun _ => ()) := by
  induction halts with
  | now last =>
      rcases step_scan sound with ⟨next, turn, -⟩ | ⟨result, same, scanned⟩
      · rw [last] at turn
        cases turn
      · rw [last] at same
        cases same
        exact .now scanned
  | later turn rest ih =>
      rcases step_scan sound with ⟨next, same, kept, scanned⟩ | ⟨result, ended, -⟩
      · rw [turn] at same
        cases same
        exact .later scanned (ih kept)
      · rw [turn] at ended
        cases ended

end Loop

/-- On every graph the loop that looks for a cycle halts, with one exactly where the walk finds it. -/
theorem Scan.halts_start {nodes : List String} {dependencies : String → List String} :
    Scan.Halts nodes dependencies (.start nodes) ((walk nodes dependencies).map fun _ => ()) :=
  Loop.halts_start.scan Loop.sound_start

end Stepwise.Graph
