import Stepwise.Proofs.Canvas.Compile
import Stepwise.Proofs.Reference.Path

/-!
The ids that titles give. An id is made of small letters, digits and hyphens, no two of which stand side by
side, and these are the texts that making an id leaves as they are. So a workflow that is compiled again
under its id keeps it.
-/

namespace Stepwise

namespace Naming

/-- The characters of an id: small letters, digits and the hyphen. -/
def isIdChar (c : Char) : Bool := ('a' ≤ c && c ≤ 'z') || ('0' ≤ c && c ≤ '9') || c == '-'

/-- An id as a title gives it: no other characters, and never two hyphens in a row. -/
structure IsSlug (id : String) : Prop where
  plain : ∀ c ∈ id.toList, isIdChar c = true
  parted : id.toList.IsChain fun c d => ¬(c = '-' ∧ d = '-')

/-! ### Characters -/

variable {c : Char} {s : List Char}

/-- A title keeps the characters of an id, and the blanks that give hyphens. -/
theorem isKept_eq (c : Char) : isKept c = (isIdChar c || Text.isBlank c) := rfl

/-- By its code, an id's character is one of ASCII and neither a capital nor a blank. -/
theorem code_of_isIdChar (plain : isIdChar c = true) :
    c.toNat = 45 ∨ (48 ≤ c.toNat ∧ c.toNat ≤ 57) ∨ (97 ≤ c.toNat ∧ c.toNat ≤ 122) := by
  simp only [isIdChar, Bool.or_eq_true, Bool.and_eq_true, decide_eq_true_eq, beq_iff_eq] at plain
  rcases plain with (letter | digit) | rfl
  · exact Or.inr (Or.inr letter)
  · exact Or.inr (Or.inl digit)
  · exact Or.inl rfl

theorem isBlank_of_isIdChar (plain : isIdChar c = true) : Text.isBlank c = false := by
  have code := code_of_isIdChar plain
  simp only [Text.isBlank, Bool.or_eq_false_iff, Bool.and_eq_false_iff, decide_eq_false_iff_not,
    beq_eq_false_iff_ne]
  omega

theorem lowerAt_of_isIdChar (plain : isIdChar c = true) (before after : List Char) :
    Text.lowerAt before c after = [c] := by
  have code := code_of_isIdChar plain
  have ascii : Text.isAscii c = true := decide_eq_true (by omega)
  have other : ¬(c == 'Σ') = true := by
    rw [beq_iff_eq]
    rintro rfl
    cases ascii
  have small : ¬(c.val ≥ 'A'.val ∧ c.val ≤ 'Z'.val) := by
    rintro ⟨first, last⟩
    have first : 65 ≤ c.toNat := first
    have last : c.toNat ≤ 90 := last
    omega
  have kept : c.toLower = c := dif_neg small
  rw [Text.lowerAt, if_neg other, Text.lowerChar, if_pos ascii, kept]

theorem lower_of_plain (plain : ∀ c ∈ s, isIdChar c = true) : Text.lower s = s := by
  suffices ∀ before, Text.lowerFrom before s = s from this []
  induction s with
  | nil => exact fun _ => rfl
  | cons c rest ih =>
      rw [List.forall_mem_cons] at plain
      intro before
      rw [Text.lowerFrom, lowerAt_of_isIdChar plain.1, ih plain.2, List.singleton_append]

/-! ### Runs of characters -/

variable {p : Char → Bool} {mark : Char}

theorem squeeze_cons_of_not (other : ¬p c = true) :
    squeeze p mark (c :: s) = c :: squeeze p mark s := by
  rw [squeeze.eq_def]
  exact if_neg other

theorem mem_squeeze (member : c ∈ squeeze p mark s) : c = mark ∨ (c ∈ s ∧ p c = false) := by
  fun_induction squeeze p mark s with
  | case1 => cases member
  | case2 d runs => exact Or.inl (List.mem_singleton.mp member)
  | case3 d runs e rest on ih =>
      exact (ih member).imp_right fun inside => ⟨List.mem_cons_of_mem d inside.1, inside.2⟩
  | case4 d runs e rest ends ih =>
      rcases List.mem_cons.mp member with same | later
      · exact Or.inl same
      · exact (ih later).imp_right fun inside => ⟨List.mem_cons_of_mem d inside.1, inside.2⟩
  | case5 d rest other ih =>
      rcases List.mem_cons.mp member with rfl | later
      · exact Or.inr ⟨List.mem_cons_self, Bool.eq_false_iff.mpr other⟩
      · exact (ih later).imp_right fun inside => ⟨List.mem_cons_of_mem d inside.1, inside.2⟩

/-- No two characters of the class are left side by side. -/
theorem isChain_squeeze : (squeeze p mark s).IsChain fun c d => ¬(p c = true ∧ p d = true) := by
  fun_induction squeeze p mark s with
  | case1 => exact List.IsChain.nil
  | case2 d runs => exact List.IsChain.singleton mark
  | case3 d runs e rest on ih => exact ih
  | case4 d runs e rest ends ih =>
      rw [squeeze_cons_of_not ends] at ih ⊢
      exact List.isChain_cons_cons.mpr ⟨fun both => ends both.2, ih⟩
  | case5 d rest other ih =>
      cases tail : squeeze p mark rest with
      | nil => exact List.IsChain.singleton d
      | cons e more => 
          rw [tail] at ih
          exact List.isChain_cons_cons.mpr ⟨fun both => other both.1, ih⟩

/-- Where runs are single marks already nothing is left to do. -/
theorem squeeze_of_parted (marked : ∀ c ∈ s, p c = true → c = mark)
    (parted : s.IsChain fun c d => ¬(p c = true ∧ p d = true)) : squeeze p mark s = s := by
  fun_induction squeeze p mark s with
  | case1 => rfl
  | case2 d runs => rw [marked d List.mem_cons_self runs]
  | case3 d runs e rest on ih => exact absurd ⟨runs, on⟩ (List.isChain_cons_cons.mp parted).1
  | case4 d runs e rest ends ih =>
      rw [List.forall_mem_cons] at marked
      rw [ih marked.2 (List.isChain_cons_cons.mp parted).2, marked.1 runs]
  | case5 d rest other ih =>
      rw [List.forall_mem_cons] at marked
      rw [ih marked.2 (List.IsChain.of_cons parted)]

theorem squeeze_of_forall (none : ∀ c ∈ s, p c = false) : squeeze p mark s = s := by
  induction s with
  | nil => rfl
  | cons c rest ih =>
      rw [List.forall_mem_cons] at none
      rw [squeeze_cons_of_not (Bool.eq_false_iff.mp none.1), ih none.2]

/-! ### Ids -/

theorem isSlug_slug (title : String) : IsSlug (slug title) := by
  constructor
  · intro c member
    rw [slug, String.toList_ofList] at member
    rcases mem_squeeze member with rfl | ⟨joined, -⟩
    · rfl
    rcases mem_squeeze joined with rfl | ⟨trimmed, solid⟩
    · rfl
    have kept := List.of_mem_filter ((Text.trim_sublist _).subset trimmed)
    rw [isKept_eq, solid, Bool.or_false] at kept
    exact kept
  · rw [slug, String.toList_ofList]
    refine isChain_squeeze.imp fun c d apart both => apart ⟨?_, ?_⟩
    · exact beq_iff_eq.mpr both.1
    · exact beq_iff_eq.mpr both.2

/-- An id gives itself. -/
theorem slug_of_isSlug {id : String} (sound : IsSlug id) : slug id = id := by
  have solid (c : Char) (member : c ∈ id.toList) := isBlank_of_isIdChar (sound.plain c member)
  have kept : id.toList.filter isKept = id.toList := by
    rw [List.filter_eq_self]
    intro c member
    rw [isKept_eq, sound.plain c member, Bool.true_or]
  have single : squeeze (· == '-') '-' id.toList = id.toList := by
    apply squeeze_of_parted
    · intro c _ same
      exact beq_iff_eq.mp same
    · refine sound.parted.imp fun c d apart both => apart ⟨?_, ?_⟩
      · exact beq_iff_eq.mp both.1
      · exact beq_iff_eq.mp both.2
  rw [slug, lower_of_plain sound.plain, kept, Text.trim_of_forall solid, squeeze_of_forall solid, single,
    String.ofList_toList]

/-- The texts that give themselves are those that some title gives. -/
theorem slug_eq_self_iff {id : String} : slug id = id ↔ IsSlug id := by
  constructor
  · intro same
    rw [← same]
    exact isSlug_slug id
  · exact slug_of_isSlug

end Naming

namespace Canvas

open Naming (IsSlug slug)

/-- The title decides about nothing but the name and the id. -/
theorem result_compile (strict : Bool) (nodes : List Node) (title other : String)
    (description : Option String) : (compile strict nodes other description).result =
      (compile strict nodes title description).result.map fun w =>
        { w with id := slug other, name := other } := by
  rw [compile, compile]
  by_cases none : nodes.isEmpty = true
  · rw [if_pos none, if_pos none]
    rfl
  by_cases again : (!distinctIds nodes) = true
  · rw [if_neg none, if_neg none, if_pos again, if_pos again]
    rfl
  rw [if_neg none, if_neg none, if_neg again, if_neg again]
  cases dependencyMap nodes with
  | error e => rfl
  | ok m =>
      dsimp only
      cases strict <;> cases order nodes m <;> cases endpointsOf nodes <;> rfl

/-- The id of a title is made of small letters, digits and hyphens, no two of these side by side, and it is
its own id, as all such texts are. What compiles under the title compiles under the id as well, to the same
workflow but for the name, and keeps the id. -/
theorem id_of_title (title : String) : IsSlug (slug title) ∧ slug (slug title) = slug title ∧
    (slug title = title ↔ IsSlug title) ∧
    ∀ strict nodes description w, (compile strict nodes title description).result = .ok w →
      w.id = slug title ∧
      (compile strict nodes w.id description).result = .ok { w with name := w.id } := by
  have settled := Naming.slug_of_isSlug (Naming.isSlug_slug title)
  refine ⟨Naming.isSlug_slug title, settled, Naming.slug_eq_self_iff, ?_⟩
  intro strict nodes description w compiled
  have named : w.id = slug title := by
    have same := result_compile strict nodes title title description
    rw [compiled, Except.map, Except.ok.injEq] at same
    rw [same]
  refine ⟨named, ?_⟩
  rw [result_compile strict nodes title w.id description, compiled, Except.map, named, settled, ← named]

/-- The hyphens of this title come together only when the rest is gone. -/
theorem id_of_title_spaced : IsSlug (slug " -\t My Flow_ -(2)- ") ∧
    slug " -\t My Flow_ -(2)- " = "-my-flow-2-" ∧
    ∃ w, (compile true pair " -\t My Flow_ -(2)- " none).result = .ok w ∧ w.id = "-my-flow-2-" ∧
      (compile true pair w.id none).result = .ok { w with name := w.id } := by
  have id : slug " -\t My Flow_ -(2)- " = "-my-flow-2-" := by decide
  obtain ⟨w, compiled⟩ : ∃ w, (compile true pair " -\t My Flow_ -(2)- " none).result = .ok w := by
    obtain ⟨order, -, -, -, compiled⟩ := exists_result wellFormed_pair
    exact ⟨_, compiled true⟩
  obtain ⟨plain, -, -, again⟩ := id_of_title " -\t My Flow_ -(2)- "
  obtain ⟨named, kept⟩ := again true pair none w compiled
  exact ⟨plain, id, w, compiled, named.trans id, kept⟩

end Canvas

end Stepwise
