import Stepwise.Value.Compare

/-!
How deep values are nested: a part is less deep than the whole.
-/

namespace Stepwise.Value

theorem depth_le_depthAll {v : Value} {items : List Value} (h : v ∈ items) :
    v.depth ≤ depth.depthAll items := by
  induction items with
  | nil => simp at h
  | cons w rest ih =>
    simp only [depth.depthAll]
    rcases List.mem_cons.1 h with rfl | h
    · omega
    · have := ih h
      omega

theorem depth_le_depthEntries {k v : Value} {entries : List (Value × Value)}
    (h : (k, v) ∈ entries) : v.depth ≤ depth.depthEntries entries := by
  induction entries with
  | nil => simp at h
  | cons e rest ih =>
    obtain ⟨l, w⟩ := e
    simp only [depth.depthEntries]
    rcases List.mem_cons.1 h with h | h
    · simp only [Prod.mk.injEq] at h
      obtain ⟨rfl, rfl⟩ := h
      omega
    · have := ih h
      omega

/-- What is filed under a key is one of the entries. -/
theorem mem_of_lookup? {entries : List (Value × Value)} {key v : Value}
    (h : lookup? entries key = some v) : ∃ k, (k, v) ∈ entries := by
  unfold lookup? at h
  obtain ⟨⟨k, w⟩, found, rfl⟩ := Option.map_eq_some_iff.1 h
  exact ⟨k, List.mem_of_find?_eq_some found⟩

theorem depth_lt_of_lookupText? {entries : List (Value × Value)} {name : String} {v : Value}
    (h : lookupText? entries name = some v) : v.depth < (dict entries).depth := by
  obtain ⟨k, member⟩ := mem_of_lookup? h
  have := depth_le_depthEntries member
  simp only [depth]
  omega

end Stepwise.Value
