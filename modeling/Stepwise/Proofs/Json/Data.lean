import Mathlib.Algebra.Group.Nat.Defs
import Stepwise.Json.Document
import Stepwise.Json.Reading
import Stepwise.Proofs.Reference.Index
import Stepwise.Proofs.Value.Plain

/-!
Data of the forms of JSON: reading JSON gives such data, and such data has a document.
-/

namespace Stepwise

namespace Reading

theorem foldl_lt {base : Nat} {ds : List Nat} (small : ∀ d ∈ ds, d < base) (n : Nat) :
    ds.foldl (fun n d => base * n + d) n < (n + 1) * base ^ ds.length := by
  induction ds generalizing n with
  | nil => simp
  | cons d rest ih =>
      obtain ⟨here, later⟩ := List.forall_mem_cons.mp small
      have next : base * n + d + 1 ≤ base * (n + 1) := by
        rw [Nat.mul_succ]
        omega
      calc (d :: rest).foldl (fun n d => base * n + d) n
          = rest.foldl (fun n d => base * n + d) (base * n + d) := rfl
        _ < (base * n + d + 1) * base ^ rest.length := ih later _
        _ ≤ base * (n + 1) * base ^ rest.length := Nat.mul_le_mul_right _ next
        _ = (n + 1) * base ^ (rest.length + 1) := by
            rw [Nat.mul_comm base, Nat.mul_assoc, Nat.pow_succ, Nat.mul_comm base]

/-- An integer that can be read can be written. -/
theorem writable_of_int? {text : String} {n : Int} (read : int? 10 text = .ok n) :
    Value.Writable n := by
  rw [int?_ten] at read
  cases digits : digits? 10 (splitSign (plain text)).2 with
  | none =>
      rw [digits] at read
      cases read
  | some ds =>
      simp only [digits] at read
      by_cases long : 4300 < ds.length
      · rw [if_pos long] at read
        cases read
      · rw [if_neg long] at read
        have short : ds.length ≤ Value.maxIntDigits := Nat.le_of_not_lt long
        have wider {k : Nat} (most : ds.length ≤ k) : 10 ^ ds.length ≤ Nat.pow 10 k :=
          Nat.pow_le_pow_right (Nat.succ_pos 9) most
        have whole : n.natAbs = ds.foldl (fun n d => 10 * n + d) 0 := by
          rw [← Except.ok.inj read]
          split
          · rw [Int.natAbs_neg, Int.natAbs_natCast]
          · rw [Int.natAbs_natCast]
        rw [Value.Writable, whole]
        calc ds.foldl (fun n d => 10 * n + d) 0
            < (0 + 1) * 10 ^ ds.length := foldl_lt (Digits.of_digits? digits).lt 0
          _ = 10 ^ ds.length := Nat.one_mul _
          _ ≤ Nat.pow 10 Value.maxIntDigits := wider short

end Reading

namespace Value

/-- What is filed under a text in entries of a form keeps their form. -/
theorem OfJson.put {entries : Entries} {v : Value} (done : (Value.dict entries).OfJson) (name : String)
    (held : v.OfJson) : (Value.dict (Value.put entries (.text name) v)).OfJson := by
  obtain ⟨keys, all⟩ : (∀ e ∈ entries, ∃ name, e.1 = .text name) ∧ ∀ e ∈ entries, e.2.OfJson := by
    cases done with
    | dict keys all => exact ⟨keys, all⟩
  unfold Value.put
  split
  · refine .dict ?_ ?_
    · intro e member
      obtain ⟨f, inside, rfl⟩ := List.mem_map.mp member
      split
      · exact keys f inside
      · exact keys f inside
    · intro e member
      obtain ⟨f, inside, rfl⟩ := List.mem_map.mp member
      split
      · exact held
      · exact all f inside
  · refine .dict ?_ ?_
    · exact List.forall_mem_append.mpr ⟨keys, List.forall_mem_singleton.mpr ⟨name, rfl⟩⟩
    · exact List.forall_mem_append.mpr ⟨all, List.forall_mem_singleton.mpr held⟩

end Value

namespace Json

open Value (OfJson)

theorem ofJson_of_readNumber {s rest : List Char} {v : Value} (read : readNumber s = .ok (v, rest)) :
    v.OfJson := by
  unfold readNumber at read
  split at read
  · cases read
  · split at read
    · rename_i whole
      cases read
      exact .int (Reading.writable_of_int? whole)
    · cases read
    · cases read
  · split at read
    · cases read
      exact .float _
    · cases read

theorem ofJson_of_readLiteral {s rest : List Char} {v : Value}
    (read : readLiteral s = .ok (v, rest)) : v.OfJson := by
  unfold readLiteral at read
  split at read
  · rename_i found
    obtain ⟨⟨word, w⟩, member, taken⟩ := List.exists_of_findSome?_eq_some found
    obtain ⟨after, -, rfl⟩ := Option.map_eq_some_iff.mp taken
    cases read
    simp only [literals, List.mem_cons, List.not_mem_nil, or_false, Prod.mk.injEq] at member
    rcases member with ⟨-, rfl⟩ | ⟨-, rfl⟩ | ⟨-, rfl⟩ | ⟨-, rfl⟩ | ⟨-, rfl⟩ | ⟨-, rfl⟩
    · exact .null
    · exact .bool true
    · exact .bool false
    all_goals exact .float _
  · exact ofJson_of_readNumber read

mutual

theorem ofJson_of_readValue {s rest : List Char} {v : Value} :
    ∀ fuel, readValue fuel s = .ok (v, rest) → v.OfJson
  | 0, read => nomatch read
  | fuel + 1, read => by
    unfold readValue at read
    split at read
    · obtain ⟨⟨t, after⟩, -, done⟩ := bind_eq_ok.mp read
      cases done
      exact .text t
    · split at read
      · cases read
        exact .list (List.forall_mem_nil _)
      · obtain ⟨⟨items, after⟩, inner, done⟩ := bind_eq_ok.mp read
        cases done
        exact .list (ofJson_of_readItems fuel inner (List.forall_mem_nil _))
    · split at read
      · cases read
        exact .dict (List.forall_mem_nil _) (List.forall_mem_nil _)
      · obtain ⟨⟨entries, after⟩, inner, done⟩ := bind_eq_ok.mp read
        cases done
        exact ofJson_of_readMembers fuel inner (.dict (List.forall_mem_nil _) (List.forall_mem_nil _))
    · exact ofJson_of_readLiteral read

theorem ofJson_of_readItems {s rest : List Char} {done items : List Value} :
    ∀ fuel, readItems fuel done s = .ok (items, rest) → (∀ v ∈ done, v.OfJson) →
      ∀ v ∈ items, v.OfJson
  | 0, read, _ => nomatch read
  | fuel + 1, read, before => by
    unfold readItems at read
    obtain ⟨⟨item, after⟩, first, read⟩ := bind_eq_ok.mp read
    have all : ∀ v ∈ item :: done, v.OfJson :=
      List.forall_mem_cons.mpr ⟨ofJson_of_readValue fuel first, before⟩
    dsimp only at read
    split at read
    · cases read
      exact fun v member => all v (List.mem_reverse.mp member)
    · exact ofJson_of_readItems fuel read all
    · cases read

theorem ofJson_of_readMembers {s rest : List Char} {done entries : Entries} :
    ∀ fuel, readMembers fuel done s = .ok (entries, rest) → (Value.dict done).OfJson →
      (Value.dict entries).OfJson
  | 0, read, _ => nomatch read
  | fuel + 1, read, before => by
    unfold readMembers at read
    split at read
    · obtain ⟨⟨name, after⟩, -, read⟩ := bind_eq_ok.mp read
      dsimp only at read
      split at read
      · obtain ⟨⟨v, after⟩, first, read⟩ := bind_eq_ok.mp read
        have all := before.put name (ofJson_of_readValue fuel first)
        dsimp only at read
        split at read
        · cases read
          exact all
        · exact ofJson_of_readMembers fuel read all
        · cases read
      · cases read
    · cases read

end

/-- Reading JSON gives data of its forms. -/
theorem ofJson_of_parse {s : String} {v : Value} (read : parse s = .ok v) : v.OfJson := by
  unfold parse at read
  dsimp only at read
  split at read
  · cases read
  · split at read
    · cases read
    · rename_i w rest inner
      split at read
      · cases read
        exact ofJson_of_readValue _ inner
      · cases read

/-! ### Documents -/

theorem exists_takeAll {items : List Value} (all : ∀ v ∈ items, ∃ d left, take v = (.ok d, left)) :
    ∃ documents left, take.takeAll items = (.ok documents, left) := by
  induction items with
  | nil => exact ⟨[], [], by rw [take.takeAll]⟩
  | cons v rest ih =>
      obtain ⟨⟨d, left, first⟩, later⟩ := List.forall_mem_cons.mp all
      obtain ⟨documents, others, taken⟩ := ih later
      exact ⟨d :: documents, left :: others, by rw [take.takeAll, first, taken]; rfl⟩

theorem exists_takeEntries {done entries : Entries} (keys : ∀ e ∈ entries, ∃ name, e.1 = .text name)
    (all : ∀ e ∈ entries, ∃ d left, take e.2 = (.ok d, left)) :
    ∃ documents left, take.takeEntries done entries = (.ok documents, left) := by
  induction entries generalizing done with
  | nil => exact ⟨done, [], by rw [take.takeEntries]⟩
  | cons e rest ih =>
      obtain ⟨key, v⟩ := e
      obtain ⟨⟨name, atKey⟩, laterKeys⟩ := List.forall_mem_cons.mp keys
      obtain ⟨⟨d, left, first⟩, later⟩ := List.forall_mem_cons.mp all
      obtain ⟨documents, others, taken⟩ := @ih (Value.put done (.text name) d) laterKeys later
      cases atKey
      refine ⟨documents, (.text name, left) :: others, ?_⟩
      rw [take.takeEntries, documentKey, first]
      dsimp only
      rw [taken]

theorem exists_document_of_ofJson {v : Value} (held : v.OfJson) : ∃ d, document v = .ok d := by
  suffices taken : ∃ d left, take v = (.ok d, left) by
    obtain ⟨d, left, taken⟩ := taken
    exact ⟨d, by rw [document, taken]⟩
  induction held with
  | null => exact ⟨.null, .null, by simp [take, Value.isPlain]⟩
  | bool flag => exact ⟨.bool flag, .bool flag, by simp [take, Value.isPlain]⟩
  | @int n writable => exact ⟨.int n, .int n, by simp [take, Value.isPlain]⟩
  | float x => exact ⟨_, _, by rw [take]⟩
  | text s => exact ⟨.text s, .text s, by simp [take, Value.isPlain]⟩
  | list all ih =>
      obtain ⟨documents, left, taken⟩ := exists_takeAll ih
      exact ⟨.list documents, .list left, by rw [take, taken]; rfl⟩
  | dict keys all ih =>
      obtain ⟨documents, left, taken⟩ := exists_takeEntries keys ih
      exact ⟨.dict documents, .dict left, by rw [take, taken]; rfl⟩

end Json

end Stepwise
