import Mathlib.Data.List.Induction
import Stepwise.Prompt.Store
import Stepwise.Proofs.Repository.Documents
import Stepwise.Proofs.Repository.Table

/-!
How old a prompt may be. What the store answers is what a lookup finds now, or what one found at an
earlier time, less than the lifetime ago, with nothing forgotten for the key since. What is asked about
other keys makes no difference.
-/

namespace Stepwise

/-! ### Line breaks -/

namespace Text

/-- A backslash before an `n` read as a line break, from the left. -/
def broken : List Char → List Char
  | '\\' :: 'n' :: rest => '\n' :: broken rest
  | c :: rest => c :: broken rest
  | [] => []

theorem broken_eq_of_find? (s : List Char) : (find? ['\\', 'n'] s = none ∧ broken s = s) ∨
    ∃ i, find? ['\\', 'n'] s = some i ∧ i + 2 ≤ s.length ∧
      broken s = s.take i ++ '\n' :: broken (s.drop (i + 2)) := by
  fun_induction broken s with
  | case1 rest ih => exact Or.inr ⟨0, rfl, by simp, rfl⟩
  | case2 c rest other ih =>
      have passed : ['\\', 'n'].isPrefixOf (c :: rest) = false := by
        rw [Bool.eq_false_iff, ne_eq, List.isPrefixOf_iff_prefix, List.cons_prefix_cons]
        rintro ⟨rfl, tail⟩
        obtain ⟨after, rfl⟩ := tail
        exact other after rfl rfl
      rw [find?, passed]
      obtain ⟨absent, same⟩ | ⟨i, present, within, split⟩ := ih
      · exact Or.inl ⟨by rw [absent]; rfl, by rw [same]⟩
      · refine Or.inr ⟨i + 1, by rw [present]; rfl, by simpa using within, ?_⟩
        rw [split]
        rfl
  | case3 => exact Or.inl ⟨rfl, rfl⟩

theorem splitAtText_ne_nil (sep : List Char) (limit : Nat) (s : List Char) :
    splitAtText sep limit s ≠ [] := by
  cases limit with
  | zero => exact List.cons_ne_nil _ _
  | succ limit =>
      rw [splitAtText]
      split <;> exact List.cons_ne_nil _ _

theorem intercalate_splitAtText (limit : Nat) (s : List Char) (enough : s.length < limit) :
    ['\n'].intercalate (splitAtText ['\\', 'n'] limit s) = broken s := by
  induction limit generalizing s with
  | zero => cases enough
  | succ limit ih =>
      rw [splitAtText]
      obtain ⟨absent, same⟩ | ⟨i, present, within, split⟩ := broken_eq_of_find? s
      · rw [absent, same]
        exact List.intercalate_singleton
      · have shorter : (s.drop (i + 2)).length < limit := by
          rw [List.length_drop]
          omega
        rw [present, split, ← ih _ shorter]
        dsimp only
        rw [List.intercalate_cons_of_ne_nil (splitAtText_ne_nil _ _ _), List.append_assoc]
        rfl

theorem replaceAll_eq (s : List Char) : replaceAll ['\\', 'n'] ['\n'] s = broken s :=
  intercalate_splitAtText (s.length + 1) s (Nat.lt_succ_self _)

end Text

namespace PromptStore

variable {p : PromptStore} {now : Binary64} {key : String} {session : Session}

/-! ### A single question -/

/-- What is to be found for a key: the text on the server with its line breaks put in, or the fallback
where there is no server, it is down, or it has no text or an empty one. -/
def found (p : PromptStore) (session : Session) (key : String) : String :=
  if p.served = true ∧ session.down? = none then
    match session.server.hashText? (promptKey key) templateField with
    | some text => if text = "" then p.fallback key else String.ofList (Text.broken text.toList)
    | none => p.fallback key
  else p.fallback key

/-- Sessions with the same server in the same condition. -/
def Alike (s s' : Session) : Prop := s.server = s'.server ∧ s.down? = s'.down?

theorem alike_refl (session : Session) : Alike session session := ⟨rfl, rfl⟩

theorem exists_lookup (p : PromptStore) (session : Session) (key : String) :
    ∃ next, (p.lookup key).run session = (p.found session key, next) ∧ Alike next session := by
  obtain ⟨server, down?, commands⟩ := session
  rw [found, lookup]
  by_cases served : p.served = true
  · rw [if_pos served, fromServer?, StateT.run_bind, StateT.run_bind]
    cases down? with
    | some text =>
        rw [if_neg fun up => Option.some_ne_none text up.2]
        exact ⟨_, rfl, alike_refl _⟩
    | none =>
        have asked : ((Client.hashText? (promptKey key) templateField).run).run ⟨server, none, commands⟩ =
            (.ok (server.hashText? (promptKey key) templateField),
              ⟨server, none, commands ++ [.hashGet (promptKey key) templateField]⟩) := rfl
        rw [if_pos ⟨served, rfl⟩, asked]
        cases server.hashText? (promptKey key) templateField with
        | none => exact ⟨_, rfl, rfl, rfl⟩
        | some text =>
            by_cases empty : text = ""
            · subst empty
              exact ⟨_, rfl, rfl, rfl⟩
            · dsimp only
              rw [if_neg empty, ← Text.replaceAll_eq]
              refine ⟨⟨server, none, commands ++ [.hashGet (promptKey key) templateField]⟩, ?_,
                rfl, rfl⟩
              simp only [bind]
              rfl
  · rw [if_neg served, if_neg fun up => served up.1]
    exact ⟨_, rfl, alike_refl _⟩

/-- What was found before and may be used again is the answer. -/
theorem get_of_cached {text : String} (kept : p.cached? now key = some text) :
    (p.get now key).run session = ((text, p), session) := by
  rw [get, kept]
  rfl

/-- What is found now is the answer, and is kept. -/
theorem exists_get_of_not_cached (missing : p.cached? now key = none) (session : Session) :
    ∃ next, (p.get now key).run session = ((p.found session key,
      { p with cached := p.cached.set key ⟨p.found session key, now.add p.lifetime⟩ }), next) ∧
        Alike next session := by
  obtain ⟨next, looked, alike⟩ := exists_lookup p session key
  refine ⟨next, ?_, alike⟩
  rw [get, missing]
  dsimp only
  rw [StateT.run_bind, looked]
  rfl

theorem cached?_eq_some {text : String} : p.cached? now key = some text ↔
    ∃ expiry, p.cached.get? key = some ⟨text, expiry⟩ ∧ now.lt expiry = true := by
  rw [cached?]
  cases p.cached.get? key with
  | none => simp
  | some c =>
      obtain ⟨text', expiry⟩ := c
      by_cases fresh : now.lt expiry = true
      · simp [fresh]
      · simp [fresh]

end PromptStore

/-! ### A line of events -/

/-- What happens to a store of prompts and the server behind it. -/
inductive PromptEvent where
  | get (key : String)
  | invalidate (key? : Option String)
  /-- The server has other data from now on, or is down or up. -/
  | become (server : Server) (down? : Option String)

namespace PromptEvent

/-- Does the event forget what was found for the key? -/
def Forgets (key : String) : PromptEvent → Prop
  | invalidate none => True
  | invalidate (some other) => other = key
  | get _ => False
  | become .. => False

/-- Is it about one key alone, and not this one? -/
def elsewhere (key : String) : PromptEvent → Bool
  | .get other => other != key
  | .invalidate (some other) => other != key
  | .invalidate none => false
  | .become .. => false

end PromptEvent

/-- A store of prompts with its server. -/
structure PromptScene where
  store : PromptStore
  session : Session := {}

namespace PromptScene

/-- What the store answers at a time. -/
def answer (s : PromptScene) (now : Binary64) (key : String) : String :=
  ((s.store.get now key).run s.session).1.1

/-- What there is to be found for a key. -/
def found (s : PromptScene) (key : String) : String := s.store.found s.session key

def step (s : PromptScene) (e : Binary64 × PromptEvent) : PromptScene :=
  match e.2 with
  | .get key =>
    let ((_, store), session) := (s.store.get e.1 key).run s.session
    { store, session }
  | .invalidate key? => { s with store := s.store.invalidate key? }
  | .become server down? => { s with session := { s.session with server, down? } }

def after (s : PromptScene) (line : List (Binary64 × PromptEvent)) : PromptScene := line.foldl step s

variable {s s' : PromptScene} {now : Binary64} {key other : String} {e : Binary64 × PromptEvent}
  {line : List (Binary64 × PromptEvent)}

theorem after_snoc : s.after (line ++ [e]) = (s.after line).step e := List.foldl_append

/-- A text that is used again changes nothing. -/
theorem get_of_cached {text : String} (kept : s.store.cached? now key = some text) :
    s.answer now key = text ∧ s.step (now, .get key) = s := by
  have asked : (s.store.get now key).run s.session = ((text, s.store), s.session) :=
    PromptStore.get_of_cached kept
  exact ⟨by rw [answer, asked], by simp only [step, asked]⟩

/-- A text that is looked up is kept. -/
theorem get_of_not_cached (missing : s.store.cached? now key = none) : s.answer now key = s.found key ∧
    (s.step (now, .get key)).store = { s.store with
      cached := s.store.cached.set key ⟨s.found key, now.add s.store.lifetime⟩ } ∧
    PromptStore.Alike (s.step (now, .get key)).session s.session := by
  obtain ⟨next, asked, alike⟩ := PromptStore.exists_get_of_not_cached missing s.session
  refine ⟨?_, ?_, ?_⟩
  · rw [answer, asked]
    rfl
  · simp only [step, asked]
    rfl
  · simp only [step, asked]
    exact alike

/-! ### When a text was found -/

/-- At some question about the key in the line the text was to be found, to be used again up to a time,
and it has not been forgotten since. -/
def Loaded (start : PromptScene) (line : List (Binary64 × PromptEvent)) (key : String)
    (c : CachedPrompt) : Prop :=
  ∃ pre t post, line = pre ++ (t, .get key) :: post ∧
    c = ⟨(start.after pre).found key, t.add start.store.lifetime⟩ ∧ ∀ e ∈ post, ¬e.2.Forgets key

variable {c : CachedPrompt}

theorem Loaded.snoc (loaded : Loaded s line key c) (kept : ¬e.2.Forgets key) :
    Loaded s (line ++ [e]) key c := by
  obtain ⟨pre, t, post, rfl, same, since⟩ := loaded
  refine ⟨pre, t, post ++ [e], List.append_assoc _ _ _, same, ?_⟩
  rw [List.forall_mem_append, List.forall_mem_singleton]
  exact ⟨since, kept⟩

theorem lifetime_step (s : PromptScene) (e : Binary64 × PromptEvent) :
    (s.step e).store.lifetime = s.store.lifetime := by
  obtain ⟨now, e⟩ := e
  cases e with
  | get key =>
      cases kept : s.store.cached? now key with
      | some text => rw [(get_of_cached kept).2]
      | none => rw [(get_of_not_cached kept).2.1]
  | invalidate key? => cases key? <;> rfl
  | become server down? => rfl

theorem lifetime_after (s : PromptScene) (line : List (Binary64 × PromptEvent)) :
    (s.after line).store.lifetime = s.store.lifetime := by
  induction line using List.reverseRecOn with
  | nil => rfl
  | append_singleton line e ih => rw [after_snoc, lifetime_step, ih]

/-- What is kept for a key after an event was kept before and not forgotten, or was found just now. -/
theorem cached_step (cached : (s.step e).store.cached.get? key = some c) :
    (s.store.cached.get? key = some c ∧ ¬e.2.Forgets key) ∨
      ∃ now, e = (now, .get key) ∧ c = ⟨s.found key, now.add s.store.lifetime⟩ := by
  obtain ⟨now, e⟩ := e
  cases e with
  | get asked =>
      -- A question files a text under its own key only, and only where none could be used again.
      have keeps : ¬(PromptEvent.get asked).Forgets key := id
      cases kept : s.store.cached? now asked with
      | some text =>
          rw [(get_of_cached kept).2] at cached
          exact Or.inl ⟨cached, keeps⟩
      | none =>
          rw [(get_of_not_cached kept).2.1] at cached
          by_cases same : key = asked
          · subst same
            rw [Table.get?_set_self, Option.some.injEq] at cached
            exact Or.inr ⟨now, rfl, cached.symm⟩
          · rw [Table.get?_set_of_ne same] at cached
            exact Or.inl ⟨cached, keeps⟩
  | invalidate key? =>
      cases key? with
      | none => cases cached
      | some gone =>
          change (s.store.cached.erase gone).get? key = some c at cached
          by_cases same : key = gone
          · rw [same, Table.get?_erase_self] at cached
            cases cached
          · rw [Table.get?_erase_of_ne same] at cached
            exact Or.inl ⟨cached, Ne.symm same⟩
  | become server down? => exact Or.inl ⟨cached, id⟩

/-- Whatever is kept was found at some question about the key. -/
theorem loaded_of_cached (empty : s.store.cached = [])
    (cached : (s.after line).store.cached.get? key = some c) : Loaded s line key c := by
  -- Along the line from its end: what is kept now was kept one event ago, or has just been found.
  induction line using List.reverseRecOn generalizing c with
  | nil =>
      change s.store.cached.get? key = some c at cached
      rw [empty] at cached
      cases cached
  | append_singleton line e ih =>
      rw [after_snoc] at cached
      obtain ⟨before, kept⟩ | ⟨now, rfl, same⟩ := cached_step cached
      · exact (ih before).snoc kept
      · refine ⟨line, now, [], rfl, ?_, fun _ absent => nomatch absent⟩
        rw [same, lifetime_after]

/-! ### Other keys -/

/-- There is no difference for a key. -/
structure SameFor (key : String) (s s' : PromptScene) : Prop where
  cached : s.store.cached.get? key = s'.store.cached.get? key
  fallbacks : s.store.fallbacks = s'.store.fallbacks
  lifetime : s.store.lifetime = s'.store.lifetime
  served : s.store.served = s'.store.served
  session : PromptStore.Alike s.session s'.session

namespace SameFor

theorem found (same : SameFor key s s') (other : String) : s.found other = s'.found other := by
  rw [PromptScene.found, PromptScene.found, PromptStore.found, PromptStore.found, PromptStore.fallback,
    PromptStore.fallback, same.fallbacks, same.served, same.session.1, same.session.2]

theorem refl (s : PromptScene) : SameFor key s s := ⟨rfl, rfl, rfl, rfl, rfl, rfl⟩

theorem trans {s'' : PromptScene} (first : SameFor key s s') (second : SameFor key s' s'') :
    SameFor key s s'' where
  cached := first.cached.trans second.cached
  fallbacks := first.fallbacks.trans second.fallbacks
  lifetime := first.lifetime.trans second.lifetime
  served := first.served.trans second.served
  session := ⟨first.session.1.trans second.session.1, first.session.2.trans second.session.2⟩

/-- What is asked or forgotten about another key. -/
theorem step_of_elsewhere (s : PromptScene) (elsewhere : e.2.elsewhere key = true) :
    SameFor key (s.step e) s := by
  obtain ⟨now, e⟩ := e
  cases e with
  | get asked =>
      have apart : key ≠ asked := (bne_iff_ne.mp elsewhere).symm
      cases kept : s.store.cached? now asked with
      | some text =>
          rw [(get_of_cached kept).2]
          exact refl s
      | none =>
          obtain ⟨-, store, alike⟩ := get_of_not_cached kept
          refine ⟨?_, ?_, ?_, ?_, alike⟩ <;> rw [store]
          exact Table.get?_set_of_ne apart
  | invalidate key? =>
      cases key? with
      | none => cases elsewhere
      | some gone =>
          exact ⟨Table.get?_erase_of_ne (bne_iff_ne.mp elsewhere).symm, rfl, rfl, rfl, rfl, rfl⟩
  | become server down? => cases elsewhere

theorem cached?_eq (same : SameFor key s s') (now : Binary64) :
    s.store.cached? now key = s'.store.cached? now key := by
  rw [PromptStore.cached?, PromptStore.cached?, same.cached]

theorem answer (same : SameFor key s s') (now : Binary64) : s.answer now key = s'.answer now key := by
  cases kept : s.store.cached? now key with
  | some text => rw [(get_of_cached kept).1, (get_of_cached (same.cached?_eq now ▸ kept)).1]
  | none =>
      rw [(get_of_not_cached kept).1, (get_of_not_cached (same.cached?_eq now ▸ kept)).1, same.found]

theorem step (same : SameFor key s s') (here : e.2.elsewhere key = false) :
    SameFor key (s.step e) (s'.step e) := by
  obtain ⟨now, e⟩ := e
  cases e with
  | get asked =>
      obtain rfl : asked = key := by simpa [PromptEvent.elsewhere] using here
      cases kept : s.store.cached? now asked with
      | some text => rwa [(get_of_cached kept).2, (get_of_cached (same.cached?_eq now ▸ kept)).2]
      | none =>
          obtain ⟨-, store, alike⟩ := get_of_not_cached kept
          obtain ⟨-, store', alike'⟩ := get_of_not_cached (same.cached?_eq now ▸ kept)
          constructor
          · rw [store, store', Table.get?_set_self, Table.get?_set_self, same.found, same.lifetime]
          · rw [store, store']
            exact same.fallbacks
          · rw [store, store']
            exact same.lifetime
          · rw [store, store']
            exact same.served
          · exact ⟨alike.1.trans (same.session.1.trans alike'.1.symm),
              alike.2.trans (same.session.2.trans alike'.2.symm)⟩
  | invalidate key? =>
      cases key? with
      | none => exact { same with cached := rfl }
      | some gone =>
          obtain rfl : gone = key := by simpa [PromptEvent.elsewhere] using here
          refine { same with cached := ?_ }
          exact (Table.get?_erase_self _ _).trans (Table.get?_erase_self _ _).symm
  | become server down? => exact { same with session := ⟨rfl, rfl⟩ }

/-- What is asked or forgotten about other keys can be left out of the line. -/
theorem after (key : String) (s : PromptScene) (line : List (Binary64 × PromptEvent)) :
    SameFor key (s.after line) (s.after (line.filter fun e => !e.2.elsewhere key)) := by
  induction line using List.reverseRecOn with
  | nil => exact refl s
  | append_singleton line e ih =>
      rw [after_snoc, List.filter_append]
      cases elsewhere : e.2.elsewhere key with
      | true =>
          rw [List.filter_singleton, elsewhere, Bool.not_true, cond_false, List.append_nil]
          exact (step_of_elsewhere _ elsewhere).trans ih
      | false =>
          rw [List.filter_singleton, elsewhere, Bool.not_false, cond_true, after_snoc]
          exact ih.step elsewhere

end SameFor

/-- The clock is not put back along the line, nor before the time. -/
def Forward (line : List (Binary64 × PromptEvent)) (now : Binary64) : Prop :=
  (line.map (·.1) ++ [now]).Pairwise fun a b => a.le b = true

/-- A server with a prompt. -/
def greeting : PromptScene where
  store := { fallbacks := [], served := true }
  session := { server := { hashes := [("prompts:a", [("template", "x\\ny")])] } }

/-- The prompt is asked for, and then another one; in the end the server is down. -/
def failing : List (Binary64 × PromptEvent) :=
  [(.ofInt 1000, .get "a"), (.ofInt 1010, .get "b"), (.ofInt 1020, .become {} (some "down"))]

end PromptScene

end Stepwise
