import Stepwise.Proofs.Checked
import Stepwise.Proofs.Reference.Path
import Stepwise.Proofs.Reference.Wildcard

/-!
Paths put together with dots. They are read one after the other, and where no star stands in the first of
two, the second begins at what the first leads to. A star at the end of a key is read as if it had a dot in
front of it. At the end of a number it is not: with the dot the number is an index, without it a key.
-/

namespace Stepwise

/-! ### Trimmed texts -/

namespace Text

variable {s : List Char} {c : Char}

theorem trimLeftBy_of_trim (trimmed : trim s = s) : trimLeftBy isBlank s = s := by
  have front : (trimLeftBy isBlank s).Sublist s := List.dropWhile_sublist _
  have whole := trim_sublist_trimLeftBy s
  rw [trimmed] at whole
  exact front.eq_of_length_le whole.length_le

theorem isBlank_head_of_trim {rest : List Char} (trimmed : trim (c :: rest) = c :: rest) :
    isBlank c = false := by
  rw [Bool.eq_false_iff]
  intro blank
  have kept := trimLeftBy_of_trim trimmed
  rw [trimLeftBy, List.dropWhile_cons_of_pos blank] at kept
  have shorter := (List.dropWhile_sublist (l := rest) isBlank).length_le
  rw [kept, List.length_cons] at shorter
  omega

theorem trim_snoc (some : s ≠ []) (trimmed : trim s = s) (solid : isBlank c = false) :
    trim (s ++ [c]) = s ++ [c] := by
  obtain ⟨d, rest, rfl⟩ := List.exists_cons_of_ne_nil some
  have front : trimLeftBy isBlank (d :: (rest ++ [c])) = d :: (rest ++ [c]) := by
    rw [trimLeftBy, List.dropWhile_cons, isBlank_head_of_trim trimmed]
    rfl
  rw [trim, trimBy, List.cons_append, front, trimRightBy, ← List.cons_append, List.reverse_append,
    List.reverse_singleton, List.singleton_append, List.dropWhile_cons, solid, if_neg Bool.false_ne_true,
    List.reverse_cons, List.reverse_reverse]

end Text

/-! ### Reading -/

namespace Path

theorem parse_dotted (a b : String) :
    parse (a ++ "." ++ b) = do return (← parse a) ++ (← parse b) := by
  have chars : (a ++ "." ++ b).toList = a.toList ++ '.' :: b.toList := by
    rw [String.toList_append, String.toList_append, List.append_assoc]
    rfl
  rw [parse, chars, ofChars_append_dot]
  rfl

/-- Of two readings in a row one fails if and only if one of them does. -/
theorem exists_append_eq_error_iff {first second : Checked Path} :
    (∃ e, (do return (← first) ++ (← second)) = Except.error e) ↔
      (∃ e, first = .error e) ∨ ∃ e, second = .error e := by
  cases first with
  | error e => exact iff_of_true ⟨e, rfl⟩ (Or.inl ⟨e, rfl⟩)
  | ok p =>
      cases second with
      | error e => exact iff_of_true ⟨e, rfl⟩ (Or.inr ⟨e, rfl⟩)
      | ok q =>
          refine iff_of_false (by rintro ⟨_, ⟨⟩⟩) ?_
          rintro (⟨_, ⟨⟩⟩ | ⟨_, ⟨⟩⟩)

/-- A path behind another and a dot adds its segments to those of the other; one of the two that cannot be
read is the reason why both together cannot, and nothing else is. From any value, if no star stands in the
first path, both together lead to what the second finds where the first one leads, which is nothing if the
value lacks the first path. -/
theorem composes_dotted (a b : String) :
    parse (a ++ "." ++ b) = (do return (← parse a) ++ (← parse b)) ∧
    ((∃ e, parse (a ++ "." ++ b) = .error e) ↔
      (∃ e, parse a = .error e) ∨ ∃ e, parse b = .error e) ∧
    ∀ p q, parse a = .ok p → parse b = .ok q →
      parse (a ++ "." ++ b) = .ok (p ++ q) ∧
      (hasEach p = false → ∀ v : Value,
        Value.lookup (p ++ q) v = Value.lookup q (Value.lookup p v) ∧
        ((¬∃ x, v.Has p x) → Value.lookup p v = .null ∧ Value.lookup (p ++ q) v = .null)) := by
  rw [parse_dotted]
  refine ⟨rfl, exists_append_eq_error_iff, ?_⟩
  intro p q first second
  rw [first, second]
  refine ⟨rfl, fun plain v => ?_⟩
  have behind := Value.lookup_append plain q v
  refine ⟨behind, fun lacks => ?_⟩
  have missing := Value.lookup_of_lacks plain lacks
  exact ⟨missing, by rw [behind, missing, Value.lookup_null]⟩

/-- An item and a key of it, in data that lacks the item and in data that has both. -/
theorem composes_dotted_missing :
    parse "a.0.b" = .ok [.key "a", .index 0, .key "b"] ∧
    Value.lookup [.key "a", .index 0, .key "b"] (.ofFields [("a", .list [])]) = .null ∧
    Value.lookup [.key "a", .index 0, .key "b"]
      (.ofFields [("a", .list [.ofFields [("b", .int 1)]])]) = .int 1 := by
  have first : parse "a.0" = .ok [.key "a", .index 0] := by cbv
  have second : parse "b" = .ok [.key "b"] := by cbv
  obtain ⟨-, -, reads⟩ := composes_dotted "a.0" "b"
  obtain ⟨together, leads⟩ := reads _ _ first second
  refine ⟨together, ?_, ?_⟩
  · exact (leads rfl _).1.trans (Value.lookup_null _)
  · exact (leads rfl _).1

/-- The segments of several paths, one after the other. -/
def parseAll (texts : List String) : Checked Path := return (← texts.mapM parse).flatten

theorem parseAll_cons (text : String) (rest : List String) :
    parseAll (text :: rest) = do return (← parse text) ++ (← parseAll rest) := by
  rw [parseAll, parseAll, List.mapM_cons]
  cases parse text with
  | error e => rfl
  | ok p => cases rest.mapM parse <;> rfl

theorem parseAll_append (front back : List String) :
    parseAll (front ++ back) = do return (← parseAll front) ++ (← parseAll back) := by
  induction front with
  | nil =>
      rw [List.nil_append]
      cases parseAll back <;> rfl
  | cons text rest ih =>
      rw [List.cons_append, parseAll_cons, parseAll_cons, ih]
      simp only [bind_assoc, pure_bind, List.append_assoc]

theorem parse_intercalate {texts : List String} (some : texts ≠ []) :
    parse (".".intercalate texts) = parseAll texts := by
  induction texts with
  | nil => exact absurd rfl some
  | cons text rest ih =>
      cases rest with
      | nil =>
          rw [String.intercalate_singleton, parseAll_cons]
          cases parse text with
          | error e => rfl
          | ok p => exact congrArg Except.ok (List.append_nil p).symm
      | cons next more =>
          rw [String.intercalate_cons_cons, parse_dotted, ih (List.cons_ne_nil next more),
            parseAll_cons text]

/-! ### Stars at the end of a segment -/

/-- The text of a segment that is neither empty nor a star, and that does not end in one. -/
structure Ordinary (k : String) : Prop where
  nonempty : k ≠ ""
  undotted : '.' ∉ k.toList
  trimmed : Text.trim k.toList = k.toList
  unstarred : k.toList.getLast? ≠ some '*'

/-- The text of a path: what stands between two paths, either of which may be missing. -/
def between (front middle back : List String) : String := ".".intercalate (front ++ middle ++ back)

variable {k : String} {front middle back : List String} {p q : Path}

theorem parse_star : parse "*" = .ok [.each] := by
  cbv

/-- In front of a star at the end of a text stands a key. -/
theorem parse_starred (ordinary : Ordinary k) : parse (k ++ "*") = .ok [.key k, .each] := by
  have chars : (k ++ "*").toList = k.toList ++ ['*'] := String.toList_append
  have some : k.toList ≠ [] := fun none => ordinary.nonempty (String.toList_eq_nil_iff.mp none)
  have undotted : '.' ∉ k.toList ++ ['*'] := by
    rw [List.mem_append, not_or]
    exact ⟨ordinary.undotted, by decide⟩
  have longer : k.toList ++ ['*'] ≠ ['*'] := fun same => some (List.append_left_eq_self.mp same)
  rw [parse, chars, ofChars_of_undotted undotted, ofToken, Text.trim_snoc some ordinary.trimmed rfl,
    if_neg longer, List.getLast?_concat, if_pos rfl, List.dropLast_concat, String.ofList_toList]

theorem parse_ordinary (ordinary : Ordinary k) : parse k =
    if isDigits k.toList then do return [.index (← indexOf k.toList)] else .ok [.key k] :=
  parse_of_unstarred ordinary.undotted ordinary.trimmed ordinary.unstarred

theorem parse_joined (some : middle ≠ []) (front back : List String) :
    parse (between front middle back) =
      do return (← parseAll (front ++ middle)) ++ (← parseAll back) := by
  have joined : front ++ middle ++ back ≠ [] := by simp [some]
  rw [between, parse_intercalate joined, parseAll_append]

theorem parse_between (some : middle ≠ []) (first : parseAll front = .ok p)
    (last : parseAll back = .ok q) :
    parse (between front middle back) = (parseAll middle).map fun m => p ++ m ++ q := by
  rw [parse_joined some, parseAll_append, first, last]
  cases parseAll middle <;> rfl

theorem parse_between_starred (ordinary : Ordinary k) (first : parseAll front = .ok p)
    (last : parseAll back = .ok q) :
    parse (between front [k ++ "*"] back) = .ok (p ++ [.key k, .each] ++ q) := by
  rw [parse_between (List.cons_ne_nil _ _) first last, parseAll_cons, parse_starred ordinary]
  rfl

theorem parse_between_star (ordinary : Ordinary k) (first : parseAll front = .ok p)
    (last : parseAll back = .ok q) :
    parse (between front [k, "*"] back) =
      if isDigits k.toList then (indexOf k.toList).map fun n => p ++ [.index n, .each] ++ q
      else .ok (p ++ [.key k, .each] ++ q) := by
  rw [parse_between (List.cons_ne_nil _ _) first last, parseAll_cons, parseAll_cons, parse_star,
    parse_ordinary ordinary]
  split_ifs with digits
  · cases indexOf k.toList <;> rfl
  · rfl

/-- What stands in front of a star is the same key, whether the star has a dot of its own or not, unless it
is made of digits. -/
theorem parse_between_of_word (ordinary : Ordinary k) (word : isDigits k.toList = false)
    (front back : List String) :
    parse (between front [k ++ "*"] back) = parse (between front [k, "*"] back) := by
  have same : parseAll [k ++ "*"] = parseAll [k, "*"] := by
    rw [parseAll_cons, parseAll_cons, parseAll_cons, parse_starred ordinary, parse_star,
      parse_ordinary ordinary, word]
    rfl
  rw [parse_joined (List.cons_ne_nil _ _), parse_joined (List.cons_ne_nil _ _), parseAll_append front,
    parseAll_append front, same]

theorem exists_parse_between_eq_error (some : middle ≠ [])
    (failed : (∃ e, parseAll front = .error e) ∨ ∃ e, parseAll back = .error e) :
    ∃ e, parse (between front middle back) = .error e := by
  rw [parse_joined some, exists_append_eq_error_iff, parseAll_append, exists_append_eq_error_iff]
  exact failed.imp_left Or.inl

theorem hasEach_append (p q : Path) : hasEach (p ++ q) = (hasEach p || hasEach q) := by
  rw [hasEach, List.contains_append]
  rfl

end Path

/-! ### What is found -/

namespace Value

variable {v w : Value} {p q q' : Path} {k : String}

/-- What a value has at the end of the path that a text writes. -/
def find (v : Value) (text : String) : Checked Value := (Path.parse text).map fun p => lookup p v

/-- The values that a path leads to: one, or with stars in it those of all items. -/
inductive Leads : Value → Path → Value → Prop where
  | here {v : Value} : Leads v [] v
  | child {v w : Value} {segment : Segment} {rest : Path} (other : segment ≠ .each)
      (further : Leads (v.child segment) rest w) : Leads v (segment :: rest) w
  | item {v w x : Value} {items : List Value} {rest : Path} (sequence : v.sequence? = some items)
      (member : x ∈ items) (further : Leads x rest w) : Leads v (.each :: rest) w

/-- Paths go on alike if they do so from wherever their common part leads. -/
theorem lookup_append_congr (stars : Path.hasEach q = Path.hasEach q')
    (same : ∀ w, v.Leads p w → lookup q w = lookup q' w) : lookup (p ++ q) v = lookup (p ++ q') v := by
  induction p generalizing v with
  | nil => exact same v .here
  | cons segment rest ih =>
      rw [List.cons_append, List.cons_append]
      by_cases star : segment = .each
      · subst star
        cases sequence : v.sequence? with
        | none => rw [lookup_each_of_other sequence, lookup_each_of_other sequence]
        | some items =>
            have each : items.map (lookup (rest ++ q)) = items.map (lookup (rest ++ q')) :=
              List.map_congr_left fun x member => ih fun w leads => same w (.item sequence member leads)
            rw [lookup_each sequence, lookup_each sequence, each, Path.hasEach_append, Path.hasEach_append, stars]
      · rw [lookup_cons star, lookup_cons star]
        exact ih fun w leads => same w (.child star leads)

/-- In a value without items a number names what its digits name. -/
theorem child_index_of_repr {n : Nat} (digits : Nat.repr n = k) (other : v.sequence? = none) :
    v.child (.key k) = v.child (.index n) := by
  subst digits
  cases v with
  | dict entries => rfl
  | _ => simp only [child, other]

/-- Data in which a path leads to a value. -/
def reaching : Path → Value → Value
  | [], w => w
  | .key name :: rest, w => .ofFields [(name, reaching rest w)]
  | .index n :: rest, w => .ofFields [(Nat.repr n, reaching rest w)]
  | .each :: rest, w => .list [reaching rest w]

theorem lookup_reaching_of_name {segment : Segment} {name : String} {rest : Path}
    (named : segment.name? = some name) (w : Value) :
    lookup (segment :: rest) (.ofFields [(name, w)]) = lookup rest w := by
  rw [lookup_of_name named]
  simp [Fields.get?]

/-- An empty list that is found behind a path stays one behind every path that leads there. -/
theorem lookup_reaching_of_empty (stars : Path.hasEach q = true) (empty : lookup q w = .list []) :
    lookup (p ++ q) (reaching p w) = .list [] := by
  induction p with
  | nil => exact empty
  | cons segment rest ih =>
      cases segment with
      | key name => exact (lookup_reaching_of_name rfl _).trans ih
      | index n => exact (lookup_reaching_of_name rfl _).trans ih
      | each =>
          rw [List.cons_append, reaching, lookup_each rfl, Path.hasEach_append, stars, Bool.or_true, if_pos rfl]
          simp [ih, parts]

/-- Where nothing is found behind a path, there is nothing behind a path that leads there, or a list of
that. -/
theorem lookup_reaching_of_null (stars : Path.hasEach q = true) (none : lookup q w = .null) :
    lookup (p ++ q) (reaching p w) = .null ∨ lookup (p ++ q) (reaching p w) = .list [.null] := by
  induction p with
  | nil => exact Or.inl none
  | cons segment rest ih =>
      cases segment with
      | key name => rwa [List.cons_append, reaching, lookup_reaching_of_name rfl]
      | index n => rwa [List.cons_append, reaching, lookup_reaching_of_name rfl]
      | each =>
          right
          rw [List.cons_append, reaching, lookup_each rfl, Path.hasEach_append, stars, Bool.or_true, if_pos rfl]
          rcases ih with null | single
          · simp [null, parts]
          · simp [single, parts]

/-- Behind a number an empty list is found where behind its digits nothing is. -/
theorem exists_lookup_ne (p q : Path) (k : String) (n : Nat) : ∃ v,
    lookup (p ++ [.key k, .each] ++ q) v ≠ lookup (p ++ [.index n, .each] ++ q) v := by
  have sequence : (list (List.replicate n .null ++ [list []])).sequence? =
      some (List.replicate n .null ++ [list []]) := rfl
  have found : lookup (.index n :: .each :: q) (list (List.replicate n .null ++ [list []])) = list [] := by
    rw [lookup_cons Segment.noConfusion, child_of_sequence sequence, List.getElem?_append_right (by simp),
      List.length_replicate, Nat.sub_self, List.getElem?_cons_zero, Option.getD_some, lookup_each rfl]
    simp
  have missing : lookup (.key k :: .each :: q) (list (List.replicate n .null ++ [list []])) = null := by
    rw [lookup_cons Segment.noConfusion]
    exact lookup_null _
  refine ⟨reaching p (list (List.replicate n .null ++ [list []])), ?_⟩
  rw [List.append_assoc, List.append_assoc]
  have right := lookup_reaching_of_empty (p := p) (q := [.index n, .each] ++ q) rfl found
  rcases lookup_reaching_of_null (p := p) (q := [.key k, .each] ++ q) rfl missing with left | left
  · rw [left, right]
    exact Value.noConfusion
  · rw [left, right]
    simp

/-- A star at the end of a segment may have a dot in front of it exactly if the segment is not made of
digits. Both texts are the same path then, whatever stands before and behind it, and otherwise there is a
value in which they find different things: digits are a key in front of the star, and in front of the dot an
index, if they can be read as one. A path before or behind that cannot be read makes both texts unreadable.
Digits that are spelled as their number is find the same in values in which the path before them leads to no
list and no tuple. -/
theorem find_star_iff (front back : List String) {k : String} (ordinary : Path.Ordinary k) :
    (Path.isDigits k.toList = false →
      Path.parse (Path.between front [k ++ "*"] back) = Path.parse (Path.between front [k, "*"] back)) ∧
    ((∃ e, Path.parseAll front = .error e) ∨ (∃ e, Path.parseAll back = .error e) →
      (∃ e, Path.parse (Path.between front [k ++ "*"] back) = .error e) ∧
        ∃ e, Path.parse (Path.between front [k, "*"] back) = .error e) ∧
    ∀ p q, Path.parseAll front = .ok p → Path.parseAll back = .ok q →
      ((∀ v : Value, v.find (Path.between front [k ++ "*"] back) =
        v.find (Path.between front [k, "*"] back)) ↔ Path.isDigits k.toList = false) ∧
      (Path.isDigits k.toList = true →
        Path.parse (Path.between front [k ++ "*"] back) = .ok (p ++ [.key k, .each] ++ q) ∧
        Path.parse (Path.between front [k, "*"] back) =
          (Path.indexOf k.toList).map fun n => p ++ [.index n, .each] ++ q) ∧
      ∀ n, Path.isDigits k.toList = true → Path.indexOf k.toList = .ok n → Nat.repr n = k →
        ∀ v : Value, (∀ w, v.Leads p w → w.sequence? = none) →
          v.find (Path.between front [k ++ "*"] back) = v.find (Path.between front [k, "*"] back) := by
  refine ⟨fun word => Path.parse_between_of_word ordinary word front back, fun failed => ?_, ?_⟩
  · exact ⟨Path.exists_parse_between_eq_error (List.cons_ne_nil _ _) failed,
      Path.exists_parse_between_eq_error (List.cons_ne_nil _ _) failed⟩
  intro p q first last
  have starred := Path.parse_between_starred ordinary first last
  have star := Path.parse_between_star ordinary first last
  refine ⟨⟨fun same => ?_, fun word v => ?_⟩, fun digits => ⟨starred, ?_⟩, ?_⟩
  · -- Digits that can be read tell lists apart, and digits that cannot are not read at all.
    rw [Bool.eq_false_iff]
    intro digits
    rw [if_pos digits] at star
    simp only [find, starred, star] at same
    cases index : Path.indexOf k.toList with
    | error e =>
        rw [index] at same
        cases same .null
    | ok n =>
        rw [index] at same
        obtain ⟨v, apart⟩ := exists_lookup_ne p q k n
        exact apart (Except.ok.inj (same v))
  · rw [find, find, Path.parse_between_of_word ordinary word]
  · rw [star, if_pos digits]
  · intro n digits index canonical v unlisted
    have child (w : Value) (leads : v.Leads p w) :
        lookup (.key k :: .each :: q) w = lookup (.index n :: .each :: q) w := by
      have key : lookup (.key k :: .each :: q) w = lookup (.each :: q) (w.child (.key k)) :=
        lookup_cons Segment.noConfusion
      have number : lookup (.index n :: .each :: q) w = lookup (.each :: q) (w.child (.index n)) :=
        lookup_cons Segment.noConfusion
      rw [key, number, child_index_of_repr canonical (unlisted w leads)]
    have same : lookup (p ++ ([.key k, .each] ++ q)) v = lookup (p ++ ([.index n, .each] ++ q)) v :=
      lookup_append_congr rfl child
    rw [← List.append_assoc, ← List.append_assoc] at same
    rw [find, find, starred, star, if_pos digits, index]
    exact congrArg Except.ok same

/-- In a list of lists nothing is found behind a number with a star at its end, and the items of one of them
behind the number and a star with a dot of its own. -/
theorem star_misses_items :
    Path.Ordinary "0" ∧
    (list [list [int 1, int 2]]).find (Path.between [] ["0" ++ "*"] []) = .ok null ∧
    (list [list [int 1, int 2]]).find (Path.between [] ["0", "*"] []) = .ok (list [int 1, int 2]) := by
  refine ⟨⟨by decide, by decide, by decide, by decide⟩, by cbv, by cbv⟩

/-- Between other segments a number and its star are read apart from each other; in data without lists they
find the same. -/
theorem find_star_iff_rows :
    Path.Ordinary "0" ∧ Path.parseAll ["rows"] = .ok [.key "rows"] ∧
    Path.parseAll ["id"] = .ok [.key "id"] ∧
    (¬∀ v : Value, v.find "rows.0*.id" = v.find "rows.0.*.id") ∧
    (ofFields [("rows", ofFields [("0", list [ofFields [("id", int 7)]])])]).find "rows.0*.id" =
      .ok (list [int 7]) := by
  have ordinary : Path.Ordinary "0" := ⟨by decide, by decide, by decide, by decide⟩
  have first : Path.parseAll ["rows"] = .ok [.key "rows"] := by cbv
  have last : Path.parseAll ["id"] = .ok [.key "id"] := by cbv
  obtain ⟨-, -, read⟩ := find_star_iff ["rows"] ["id"] ordinary
  obtain ⟨alike, parts, -⟩ := read _ _ first last
  have digits : Path.isDigits "0".toList = true := by decide
  refine ⟨ordinary, first, last, fun same => ?_, ?_⟩
  · have word := alike.mp same
    rw [digits] at word
    cases word
  · have starred : Path.parse "rows.0*.id" = _ := (parts digits).1
    rw [find, starred]
    rfl

end Value

end Stepwise
