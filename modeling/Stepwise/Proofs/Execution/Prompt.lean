import Stepwise.Proofs.Execution.Asking
import Stepwise.Proofs.Execution.Engine
import Stepwise.Proofs.Execution.Leaves
import Stepwise.Proofs.Reference.Resolution
import Stepwise.Proofs.Reference.Template

/-!
What completion steps send. A prompt that is a template is filled when the inputs of the step are
resolved, and what comes of it is filled from the other inputs when the message is written. The second
pass reads what the first one has put in, so a value from the run can hold a placeholder that is filled;
what the second pass puts in stands in the message as it is.
-/

namespace Stepwise

open Template (Piece chars split substitute)

/-! ### Requests for completions -/

namespace Completion

variable {w : World} {ctx : Context} {inputs : Fields} {config : CompletionConfig} {outputs : List String}

/-- The inputs that fill the placeholders of messages. -/
def others (inputs : Fields) : Value := .ofFields (inputs.filter fun f => !messageNames.contains f.1)

/-- The prompt where no input gives one. -/
def fallback (w : World) (config : CompletionConfig) : String := pick w .null config.prompt config.promptKey

theorem pick_of_spoken {s : String} {key key' : Option String} (some : Text.allBlank s = false) :
    pick w (.text s) key key' = s := by
  simp only [pick, Value.textOf?, Option.bind_some, spoken?, some, Bool.false_eq_true, if_false,
    Option.some_or]

theorem pick_of_blank {s : String} {key key' : Option String} (blank : Text.allBlank s = true) :
    pick w (.text s) key key' = pick w .null key key' := by
  simp only [pick, Value.textOf?, Option.bind_some, spoken?, blank, if_true, Option.bind_none]

theorem messages_eq_ok {prompt system : String} {fillings : Fields} {sent : List Message}
    (written : messages prompt system fillings = .ok sent) :
    ∃ before content, sent = before ++ [⟨"user", content⟩] ∧ (∀ m ∈ before, m.role = "system") ∧
      substitute prompt (.ofFields fillings) = .ok content := by
  rw [messages] at written
  split at written
  · obtain ⟨before, none, written⟩ := bind_eq_ok.mp written
    obtain ⟨content, filled, written⟩ := bind_eq_ok.mp written
    cases none
    cases written
    exact ⟨[], content, rfl, List.forall_mem_nil _, filled⟩
  · obtain ⟨text, -, written⟩ := bind_eq_ok.mp written
    obtain ⟨before, one, written⟩ := bind_eq_ok.mp written
    obtain ⟨content, filled, written⟩ := bind_eq_ok.mp written
    cases one
    cases written
    exact ⟨[⟨"system", text⟩], content, rfl, List.forall_mem_singleton.mpr rfl, filled⟩

/-- The last of the messages that reach the provider is the prompt, filled from the other inputs. -/
theorem messages_of_asked {sent : CompletionRequest}
    (asked : sent ∈ (request w ctx outputs config inputs).run.trace.completions) :
    ∃ before content, sent.messages = before ++ [⟨"user", content⟩] ∧
      (∀ m ∈ before, m.role = "system") ∧
      substitute (pick w (Fields.getD inputs "prompt") config.prompt config.promptKey) (others inputs) =
        .ok content := by
  rcases trace_request w ctx outputs config inputs with none | ⟨messages, written, once⟩
  · rw [none] at asked
    cases asked
  · rw [once] at asked
    cases List.mem_singleton.mp asked
    exact messages_eq_ok written

/-- Only a step whose configuration can be read sends anything, and only with its inputs resolved. -/
theorem exists_request_of_asked {s : Step} (kind : s.kind = StepKind.completion.name)
    {sent : CompletionRequest} (asked : sent ∈ (s.attempt w ctx).trace.completions) :
    ∃ config inputs, Plan.ofStep s = .completion config ∧ Fields.resolve ctx s.inputs = .ok inputs ∧
      sent ∈ (request w ctx s.outputs config inputs).run.trace.completions := by
  have planned : (Plan.ofStep s).kind? = some .completion := by
    rw [Plan.kind?_ofStep, kind, StepKind.ofName?_name]
  rw [Step.attempt] at asked
  rcases trace_attempt_cases w ctx s with ⟨inputs, -, resolved, asks⟩ | none
  · rw [asks] at asked
    cases plan : Plan.ofStep s with
    | completion config =>
        rw [plan, Plan.execute, Asked.trace_map] at asked
        exact ⟨config, inputs, rfl, resolved, asked⟩
    | misfit _ report =>
        rw [plan, Plan.execute] at asked
        cases asked
    | _ =>
        rw [plan] at planned
        cases planned
  · rw [none] at asked
    cases asked

end Completion

/-! ### Prompts that are templates -/

theorem Value.resolve_template {ctx : Context} {t : String} {v : Value}
    (whole : Reference.ofText t = .ok none) (holed : Text.contains ['\x7b', '\x7b'] t.toList = true)
    (resolved : (Value.text t).resolve ctx = .ok v) :
    ∃ rendered, Template.render ctx t = .ok rendered ∧ v = .text rendered := by
  have other : Reference.ofValue (.text t) = .ok none := whole
  rw [resolve, other] at resolved
  change (if _ then _ else _) = _ at resolved
  rw [if_pos holed] at resolved
  obtain ⟨rendered, done, same⟩ := bind_eq_ok.mp resolved
  cases same
  exact ⟨rendered, done, rfl⟩

namespace Completion

/-- A completion step with a template for its prompt sends what comes of two passes. The first puts the
text of its value in the place of each placeholder that refers to something in the run. If more than
blanks come of it, the second puts the text of a value in the place of each placeholder in it that names
another input, and so the message is the template with each placeholder filled once, unless the text
between the placeholders that are left now holds one that names another input. If only blanks come of
it, the prompt of the configuration or of the store is filled. -/
theorem content_of_template (w : World) (ctx : Context) (s : Step) (t : String)
    (kind : s.kind = StepKind.completion.name) (declared : Fields.get? s.inputs "prompt" = some (.text t))
    (whole : Reference.ofText t = .ok none)
    (holed : Text.contains ['\x7b', '\x7b'] t.toList = true) :
    ∀ sent ∈ (s.attempt w ctx).trace.completions, ∃ config inputs left before content,
      Plan.ofStep s = .completion config ∧ Fields.resolve ctx s.inputs = .ok inputs ∧
      List.Forall₂ (Piece.Renders ctx) (split t.toList) left ∧
      sent.messages = before ++ [⟨"user", content⟩] ∧ (∀ m ∈ before, m.role = "system") ∧
      (Text.allBlank (String.ofList (chars left)) = false →
        substitute (String.ofList (chars left)) (others inputs) = .ok content ∧
        (Template.Steady (others inputs) left →
          ∃ parts, List.Forall₂ (Piece.Fills ctx (others inputs)) (split t.toList) parts ∧
            content = String.join parts)) ∧
      (Text.allBlank (String.ofList (chars left)) = true →
        substitute (fallback w config) (others inputs) = .ok content) := by
  intro sent asked
  obtain ⟨config, inputs, planned, resolved, asked⟩ := exists_request_of_asked kind asked
  obtain ⟨v, atPrompt, found⟩ := (Fields.get?_resolve resolved).2 _ declared
  obtain ⟨rendered, done, rfl⟩ := Value.resolve_template whole holed atPrompt
  obtain ⟨left, renders, rfl⟩ := Template.exists_renders done
  obtain ⟨before, content, same, system, filled⟩ := messages_of_asked asked
  have prompt : Fields.getD inputs "prompt" = .text (String.ofList (chars left)) := by
    rw [Fields.getD, found, Option.getD_some]
  rw [prompt] at filled
  refine ⟨config, inputs, left, before, content, planned, resolved, renders, same, system, ?_, ?_⟩
  · intro spoken
    rw [pick_of_spoken spoken] at filled
    exact ⟨filled, fun steady => Template.exists_fills_of_substitute renders steady filled⟩
  · intro blank
    rw [pick_of_blank blank] at filled
    exact filled

/-! ### Values from the run that hold placeholders -/

/-- A world whose provider always replies. -/
def replying : World := { Engine.silent with complete? := some fun _ => .text "ok" }

/-- A step that sends a prompt. -/
def saying (prompt : String) (given config : Fields) : Step :=
  { id := "say"
    kind := StepKind.completion.name
    inputs := ("prompt", .text prompt) :: given
    config }

/-- The messages that an attempt at a step sends. -/
def messagesOf (s : Step) (ctx : Context) : List (List Message) :=
  (s.attempt replying ctx).trace.completions.map (·.messages)

/-- A run with one input. -/
def asking (v : Value) : Context := { inputs := [(.text "q", v)] }

theorem split_asking : split "Say \x7b\x7binput.q\x7d\x7d".toList =
    [.literal "Say ".toList, .placeholder "input.q".toList] := by
  decide +kernel

theorem referenceOf_asking : Template.referenceOf "input.q".toList =
    .ok (some ⟨"\x7b\x7binput.q\x7d\x7d", .input, [.key "q"]⟩) := by
  decide +kernel

/-- The placeholder for the input of the run, filled once. -/
theorem join_of_asking (opening : String) {shown : String} {v others : Value} {parts : List String}
    (present : v ≠ .null) (text : v.inText = .ok shown)
    (fills : List.Forall₂ (Piece.Fills (asking v) others)
      [.literal opening.toList, .placeholder "input.q".toList] parts) :
    String.join parts = opening ++ shown := by
  have one : List.Forall₂ (Piece.Fills (asking v) others)
      [.literal opening.toList, .placeholder "input.q".toList] [String.ofList opening.toList, shown] :=
    .cons (.literal _) (.cons (.reference referenceOf_asking present text) .nil)
  rw [Piece.rightUnique_fills.forall₂ fills one, String.ofList_toList]
  simp [String.join_cons]

/-- What the first pass puts in is filled by the second one, and where it leaves only blanks another prompt
is sent. The template filled once would be the value as it is. -/
theorem value_is_filled :
    messagesOf (saying "Say \x7b\x7binput.q\x7d\x7d" [("secret", .text "s3cret")] [])
        (asking (.text "\x7b\x7bsecret\x7d\x7d")) = [[⟨"user", "Say s3cret"⟩]] ∧
      (∀ parts, List.Forall₂ (Piece.Fills (asking (.text "\x7b\x7bsecret\x7d\x7d"))
          (others [("secret", .text "s3cret")])) (split "Say \x7b\x7binput.q\x7d\x7d".toList) parts →
        String.join parts = "Say \x7b\x7bsecret\x7d\x7d") ∧
      messagesOf (saying "\x7b\x7binput.q\x7d\x7d" [] [("prompt", .text "Hello")]) (asking (.text " ")) =
        [[⟨"user", "Hello"⟩]] ∧
      ∀ parts, List.Forall₂ (Piece.Fills (asking (.text " ")) (others []))
          (split "\x7b\x7binput.q\x7d\x7d".toList) parts → String.join parts = " " := by
  have alone : split "\x7b\x7binput.q\x7d\x7d".toList = [.placeholder "input.q".toList] := by
    decide +kernel
  refine ⟨by decide +kernel, ?_, by decide +kernel, ?_⟩
  · intro parts fills
    rw [split_asking] at fills
    exact join_of_asking "Say " (by rintro ⟨⟩) rfl fills
  · intro parts fills
    rw [alone] at fills
    have joined := join_of_asking "" (by rintro ⟨⟩) rfl (.cons (.literal _) fills)
    rwa [String.join_cons, String.ofList_toList, String.empty_append] at joined

/-- A value without braces is filled in once. -/
theorem content_of_template_asking :
    ∃ sent ∈ ((saying "Say \x7b\x7binput.q\x7d\x7d" [] []).attempt replying
        (asking (.text "why?"))).trace.completions,
      ∃ before, sent.messages = before ++ [⟨"user", "Say why?"⟩] := by
  have many : messagesOf (saying "Say \x7b\x7binput.q\x7d\x7d" [] []) (asking (.text "why?")) ≠ [] := by
    decide +kernel
  obtain ⟨sent, asked⟩ := List.exists_mem_of_ne_nil _ fun none => many (List.map_eq_nil_iff.mpr none)
  obtain ⟨config, inputs, left, before, content, -, -, renders, same, -, spoken, -⟩ :=
    content_of_template replying (asking (.text "why?"))
      (saying "Say \x7b\x7binput.q\x7d\x7d" [] []) "Say \x7b\x7binput.q\x7d\x7d" rfl rfl
      (by decide +kernel) (by decide +kernel) sent asked
  have one : List.Forall₂ (Piece.Renders (asking (.text "why?")))
      [.literal "Say ".toList, .placeholder "input.q".toList]
      [.literal "Say ".toList, .literal "why?".toList] :=
    .cons (.literal _) (.cons (.filled referenceOf_asking (by rintro ⟨⟩) rfl) .nil)
  rw [split_asking] at renders spoken
  cases Piece.rightUnique_renders.forall₂ renders one
  obtain ⟨-, once⟩ := spoken (by decide +kernel)
  have unbraced : ∀ text, Piece.literal text ∈ [.literal "Say ".toList, .literal "why?".toList] →
      ∀ c ∈ text, Template.isBrace c = false := by
    have plain : ∀ text ∈ ["Say ".toList, "why?".toList], text.all (fun c => !Template.isBrace c) = true := by
      decide +kernel
    intro text member c among
    have all := List.all_eq_true.mp (plain text (by simpa using member)) c among
    rwa [Bool.not_eq_true'] at all
  obtain ⟨parts, fills, rfl⟩ := once (Template.steady_of_unbraced unbraced)
  rw [join_of_asking "Say " (by rintro ⟨⟩) rfl fills] at same
  exact ⟨sent, asked, before, same⟩

end Completion

end Stepwise
