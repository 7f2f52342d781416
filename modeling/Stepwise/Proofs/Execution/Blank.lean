import Stepwise.Proofs.Execution.Prompt

/-!
Blank prompts. A completion step takes its prompt from an input, else from its configuration, else from the
store of prompts. Only what comes from the first two is known to be more than blanks: a prompt from the
store is sent if it has any character at all.
-/

namespace Stepwise

namespace Completion

variable {w : World} {ctx : Context} {s : Step} {outputs : List String} {config : CompletionConfig}
variable {inputs : Fields}

/-! ### Where a message comes from -/

/-- No text is given that is more than blanks. -/
def Unspoken (given : Option String) : Prop := ∀ s ∈ given, Text.allBlank s = true

/-- The text that is chosen for a message: an input, else the configuration, else the store, else none. -/
inductive Chosen (w : World) (input : Value) (config key : Option String) : String → Prop
  | input {text : String} (given : input.textOf? = some text) (spoken : Text.allBlank text = false) :
      Chosen w input config key text
  | config {text : String} (noInput : Unspoken input.textOf?) (given : config = some text)
      (spoken : Text.allBlank text = false) : Chosen w input config key text
  | stored {name : String} {prompts : String → String} (noInput : Unspoken input.textOf?)
      (noConfig : Unspoken config) (named : key = some name) (nonempty : name ≠ "")
      (there : w.prompt? = some prompts) : Chosen w input config key (prompts name)
  | missing (noInput : Unspoken input.textOf?) (noConfig : Unspoken config)
      (nowhere : ∀ name ∈ key, name = "" ∨ w.prompt? = none) : Chosen w input config key ""

theorem spoken?_of_unspoken {given : Option String} (unspoken : Unspoken given) :
    given.bind spoken? = none := by
  cases given with
  | none => rfl
  | some s => rw [Option.bind_some, spoken?, if_pos (unspoken s rfl)]

/-- A text is given that is more than blanks, or none is. -/
theorem spoken_cases (given : Option String) :
    (∃ s, given = some s ∧ Text.allBlank s = false ∧ given.bind spoken? = some s) ∨ Unspoken given := by
  cases given with
  | none =>
      right
      rintro s ⟨⟩
  | some s =>
      cases blank : Text.allBlank s with
      | false =>
          left
          refine ⟨s, rfl, blank, ?_⟩
          rw [Option.bind_some, spoken?, blank]
          rfl
      | true =>
          right
          rintro t ⟨⟩
          exact blank

theorem pick_of_unspoken {input : Value} {config key : Option String} (noInput : Unspoken input.textOf?)
    (noConfig : Unspoken config) : pick w input config key =
      match key, w.prompt? with
      | some name, some prompts => if name = "" then "" else prompts name
      | _, _ => "" := by
  unfold pick
  rw [spoken?_of_unspoken noInput, spoken?_of_unspoken noConfig]
  rfl

theorem chosen_pick (w : World) (input : Value) (config key : Option String) :
    Chosen w input config key (pick w input config key) := by
  rcases spoken_cases input.textOf? with ⟨text, given, spoken, first⟩ | noInput
  · have same : pick w input config key = text := by
      unfold pick
      rw [first]
      rfl
    rw [same]
    exact .input given spoken
  · rcases spoken_cases config with ⟨text, given, spoken, second⟩ | noConfig
    · have same : pick w input config key = text := by
        unfold pick
        rw [spoken?_of_unspoken noInput, second]
        rfl
      rw [same]
      exact .config noInput given spoken
    · rw [pick_of_unspoken noInput noConfig]
      split
      · rename_i name prompts named there
        split
        · rename_i empty
          refine .missing noInput noConfig ?_
          rintro other ⟨⟩
          exact Or.inl empty
        · rename_i nonempty
          exact .stored noInput noConfig rfl nonempty there
      · rename_i nowhere
        refine .missing noInput noConfig ?_
        rintro name ⟨⟩
        cases there : w.prompt? with
        | none => exact Or.inr rfl
        | some prompts => exact absurd there (nowhere name prompts rfl)

/-- Each message comes from one place. -/
theorem Chosen.eq_pick {input : Value} {config key : Option String} {text : String}
    (chosen : Chosen w input config key text) : text = pick w input config key := by
  cases chosen with
  | input given spoken =>
      unfold pick
      rw [given, Option.bind_some, spoken?, spoken]
      rfl
  | config noInput given spoken =>
      unfold pick
      rw [spoken?_of_unspoken noInput, given, Option.bind_some, spoken?, spoken]
      rfl
  | stored noInput noConfig named nonempty there =>
      rw [pick_of_unspoken noInput noConfig, named, there]
      exact (if_neg nonempty).symm
  | missing noInput noConfig nowhere =>
      rw [pick_of_unspoken noInput noConfig]
      split
      · rename_i name prompts there
        rcases nowhere name rfl with empty | none
        · rw [if_pos empty]
        · rw [there] at none
          cases none
      · rfl

theorem chosen_iff {input : Value} {config key : Option String} {text : String} :
    Chosen w input config key text ↔ pick w input config key = text := by
  constructor
  · intro chosen
    exact chosen.eq_pick.symm
  · rintro rfl
    exact chosen_pick w input config key

/-- Only the store gives a text of nothing but blanks. -/
theorem Chosen.stored_of_blank {input : Value} {config key : Option String} {text : String}
    (chosen : Chosen w input config key text) (blank : Text.allBlank text = true) (nonempty : text ≠ "") :
    Unspoken input.textOf? ∧ Unspoken config ∧
      ∃ name prompts, key = some name ∧ w.prompt? = some prompts ∧ text = prompts name := by
  cases chosen with
  | input given spoken =>
      rw [spoken] at blank
      cases blank
  | config noInput given spoken =>
      rw [spoken] at blank
      cases blank
  | stored noInput noConfig named nonempty there => exact ⟨noInput, noConfig, _, _, named, there, rfl⟩
  | missing noInput noConfig nowhere => exact absurd rfl nonempty

/-! ### Requests -/

/-- What becomes of the reply to a request. -/
def received (outputs : List String) : CompletionReply → Except StepError Fields
  | .failure detail => .error (.providerFailed detail)
  | .text s => output outputs s

theorem received_eq_ok {reply : CompletionReply} {fields : Fields} :
    received outputs reply = .ok fields ↔ ∃ text, reply = .text text ∧ Text.trimString text ≠ "" ∧
      fields = [(outputs.head?.getD defaultOutput, .text (Text.trimString text))] := by
  cases reply with
  | failure detail =>
      refine iff_of_false (by rintro ⟨⟩) ?_
      rintro ⟨_, ⟨⟩, _⟩
  | text s =>
      simp only [received, output, CompletionReply.text.injEq, exists_eq_left']
      split
      · rename_i empty
        exact iff_of_false (by rintro ⟨⟩) fun filled => filled.1 empty
      · rename_i filled
        rw [Except.ok.injEq]
        exact ⟨fun same => ⟨filled, same.symm⟩, fun made => made.2.symm⟩

theorem received_ne_promptMissing (outputs : List String) (reply : CompletionReply) :
    received outputs reply ≠ .error .promptMissing := by
  cases reply with
  | failure detail => rintro ⟨⟩
  | text s =>
      simp only [received, output]
      split <;> rintro ⟨⟩

/-- The messages that a prompt is sent with. -/
def sentWith (w : World) (config : CompletionConfig) (inputs : Fields) (prompt : String) :
    Checked (List Message) :=
  messages prompt (pick w (Fields.getD inputs "system") config.system config.systemKey)
    (inputs.filter fun f => !messageNames.contains f.1)

/-- The prompt of a step. -/
abbrev promptOf (w : World) (config : CompletionConfig) (inputs : Fields) : String :=
  pick w (Fields.getD inputs "prompt") config.prompt config.promptKey

theorem request_of_empty (ctx : Context) (outputs : List String)
    (empty : promptOf w config inputs = "") :
    (request w ctx outputs config inputs).run = ⟨.error .promptMissing, {}⟩ := by
  unfold request
  rw [if_pos empty]
  rfl

/-- With a prompt, the request is made if the messages can be written and there is a provider. -/
theorem request_cases {prompt : String} (chosen : promptOf w config inputs = prompt)
    (nonempty : prompt ≠ "") :
    (∃ f, sentWith w config inputs prompt = .error f ∧
        (request w ctx outputs config inputs).run = ⟨.error (.fault f), {}⟩) ∨
      (∃ sent, sentWith w config inputs prompt = .ok sent ∧ w.complete? = none ∧
        (request w ctx outputs config inputs).run = ⟨.error .providerMissing, {}⟩) ∨
      ∃ sent complete, sentWith w config inputs prompt = .ok sent ∧ w.complete? = some complete ∧
        (request w ctx outputs config inputs).run =
          ⟨received outputs (complete ⟨config.model, sent, config.maxTokens, config.temperature, ctx.run⟩),
            { completions := [⟨config.model, sent, config.maxTokens, config.temperature, ctx.run⟩] }⟩ := by
  subst chosen
  unfold request sentWith
  rw [if_neg nonempty]
  dsimp only
  cases written : messages (promptOf w config inputs)
      (pick w (Fields.getD inputs "system") config.system config.systemKey)
      (inputs.filter fun f => !messageNames.contains f.1) with
  | error f => exact Or.inl ⟨f, rfl, rfl⟩
  | ok sent =>
      right
      cases provider : w.complete? with
      | none => exact Or.inl ⟨sent, rfl, rfl, rfl⟩
      | some complete =>
          refine Or.inr ⟨sent, complete, rfl, rfl, ?_⟩
          rw [Asked.run_checked_ok]
          dsimp only
          rw [Asked.run_lift_bind]
          dsimp only
          cases complete ⟨config.model, sent, config.maxTokens, config.temperature, ctx.run⟩ with
          | failure detail => rfl
          | text s =>
              dsimp only [received]
              cases output outputs s <;> rfl

section Requests

variable {prompt : String} (chosen : promptOf w config inputs = prompt) (nonempty : prompt ≠ "")
include chosen nonempty

theorem value_request_ne :
    (request w ctx outputs config inputs).run.value ≠ .error .promptMissing := by
  rcases request_cases chosen nonempty with
    ⟨f, -, run⟩ | ⟨sent, -, -, run⟩ | ⟨sent, complete, -, -, run⟩
  · rw [run]
    rintro ⟨⟩
  · rw [run]
    rintro ⟨⟩
  · rw [run]
    exact received_ne_promptMissing _ _

theorem completions_request {sent : List Message} {complete : CompletionRequest → CompletionReply}
    (written : sentWith w config inputs prompt = .ok sent) (provider : w.complete? = some complete) :
    (request w ctx outputs config inputs).run.trace.completions =
      [⟨config.model, sent, config.maxTokens, config.temperature, ctx.run⟩] := by
  rcases request_cases chosen nonempty with
    ⟨f, failed, -⟩ | ⟨other, -, missing, -⟩ | ⟨other, _, again, -, run⟩
  · rw [failed] at written
    cases written
  · rw [missing] at provider
    cases provider
  · rw [written] at again
    cases again
    rw [run]

end Requests

/-- A request that has an output was made once, and was replied to. -/
theorem exists_reply_of_request {fields : Fields}
    (done : (request w ctx outputs config inputs).run.value = .ok fields) :
    ∃ asked complete reply, (request w ctx outputs config inputs).run.trace.completions = [asked] ∧
      w.complete? = some complete ∧ complete asked = .text reply ∧ Text.trimString reply ≠ "" ∧
      fields = [(outputs.head?.getD defaultOutput, .text (Text.trimString reply))] := by
  by_cases empty : promptOf w config inputs = ""
  · rw [request_of_empty ctx outputs empty] at done
    cases done
  · rcases request_cases rfl empty with
      ⟨f, -, run⟩ | ⟨sent, -, -, run⟩ | ⟨sent, complete, -, provider, run⟩
    · rw [run] at done
      cases done
    · rw [run] at done
      cases done
    · rw [run] at done
      obtain ⟨reply, replied, filled, same⟩ := received_eq_ok.mp done
      refine ⟨_, complete, reply, ?_, provider, replied, filled, same⟩
      rw [run]

/-! ### Attempts -/

/-- The outputs of a step that has completed are those of what it executed. -/
theorem exists_of_settle {step : String} {x : Asked Fields} {fields : Fields}
    (settled : (settle step (Fields.entries <$> x)).value = .ok ⟨step, .completed fields⟩) :
    ∃ found, x.run.value = .ok found ∧
      StepResult.ofEntries step (Fields.entries found) = .ok ⟨step, .completed fields⟩ := by
  have mapped := Asked.value_map Fields.entries x
  cases done : x.run.value with
  | error e =>
      rw [done] at mapped
      rw [settle_of_error mapped] at settled
      cases settled
  | ok found =>
      rw [done] at mapped
      rw [settle_of_ok mapped] at settled
      exact ⟨found, rfl, settled⟩

/-- A completion step without a prompt fails, and the provider is not asked. That the prompt is there means
that it has a character: one of nothing but blanks is taken from the store alone, and then it is sent. A
step that completes has asked the provider once, and has one output, which is the reply without the blanks
around it. -/
theorem execute_of_chosen (ctx : Context) {s : Step} {prompt : String}
    (planned : Plan.ofStep s = .completion config)
    (chosen : Chosen w (Fields.getD inputs "prompt") config.prompt config.promptKey prompt) :
    let made := settle s.id ((Plan.ofStep s).execute w ctx s inputs)
    (w.executes s.kind = true → Fields.resolve ctx s.inputs = .ok inputs → s.attempt w ctx = made) ∧
    (prompt = "" →
      made.value = .ok ⟨s.id, .failed "Prompt is required for completion calls"⟩ ∧
      made.trace.requests = 0) ∧
    (prompt ≠ "" →
      (request w ctx s.outputs config inputs).run.value ≠ .error .promptMissing ∧
      ∀ sent complete, sentWith w config inputs prompt = .ok sent → w.complete? = some complete →
        made.trace.completions =
          [⟨config.model, sent, config.maxTokens, config.temperature, ctx.run⟩]) ∧
    (prompt ≠ "" → Text.allBlank prompt = true →
      Unspoken (Fields.getD inputs "prompt").textOf? ∧ Unspoken config.prompt ∧
      ∃ key prompts, config.promptKey = some key ∧ w.prompt? = some prompts ∧ prompt = prompts key) ∧
    ∀ fields, made.value = .ok ⟨s.id, .completed fields⟩ →
      ∃ asked complete reply, made.trace.completions = [asked] ∧
        w.complete? = some complete ∧ complete asked = .text reply ∧ Text.trimString reply ≠ "" ∧
        fields = [(s.outputs.head?.getD defaultOutput, .text (Text.trimString reply))] := by
  intro made
  have same : promptOf w config inputs = prompt := chosen_iff.mp chosen
  have executed : made = settle s.id (Fields.entries <$> request w ctx s.outputs config inputs) := by
    rw [show made = settle s.id ((Plan.ofStep s).execute w ctx s inputs) from rfl, planned, Plan.execute]
  have traced : made.trace = (request w ctx s.outputs config inputs).run.trace := by
    rw [executed]
    exact Asked.trace_map _ _
  refine ⟨fun registered resolved => attempt_of_resolved registered resolved, ?_, ?_,
    fun nonempty blank => chosen.stored_of_blank blank nonempty, ?_⟩
  · intro empty
    have run := request_of_empty ctx s.outputs (same.trans empty)
    have failed : (Fields.entries <$> request w ctx s.outputs config inputs).run.value =
        .error .promptMissing := by
      rw [Asked.value_map, run]
      rfl
    rw [traced, run, executed, settle_of_error failed]
    exact ⟨rfl, rfl⟩
  · intro nonempty
    rw [traced]
    exact ⟨value_request_ne same nonempty, fun sent complete => completions_request same nonempty⟩
  · intro fields completed
    rw [executed] at completed
    obtain ⟨found, done, recorded⟩ := exists_of_settle completed
    obtain ⟨asked, complete, reply, once, provider, replied, filled, rfl⟩ := exists_reply_of_request done
    cases recorded
    rw [traced]
    exact ⟨asked, complete, reply, once, provider, replied, filled, rfl⟩

/-- A step that is told what to say by the store. -/
def prompted : Step :=
  { id := "say"
    kind := StepKind.completion.name
    config := [("prompt_key", .text "p")] }

def promptedBy : CompletionConfig where
  model := defaultModel
  prompt := none
  promptKey := some "p"
  system := none
  systemKey := none
  maxTokens := defaultMaxTokens
  temperature := defaultTemperature

theorem ofStep_prompted : Plan.ofStep prompted = .completion promptedBy := by
  rw [Plan.ofStep]
  rfl

/-- A world whose store has one text under all keys. -/
def holding (text : String) : World := { replying with prompt? := some fun _ => text }

theorem chosen_prompted (text : String) : Chosen (holding text) (Fields.getD [] "prompt")
    promptedBy.prompt promptedBy.promptKey text := by
  have named : promptedBy.promptKey = some "p" := rfl
  have there : (holding text).prompt? = some fun _ => text := rfl
  refine .stored ?_ ?_ named (by decide) there
  · rintro s ⟨⟩
  · rintro s ⟨⟩

/-- A prompt that the store does not have is missing, and one that it has is not. -/
theorem execute_of_chosen_prompted :
    (prompted.attempt (holding "") {}).value =
        .ok ⟨"say", .failed "Prompt is required for completion calls"⟩ ∧
      (prompted.attempt (holding "") {}).trace.requests = 0 ∧
      (request (holding "Hello") {} [] promptedBy []).run.value ≠ .error .promptMissing := by
  obtain ⟨silent, empty, -⟩ := execute_of_chosen {} ofStep_prompted (chosen_prompted "")
  obtain ⟨-, -, there, -⟩ := execute_of_chosen {} ofStep_prompted (chosen_prompted "Hello")
  rw [silent rfl rfl]
  exact ⟨(empty rfl).1, (empty rfl).2, (there (by decide)).1⟩

/-- A prompt of blanks from the store is sent. -/
theorem blank_prompt_is_sent :
    Chosen (holding "  ") (Fields.getD [] "prompt") promptedBy.prompt promptedBy.promptKey "  " ∧
      Text.allBlank "  " = true ∧
      (prompted.attempt (holding "  ") {}).trace.completions.length = 1 ∧
      (prompted.attempt (holding "  ") {}).value.toOption.bind StepResult.failure? = none := by
  exact ⟨chosen_prompted "  ", by decide, by decide +kernel, by decide +kernel⟩

end Completion

end Stepwise
