import Stepwise.Proofs.Execution.Attempt
import Stepwise.Proofs.Execution.Engine
import Stepwise.Proofs.Script.Operands
import Stepwise.Proofs.Script.Sources

/-!
What scripts put out. Of the value of a script only the kind is asked: a mapping is put out as it is,
whatever it holds. What it holds that is no plain data comes from few kinds of expressions, and no absence
goes into anything that the script has computed.
-/

namespace Stepwise

open Relation (ReflTransGen)

theorem StepConfig.exists_script {fields : Fields} {config : StepConfig}
    (read : StepConfig.ofFields .script fields = .ok config) : ∃ c, config = .script c := by
  unfold StepConfig.ofFields at read
  split at read
  · rename_i found entries
    cases read
    obtain ⟨c, -, same⟩ := Schema.map_eq_ok.1 entries
    exact ⟨c, same.symm⟩
  · cases read

namespace Plan

variable {w : World} {ctx : Context} {s t : Step} {inputs : Fields} {entries : Entries}

theorem exists_script_of_kind (kind : s.kind = StepKind.script.name)
    (done : ((ofStep s).execute w ctx t inputs).run.value = .ok entries) :
    ∃ config, ofStep s = .script config := by
  generalize planned : ofStep s = plan at done ⊢
  rw [ofStep, kind] at planned
  split at planned
  · rename_i absent
    cases absent
  · rename_i known
    cases known
    split at planned
    · subst planned
      cases done
    · rename_i c read
      obtain ⟨_, wrong⟩ := StepConfig.exists_script read
      cases wrong
    · rename_i c read
      obtain ⟨_, wrong⟩ := StepConfig.exists_script read
      cases wrong
    · rename_i c read
      exact ⟨c, planned.symm⟩
    · rename_i c read
      obtain ⟨_, wrong⟩ := StepConfig.exists_script read
      cases wrong

end Plan

namespace ScriptStep

variable {ctx : Context} {config : ScriptConfig} {inputs : Fields} {entries : Entries}

/-- A script puts out a mapping: its value, whatever that holds. -/
theorem eval_of_run (done : run ctx config inputs = .ok entries) : ∃ e,
    Script.prepare config.script = .ok e ∧ e.eval (scope ctx inputs) = .ok (.dict entries) := by
  rw [run] at done
  by_cases blank : Text.allBlank config.script = true
  · rw [if_pos blank] at done
    cases done
  · rw [if_neg blank] at done
    by_cases shadowed : (!(reserved inputs).isEmpty) = true
    · rw [if_pos shadowed] at done
      cases done
    · rw [if_neg shadowed] at done
      cases value : Script.run config.script (scope ctx inputs) with
      | error f =>
          rw [value] at done
          cases done
      | ok v =>
          rw [value] at done
          cases v with
          | dict found =>
              cases done
              obtain ⟨e, prepared, value⟩ := bind_eq_ok.mp value
              split at value
              · cases value
              · exact ⟨e, prepared, value⟩
          | _ => cases done

/-- What a script sees is plain data where the inputs of its step, the outputs of the steps before it and
the inputs of the run are. -/
theorem data_of_scope (given : ∀ f ∈ inputs, f.2.Data) (results : ∀ f ∈ ctx.results, f.2.Data)
    (asked : (Value.dict ctx.inputs).Data) : ∀ f ∈ scope ctx inputs, f.2.Data := by
  refine List.forall_mem_append.mpr ⟨fun f seen => given f (List.mem_filter.mp seen).1, ?_⟩
  rw [List.forall_mem_cons, List.forall_mem_singleton]
  exact ⟨Value.Data.ofFields results, asked⟩

def strayingScript : ScriptConfig := { script := "\x7b'a': missing, 'b': sum\x7d" }

def straying : Step :=
  { id := "a"
    kind := StepKind.script.name
    config := [("script", .text strayingScript.script)] }

theorem ofStep_straying : Plan.ofStep straying = .script strayingScript := by
  rw [Plan.ofStep]
  rfl

/-- The absence and the name of the function that a script puts out, if it puts out just these. -/
def strays? : Except StepError Entries → Option (Absence × String)
  | .ok [(.text "a", .undefined a), (.text "b", .routine function)] => some (a, function)
  | _ => none

theorem strays?_eq_some {x : Except StepError Entries} {a : Absence} {function : String}
    (found : strays? x = some (a, function)) :
    x = .ok [(.text "a", .undefined a), (.text "b", .routine function)] := by
  unfold strays? at found
  split at found
  · cases found
    rfl
  · cases found

theorem exists_strays : ∃ a function, a.strict = true ∧
    ((Plan.ofStep straying).execute Engine.silent {} straying []).run.value =
      .ok [(.text "a", .undefined a), (.text "b", .routine function)] := by
  have strays : ((strays? (run {} strayingScript [])).any fun found => found.1.strict) = true := by
    decide +kernel
  obtain ⟨⟨a, function⟩, found, strict⟩ := (Option.any_eq_true _ _).mp strays
  rw [ofStep_straying, Plan.value_execute_script]
  exact ⟨a, function, strict, strays?_eq_some found⟩

theorem not_data_of_absence {key : Value} {a : Absence} {rest : Entries} :
    ¬(Value.dict ((key, .undefined a) :: rest)).Data := by
  intro data
  cases data with
  | dict keys all => exact nomatch all _ List.mem_cons_self

end ScriptStep

end Stepwise
