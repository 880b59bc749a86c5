import FormLogic.Proofs.Controls.Locality
import FormLogic.Proofs.Controls.Precedence
import FormLogic.Proofs.Entity.Rules

/-! A rule that sets a field to the value that the field has: it shows what rules see of the
field. -/

namespace FormLogic

open Grammar

theorem Expr.parse_true : Expr.parse "true" = .ok (.literal (.boolean true)) := by
  have hchars : "true".toList.dropWhile Text.isBlank = ['t', 'r', 'u', 'e'] := rfl
  have hscan : Lexer.scanToken 0 't' ['r', 'u', 'e'] = .ok (.boolean true, []) := rfl
  have hscans : Scans "true".toList [.boolean true] := .token hchars hscan (.blank rfl)
  exact Expr.parse_of_derives hscans (.of_primary (.literal (.boolean true))) (by omega)

/-- Sets a field to the value that it has. -/
def Rule.echo (name : String) : Rule where
  id := "echo"
  name := "Echo"
  condition := "true"
  effect := ⟨.valueSet, name, .formula name⟩

def Effect.echo (name : String) (v : Value) : Effect := ⟨.valueSet, name, v, "echo"⟩

variable {e : Entity} {options : ControlOptions} {values : FieldValues} {functions : Registry}
  {name : String}

theorem evalText_of_isFieldName (hname : IsFieldName name) :
    evalText ⟨values, functions⟩ name =
      match values.get? name with
      | some v => .ok v
      | none => .error (.fieldNotFound name) := by
  rw [evalText, hname]
  rfl

theorem holds_echo (name : String) :
    (Rule.echo name).holds ⟨e, options, values, functions⟩ = .ok true := by
  have hparse : Expr.parse (Rule.echo name).condition = .ok (.literal (.boolean true)) :=
    Expr.parse_true
  rw [Rule.holds, hparse]
  simp [Except.mapError, Expr.resultType, Literal.resultType, Expr.eval, Literal.value, bind,
    Except.bind, pure, Except.pure]

theorem fire_echo (hname : IsFieldName name) (hfield : e.hasField name = true) :
    (Rule.echo name).fire ⟨e, options, values, functions⟩ =
      match values.get? name with
      | some v => .ok (.echo name v)
      | none => .error (.valueFailed (.fieldNotFound name)) := by
  have htarget : e.hasField (Rule.echo name).effect.target = true := hfield
  have hsource : (Rule.echo name).effect.source.eval ⟨values, functions⟩ =
      (evalText ⟨values, functions⟩ name).mapError .valueFailed := rfl
  have hflag : (Rule.echo name).effect.control.isFlag = false := rfl
  rw [evalText_of_isFieldName hname] at hsource
  simp only [Rule.fire, htarget, hsource, hflag]
  cases values.get? name <;> rfl

theorem verdict_echo (hname : IsFieldName name) (hfield : e.hasField name = true) :
    (Rule.echo name).verdict ⟨e, options, values, functions⟩ =
      match values.get? name with
      | some v => .fired (.echo name v)
      | none => .skipped (.valueFailed (.fieldNotFound name)) := by
  rw [Rule.verdict, holds_echo, fire_echo hname hfield]
  cases values.get? name <;> rfl

def Entity.echoing (e : Entity) (name : String) : Entity := e.withRules fun _ => [.echo name]

theorem Entity.activeRules_echoing (e : Entity) (name : String) :
    (e.echoing name).activeRules = List.replicate e.fields.length (.echo name) := by
  have hrules : (e.echoing name).rules = List.replicate e.fields.length (.echo name) := by
    rw [echoing, rules_withRules, List.eq_replicate_iff]
    simp [List.map_const']
  rw [activeRules, hrules, List.filter_replicate_of_pos rfl, List.eq_replicate_iff]
  exact ⟨by simp, fun r hr => List.eq_of_mem_replicate (List.mem_mergeSort.mp hr)⟩

/-- What the echoes of a field set it to is what rules see of it. -/
theorem value_fieldState_echoing (hname : IsFieldName name) (hfield : e.hasField name = true) :
    (((e.echoing name).controls options ⟨values, functions⟩).fieldState name).value =
      values.get? name := by
  have hfield' : (e.echoing name).hasField name = true := by
    rw [Entity.echoing, Entity.hasField_withRules, hfield]
  have hlength : e.fields.length ≠ 0 := by
    obtain ⟨f, hf, -⟩ := Entity.hasField_iff.mp hfield
    exact (List.length_pos_of_mem hf).ne'
  have heffect : (Rule.echo name).effectOn? ⟨e.echoing name, options, values, functions⟩
      (name, .valueSet) = (values.get? name).map (.echo name) := by
    rw [Rule.effectOn?, verdict_echo hname hfield']
    cases values.get? name with
    | none => rfl
    | some v => simp [Verdict.effect?, Effect.echo, Effect.slot]
  simp only [Controls.fieldState, Entity.winner?_controls, Entity.activeRules_echoing,
    List.filterMap_replicate, heffect]
  cases values.get? name with
  | none => rfl
  | some v => simp [Effect.echo, List.getLast?_replicate, hlength]

end FormLogic
