import QueryTemplate.Proofs.PartsRun
import QueryTemplate.Proofs.WellFormed

/-!
# Accepted templates

The templates that are rendered with some parameters are the well-formed ones, and a well-formed
template is never reported as malformed.
-/

namespace QueryTemplate

def Placeholder.sample : Placeholder → Value
  | array => .list []
  | identifier => .string ""
  | _ => .null

lemma Placeholder.accepts_sample (p : Placeholder) : p.Accepts p.sample := by
  cases p <;> rfl

namespace Template

variable {template : String} {parts : List Part}

lemma acceptsAll_samples (parts : List Part) :
    AcceptsAll parts ((placeholders parts).map Placeholder.sample) := by
  intro i p hp
  exact ⟨p.sample, by simp [hp], p.accepts_sample⟩

lemma render_ne_malformed (h : ConsistsOf template parts) (e : Escaper) (params : List Value)
    (skip : Value) (defect : Defect) (offset : Nat) :
    render e template params skip ≠ .error (.malformed defect offset) := by
  rw [render_of_consistsOf e params skip h]
  cases firstError? params 0 (parts.flatMap Part.items) <;> simp

/-- A well-formed template is rendered with some parameters, whatever the escaper and the skip
value, and no run reports it as malformed. A template that is not well-formed is never rendered. -/
theorem rendered_iff_wellFormed (template : String) :
    (WellFormed template.toList →
      (∃ params, ∀ e skip, ∃ sql, render e template params skip = .ok sql) ∧
        ∀ e params skip defect offset,
          render e template params skip ≠ .error (.malformed defect offset)) ∧
      (¬WellFormed template.toList →
        ∀ e params skip sql, render e template params skip ≠ .ok sql) := by
  constructor
  · intro hw
    obtain ⟨parts, h⟩ := (wellFormed_iff_exists_parts template).1 hw
    have hrendered : ∀ e skip, ∃ sql,
        render e template ((placeholders parts).map Placeholder.sample) skip = .ok sql :=
      fun e skip => ⟨_, (render_eq_ok_iff_acceptsAll h).2 ⟨acceptsAll_samples parts, rfl⟩⟩
    exact ⟨⟨_, hrendered⟩, render_ne_malformed h⟩
  · intro hw e params skip sql h
    exact hw ((wellFormed_iff_exists_parts template).2 (exists_parts_of_render_eq_ok h))

/-- Question marks and braces count outside literals only. -/
theorem rendered_questionsInLiteral :
    (∃ params, ∀ e skip, ∃ sql, render e "'??\x7b'\x7b?\x7d?" params skip = .ok sql) ∧
      ∀ e params skip sql, render e "'??\x7b'??" params skip ≠ .ok sql := by
  constructor
  · refine ((rendered_iff_wellFormed _).1 ?_).1
    rw [wellFormed_iff_exists_parts]
    exact ⟨[.item (.literal ['?', '?', '\x7b']), .block [.placeholder .generic],
        .item (.placeholder .generic)],
      .next (@Front.literal ['?', '?', '\x7b'] _ (by decide)) (.next .opening
        (.next (.bare (by decide)) (.next .closing (.next (.bare (by decide)) .done))))⟩
  · refine (rendered_iff_wellFormed _).2 fun hw => ?_
    exact hw.questions ['\'', '?', '?', '\x7b', '\''] [] rfl ⟨by decide, by decide⟩

end Template

end QueryTemplate
