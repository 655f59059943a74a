import QueryTemplate.Proofs.PartsRun

/-!
# Single placeholders

A template that is a placeholder alone has the text of its value, or the refusal of the value as
its error. So the rules of the placeholders are rules about templates.
-/

namespace QueryTemplate.Placeholder

/-- A template that is a placeholder alone. -/
lemma consistsOf_text (p : Placeholder) :
    Template.ConsistsOf p.text [.item (.placeholder p)] := by
  cases p with
  | generic => exact .next (.bare trivial) .done
  | _ => exact .next (.typed rfl) .done

lemma render_text (e : Escaper) (p : Placeholder) (v skip : Value) :
    Template.render e p.text [v] skip =
      (p.write e v).mapError fun r => .argument (.refused r) := by
  have herror : Template.firstError? [v] 0 [.placeholder p] =
      (p.render v).refusal?.map .refused := by
    rw [Template.firstError?_cons]
    exact Option.or_none
  have hitems : [Template.Part.item (.placeholder p)].flatMap Template.Part.items =
      [.placeholder p] := rfl
  have htext : Template.composed e ⟨[v], skip⟩ 0 [.item (.placeholder p)] = p.written e v := by
    have hkept : (Template.Part.item (.placeholder p)).isKept ⟨[v], skip⟩ 0 = true := rfl
    rw [Template.composed, Template.keptItems_cons, if_pos hkept]
    apply String.ext
    simp [Template.joined, Template.keptItems, Template.keptParts, Template.numbered,
      Template.Part.items, Template.Item.written]
  rw [Template.render_of_consistsOf e [v] skip (consistsOf_text p), hitems, herror, htext, write,
    Rendering.write]
  cases hr : (p.render v).refusal? with
  | none => exact congrArg Except.ok (writeAll_pieces_render e hr).symm
  | some r => rfl

/-- A placeholder writes exactly the values that it admits, and their text is determined. It
refuses the others with its own form and the kind of the value, if the shape is not taken, or of
the first part that is not written; a string refused as a number counts as this number. A template
that is a placeholder alone gives the same outcome. -/
theorem write_iff (e : Escaper) (p : Placeholder) (v : Value) :
    (∀ text, p.write e v = .ok text ↔ p.Admits v ∧ text = p.written e v) ∧
      (∀ r, p.write e v = .error r ↔ p.Blames v r) ∧
      ∀ skip, Template.render e p.text [v] skip =
        (p.write e v).mapError fun r => .argument (.refused r) := by
  refine ⟨?_, ?_, ?_⟩
  · intro text
    constructor
    · intro h
      rcases admits_or_exists_blames p v with ha | ⟨r, hb⟩
      · rw [write_of_admits ha, Except.ok.injEq] at h
        exact ⟨ha, h.symm⟩
      · rw [write_of_blames hb] at h
        cases h
    · rintro ⟨ha, rfl⟩
      exact write_of_admits ha
  · intro r
    constructor
    · intro h
      rcases admits_or_exists_blames p v with ha | ⟨r', hb⟩
      · rw [write_of_admits ha] at h
        cases h
      · rw [write_of_blames hb, Except.error.injEq] at h
        exact h ▸ hb
    · exact write_of_blames
  · intro skip
    exact render_text e p v skip

-- The number that the string is read as has no literal form, so it is blamed and not the string.
example : float.write .mysql (.string "1e400 km") =
    .error ⟨.float, .float, .noLiteral (.infinity false)⟩ := by decide +kernel

end QueryTemplate.Placeholder
