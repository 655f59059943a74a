import QueryTemplate.Proofs.PartsRun

/-!
# The skip value in blocks

A block in which the skip value is bound leaves no text. Its placeholders are resolved all the
same before it is left out, so a run with skip values succeeds exactly when each placeholder that
is bound to one also accepts it. The null value, for one, is not accepted as a list of items or as
a name.
-/

namespace QueryTemplate.Template

/-- The placeholder with number `i` stands in a block. -/
def InBlock (parts : List Part) (i : Nat) : Prop :=
  ∃ before items after, parts = before ++ .block items :: after ∧ arity before ≤ i ∧
    i < arity before + (Part.block items).arity

/-- Each placeholder has a parameter that it accepts or, in a block, one that equals the skip
value. -/
def BoundOrSkipped (b : Binding) (parts : List Part) : Prop :=
  ∀ (i : Nat) (p : Placeholder), (placeholders parts)[i]? = some p →
    ∃ v, b.params[i]? = some v ∧ (p.Accepts v ∨ InBlock parts i ∧ v.same b.skip = true)

variable {template : String} {parts : List Part} {params : List Value} {skip : Value}

/-- With each placeholder bound to a value that it accepts or to the skip value, a run succeeds
exactly when the placeholders that are bound to the skip value accept it too. A block in which the
skip value is bound then leaves no text. Otherwise the run fails with the refusal of the first
placeholder that does not accept its value. -/
theorem render_boundOrSkipped (e : Escaper) (h : ConsistsOf template parts)
    (hbound : BoundOrSkipped ⟨params, skip⟩ parts) :
    ((∃ sql, render e template params skip = .ok sql) ↔
        ∀ (i : Nat) (p : Placeholder) (v : Value), (placeholders parts)[i]? = some p →
          params[i]? = some v → v.same skip = true → p.Accepts v) ∧
      (∀ sql, render e template params skip = .ok sql →
        ∀ before items after, parts = before ++ .block items :: after →
          (∃ v ∈ values params (arity before) items, v.same skip = true) →
          sql = composed e ⟨params, skip⟩ 0 before ++
            composed e ⟨params, skip⟩ (arity before + (Part.block items).arity) after) ∧
      ∀ (i : Nat) (p : Placeholder) (v : Value) (r : Refusal), (placeholders parts)[i]? = some p →
        params[i]? = some v → (p.render v).refusal? = some r →
        (∀ (j : Nat) (q : Placeholder), j < i → (placeholders parts)[j]? = some q →
          ∃ w, params[j]? = some w ∧ q.Accepts w) →
        render e template params skip = .error (.argument (.refused r)) := by
  refine ⟨⟨?_, ?_⟩, ?_, ?_⟩
  · rintro ⟨sql, hr⟩ i p v hp hv -
    obtain ⟨w, hw, haccept⟩ := ((render_eq_ok_iff_acceptsAll h).1 hr).1 i p hp
    rw [hv, Option.some.injEq] at hw
    exact hw ▸ haccept
  · intro haccept
    refine ⟨_, (render_eq_ok_iff_acceptsAll h).2 ⟨fun i p hp => ?_, rfl⟩⟩
    obtain ⟨v, hv, ha | ⟨-, hs⟩⟩ := hbound i p hp
    · exact ⟨v, hv, ha⟩
    · exact ⟨v, hv, haccept i p v hp hv hs⟩
  · rintro sql hr before items after rfl ⟨v, hv, hs⟩
    have hany : (values params (arity before) items).any (·.same skip) = true :=
      List.any_eq_true.2 ⟨v, hv, hs⟩
    rw [((render_eq_ok_iff_acceptsAll h).1 hr).2, composed_append, Nat.zero_add]
    exact congrArg _ (composed_block_of_skipped e hany after)
  · intro i p v r hp hv hr hbefore
    have hfirst : firstError? params 0 (parts.flatMap Part.items) = some (.refused r) :=
      firstError?_eq_refused hp (by rwa [Nat.zero_add]) hr
        fun j q hj hq => by simpa only [Nat.zero_add] using hbefore j q hj hq
    rw [render_of_consistsOf e params skip h, hfirst]

/-- A block is left out although it holds another parameter, and its neighbours stay. -/
theorem render_skippedBlock :
    ConsistsOf "a\x7b?d?\x7db" [.item (.plain 'a'),
        .block [.placeholder .int, .placeholder .generic], .item (.plain 'b')] ∧
      BoundOrSkipped ⟨[.null, .string "x"], .null⟩ [.item (.plain 'a'),
        .block [.placeholder .int, .placeholder .generic], .item (.plain 'b')] ∧
      render .mysql "a\x7b?d?\x7db" [.null, .string "x"] .null = .ok "ab" := by
  have h : ConsistsOf "a\x7b?d?\x7db" [.item (.plain 'a'),
      .block [.placeholder .int, .placeholder .generic], .item (.plain 'b')] :=
    .next (.plain (by decide)) (.next .opening (.next (.typed rfl) (.next (.bare (by decide))
      (.next .closing (.next (.plain (by decide)) .done)))))
  have hbound : BoundOrSkipped ⟨[.null, .string "x"], .null⟩ [.item (.plain 'a'),
      .block [.placeholder .int, .placeholder .generic], .item (.plain 'b')] := by
    intro i p hp
    match i with
    | 0 => cases hp; exact ⟨_, rfl, .inl rfl⟩
    | 1 => cases hp; exact ⟨_, rfl, .inl rfl⟩
    | i + 2 => cases hp
  refine ⟨h, hbound, ?_⟩
  obtain ⟨hok, htext, -⟩ := render_boundOrSkipped .mysql h hbound
  obtain ⟨sql, hsql⟩ := hok.2 (by
    intro i p v hp hv hs
    match i with
    | 0 => cases hp; cases hv; rfl
    | 1 => cases hp; cases hv; rfl
    | i + 2 => cases hp)
  rw [hsql, htext sql hsql [.item (.plain 'a')] _ _ rfl ⟨.null, List.mem_cons_self, rfl⟩]
  rfl

/-- A block with a list of items is not left out by a null value: the run fails. -/
theorem render_nullForList :
    ¬∀ (e : Escaper) (template : String) (parts : List Part) (params : List Value) (skip : Value),
      skip.same skip = true → ConsistsOf template parts → BoundOrSkipped ⟨params, skip⟩ parts →
      ∃ sql, render e template params skip = .ok sql := by
  intro hall
  have h : ConsistsOf "x\x7b?a\x7d" [.item (.plain 'x'), .block [.placeholder .array]] :=
    .next (.plain (by decide)) (.next .opening (.next (.typed rfl) (.next .closing .done)))
  have hbound : BoundOrSkipped ⟨[.null], .null⟩
      [.item (.plain 'x'), .block [.placeholder .array]] := by
    intro i p hp
    match i with
    | 0 =>
      exact ⟨.null, rfl, .inr ⟨⟨[.item (.plain 'x')], [.placeholder .array], [], rfl, by decide,
        by decide⟩, rfl⟩⟩
    | i + 1 => cases hp
  obtain ⟨sql, hsql⟩ := hall .mysql _ _ [.null] .null rfl h hbound
  cases hsql

end QueryTemplate.Template
