import QueryTemplate.Proofs.TextScan

/-!
# Parameters of a run

A run that ends in a statement binds one parameter for each live question mark, in blocks that
stay and in blocks that are left out. What a run does depends on the parameters that it binds
only, unless it fails because there is no parameter left.
-/

namespace QueryTemplate.Template

/-- Two bindings with the same skip value and the same first `n` parameters. -/
structure Binding.AgreesBelow (n : Nat) (b b' : Binding) : Prop where
  skip : b'.skip = b.skip
  params : ∀ i < n, b'.params[i]? = b.params[i]?

lemma Binding.AgreesBelow.mono {m n : Nat} {b b' : Binding} (h : b.AgreesBelow n b')
    (hm : m ≤ n) : b.AgreesBelow m b' :=
  ⟨h.skip, fun i hi => h.params i (Nat.lt_of_lt_of_le hi hm)⟩

/-- An event with another block in place of the one that it is about. -/
def Event.onDrop (f : Drop → Drop) : Event → Event
  | .blockDropped d => .blockDropped (f d)
  | event => event

lemma Event.drop?_onDrop (f : Drop → Drop) (event : Event) :
    (event.onDrop f).drop? = event.drop?.map f := by
  cases event <;> rfl

lemma Event.onDrop_eq_self {f : Drop → Drop} {event : Event}
    (h : ∀ d, event.drop? = some d → f d = d) : event.onDrop f = event := by
  cases event with
  | blockDropped d => exact congrArg blockDropped (h d rfl)
  | _ => rfl

lemma filterMap_drop?_onDrop (f : Drop → Drop) (events : List Event) :
    (events.map (Event.onDrop f)).filterMap Event.drop? = (events.filterMap Event.drop?).map f := by
  rw [List.filterMap_map, List.map_filterMap]
  exact List.filterMap_congr fun event _ => event.drop?_onDrop f

namespace Scan

/-- A scan has failed because a parameter is missing. -/
def IsShort (s : Scan Piece) : Prop :=
  ∃ index supplied, s.mode = .failed (.argument (.missing index supplied))

/-- A scan stands where another stands, with as many parameters bound and the same calls made. -/
structure HasAccountOf (t s : Scan Piece) : Prop where
  offset : t.offset = s.offset
  bound : t.bound = s.bound
  calls : t.calls = s.calls

/-- The bound parameters are supplied ones, and a missing one is the first that is not. -/
structure IsCounted (b : Binding) (s : Scan Piece) : Prop where
  bound_le : s.bound ≤ b.params.length
  missing : ∀ index supplied, s.mode = .failed (.argument (.missing index supplied)) →
    index = b.params.length ∧ supplied = b.params.length

variable {b b' : Binding} {s : Scan Piece} {c : Char} {p : Placeholder}

/-! ### Plain text -/

lemma plain_account (b : Binding) (s : Scan Piece) (c : Char) : (s.plain b c).HasAccountOf s := by
  unfold plain
  split
  · exact ⟨rfl, rfl, rfl⟩
  · constructor <;> simp
  · cases h : s.block <;> constructor <;> simp [openBlock, h, fail]
  · cases h : s.block with
    | none => constructor <;> simp [closeBlock, h, fail]
    | some blk =>
      simp only [closeBlock, h]
      split
      · exact ⟨rfl, rfl, rfl⟩
      · exact ⟨rfl, rfl, rfl⟩
  · constructor <;> simp

/-- Plain text does not ask for parameters. -/
lemma mode_plain_ne_argument (h : s.mode = .plain) (error : ArgumentError) :
    (s.plain b c).mode ≠ .failed (.argument error) := by
  unfold plain
  split
  · simp
  · simp
  · cases hb : s.block <;> simp [openBlock, hb, fail, h]
  · cases hb : s.block with
    | none => simp [closeBlock, hb, fail]
    | some blk =>
      simp only [closeBlock, hb]
      split <;> simp [h]
  · simp [h]

lemma plain_congr (h : b'.skip = b.skip) : s.plain b' c = s.plain b c := by
  unfold plain
  rw [h]

lemma closeBlock_of_isKept {blk : Block Piece} {skip : Value} (hs : s.block = some blk)
    (hk : blk.isKept skip = true) :
    s.closeBlock skip = { s with block := none, pieces := s.pieces ++ blk.pieces } := by
  simp only [closeBlock, hs, if_pos hk]

lemma closeBlock_of_not_isKept {blk : Block Piece} {skip : Value} (hs : s.block = some blk)
    (hk : ¬blk.isKept skip = true) :
    s.closeBlock skip =
      { s with
        block := none
        dropped := s.dropped + 1
        events := s.events.push (.blockDropped ⟨blk.start, s.offset⟩) } := by
  simp only [closeBlock, hs, if_neg hk]

/-! ### One step -/

lemma inLiteral_account (s : Scan Piece) (c : Char) : (s.inLiteral c).HasAccountOf s := by
  unfold inLiteral
  split
  · constructor <;> simp
  · constructor <;> simp

lemma mode_inLiteral_ne_failed {start : Nat} (h : s.mode = .literal start) (e : TemplateError) :
    (s.inLiteral c).mode ≠ .failed e := by
  unfold inLiteral
  split <;> simp [h]

/-- A placeholder takes the next parameter, or none is left. -/
lemma resolve_cases (b : Binding) (p : Placeholder) (h : s.mode = .plain) :
    b.params[s.bound]? = none ∧ (s.resolve b p).bound = s.bound ∧
        (s.resolve b p).mode = .failed (.argument (.missing s.bound b.params.length)) ∨
      s.bound < b.params.length ∧ (s.resolve b p).bound = s.bound + 1 ∧
        ¬(s.resolve b p).IsShort := by
  cases hv : b.params[s.bound]? with
  | none =>
    rw [resolve_of_missing hv]
    exact .inl ⟨rfl, rfl, rfl⟩
  | some v =>
    rw [resolve_of_param hv]
    refine .inr ⟨(List.getElem?_eq_some_iff.1 hv).1, by simp [withMode, bindNext], ?_⟩
    cases (p.render v).refusal? <;> simp [IsShort, withMode, h]

/-- Behind a question mark, a character resolves the placeholder that it completes, and is read as
plain text when it is no suffix. -/
lemma step_of_question_cases (b : Binding) (hm : s.mode = .question) (hc : c ≠ '?') :
    s.step b c = ((s.withMode .plain).resolve b (completedBy c)).advance c ∨
      ((s.withMode .plain).resolve b (completedBy c)).mode = .plain ∧
        s.step b c = (((s.withMode .plain).resolve b (completedBy c)).plain b c).advance c := by
  rw [step_of_question hm hc]
  rcases isSettled_resolve (b := b) (s := s.withMode .plain) rfl (completedBy c) with h | ⟨e, h⟩
  · rw [h]
    cases Placeholder.ofSuffix? c with
    | some p => exact .inl rfl
    | none => exact .inr ⟨rfl, rfl⟩
  · rw [h]
    exact .inl rfl

/-- A step behind a question mark binds as much as the placeholder does, and fails for want of a
parameter when the placeholder does. -/
lemma step_of_question_bound (b : Binding) (hm : s.mode = .question) (hc : c ≠ '?') :
    (s.step b c).bound = ((s.withMode .plain).resolve b (completedBy c)).bound ∧
      ∀ index supplied, (s.step b c).mode = .failed (.argument (.missing index supplied)) ↔
        ((s.withMode .plain).resolve b (completedBy c)).mode =
          .failed (.argument (.missing index supplied)) := by
  rcases step_of_question_cases b hm hc with h | ⟨hr, h⟩
  · rw [h]
    exact ⟨rfl, fun _ _ => Iff.rfl⟩
  · rw [h]
    refine ⟨(plain_account b _ c).bound, fun index supplied => ?_⟩
    have hne := mode_plain_ne_argument (b := b) (c := c) hr (.missing index supplied)
    simp [hr, advance, hne]

/-! ### Counting -/

lemma IsCounted.resolve (h : s.IsCounted b) (hm : s.mode = .plain) (p : Placeholder) :
    (s.resolve b p).IsCounted b := by
  rcases resolve_cases b p hm with ⟨hv, hn, hmode⟩ | ⟨hlt, hn, hs⟩
  · have hlength : s.bound = b.params.length :=
      Nat.le_antisymm h.bound_le (List.getElem?_eq_none_iff.1 hv)
    refine ⟨hn ▸ h.bound_le, fun index supplied he => ?_⟩
    rw [hmode] at he
    cases he
    exact ⟨hlength, rfl⟩
  · exact ⟨hn ▸ hlt, fun index supplied he => absurd ⟨index, supplied, he⟩ hs⟩

lemma IsCounted.step (h : s.IsCounted b) (c : Char) : (s.step b c).IsCounted b := by
  cases hm : s.mode with
  | failed e => rwa [step_of_failed hm]
  | plain =>
    rw [step_of_plain hm]
    exact ⟨Nat.le_trans (Nat.le_of_eq (plain_account b s c).bound) h.bound_le,
      fun _ _ he => absurd he (mode_plain_ne_argument hm _)⟩
  | literal start =>
    rw [step_of_literal hm]
    exact ⟨Nat.le_trans (Nat.le_of_eq (inLiteral_account s c).bound) h.bound_le,
      fun _ _ he => absurd he (mode_inLiteral_ne_failed hm _)⟩
  | question =>
    by_cases hc : c = '?'
    · subst hc
      rw [step_doublePlaceholder hm]
      exact ⟨h.bound_le, fun _ _ he => by simp [advance, fail] at he⟩
    · have hplain : (s.withMode .plain).IsCounted b :=
        ⟨h.bound_le, fun _ _ he => by simp [withMode] at he⟩
      have hr := hplain.resolve rfl (completedBy c)
      obtain ⟨hn, hmode⟩ := step_of_question_bound b hm hc
      exact ⟨hn ▸ hr.bound_le, fun index supplied he =>
        hr.missing index supplied ((hmode index supplied).1 he)⟩

lemma IsCounted.read (h : s.IsCounted b) (cs : List Char) : (s.read b cs).IsCounted b := by
  induction cs generalizing s with
  | nil => exact h
  | cons c cs ih => exact ih (h.step c)

lemma isCounted_initial (b : Binding) : initial.IsCounted b :=
  ⟨Nat.zero_le _, fun _ _ he => by simp [initial] at he⟩

/-- At the end of a text a placeholder is resolved only behind a last question mark outside
blocks. -/
lemma finish_of_not_question (b : Binding) (h : ¬(s.mode = .question ∧ s.block = none)) :
    (∀ b', s.finish b' = s.finish b) ∧ (s.finish b).bound = s.bound ∧
      ∀ error, (s.finish b).mode = .failed (.argument error) →
        s.mode = .failed (.argument error) := by
  cases hm : s.mode <;> cases hb : s.block <;> simp_all [finish, fail]

lemma IsCounted.finish (h : s.IsCounted b) : (s.finish b).IsCounted b := by
  by_cases hq : s.mode = .question ∧ s.block = none
  · have hplain : (s.withMode .plain).IsCounted b :=
      ⟨h.bound_le, fun _ _ he => by simp [withMode] at he⟩
    rw [finish_of_question hq.1 hq.2]
    exact hplain.resolve rfl .generic
  · obtain ⟨-, hn, hmode⟩ := finish_of_not_question b hq
    exact ⟨hn ▸ h.bound_le, fun index supplied he => h.missing index supplied (hmode _ he)⟩

/-! ### Bindings that agree -/

lemma bound_le_resolve (b : Binding) (p : Placeholder) (h : s.mode = .plain) :
    s.bound ≤ (s.resolve b p).bound := by
  rcases resolve_cases b p h with ⟨-, hn, -⟩ | ⟨-, hn, -⟩
  · exact Nat.le_of_eq hn.symm
  · exact hn ▸ Nat.le_succ _

lemma bound_le_step (b : Binding) (s : Scan Piece) (c : Char) : s.bound ≤ (s.step b c).bound := by
  cases hm : s.mode with
  | failed e => rw [step_of_failed hm]
  | plain =>
    rw [step_of_plain hm]
    exact Nat.le_of_eq (plain_account b s c).bound.symm
  | literal start =>
    rw [step_of_literal hm]
    exact Nat.le_of_eq (inLiteral_account s c).bound.symm
  | question =>
    by_cases hc : c = '?'
    · subst hc
      rw [step_doublePlaceholder hm]
      exact Nat.le_refl _
    · rw [(step_of_question_bound b hm hc).1]
      exact bound_le_resolve (s := s.withMode .plain) b (completedBy c) rfl

lemma bound_le_read (b : Binding) (s : Scan Piece) (cs : List Char) : s.bound ≤ (s.read b cs).bound := by
  induction cs generalizing s with
  | nil => exact Nat.le_refl _
  | cons c cs ih => exact Nat.le_trans (bound_le_step b s c) (ih (s.step b c))

lemma bound_le_finish (b : Binding) (s : Scan Piece) : s.bound ≤ (s.finish b).bound := by
  by_cases hq : s.mode = .question ∧ s.block = none
  · rw [finish_of_question hq.1 hq.2]
    exact bound_le_resolve (s := s.withMode .plain) b .generic rfl
  · exact Nat.le_of_eq (finish_of_not_question b hq).2.1.symm

/-- A placeholder that finds its parameter does the same under a binding that agrees so far. -/
lemma resolve_congr (h : s.mode = .plain) (hb : b.AgreesBelow (s.resolve b p).bound b')
    (hs : ¬(s.resolve b p).IsShort) : s.resolve b' p = s.resolve b p := by
  rcases resolve_cases b p h with ⟨-, -, hmode⟩ | ⟨hlt, hn, -⟩
  · exact absurd ⟨_, _, hmode⟩ hs
  · have hv : b.params[s.bound]? = some b.params[s.bound] := List.getElem?_eq_getElem hlt
    have hparam : b'.params[s.bound]? = b.params[s.bound]? :=
      hb.params s.bound (hn ▸ Nat.lt_succ_self _)
    rw [resolve_of_param hv, resolve_of_param (hparam.trans hv)]

lemma step_congr (hb : b.AgreesBelow (s.step b c).bound b') (hs : ¬(s.step b c).IsShort) :
    s.step b' c = s.step b c := by
  cases hm : s.mode with
  | failed e => rw [step_of_failed hm, step_of_failed hm]
  | plain => rw [step_of_plain hm, step_of_plain hm, plain_congr hb.skip]
  | literal start => rw [step_of_literal hm, step_of_literal hm]
  | question =>
    by_cases hc : c = '?'
    · subst hc
      rw [step_doublePlaceholder hm, step_doublePlaceholder hm]
    · obtain ⟨hn, hmode⟩ := step_of_question_bound b hm hc
      have hresolve : (s.withMode .plain).resolve b' (completedBy c) =
          (s.withMode .plain).resolve b (completedBy c) := by
        refine resolve_congr rfl (hn ▸ hb) ?_
        rintro ⟨index, supplied, he⟩
        exact hs ⟨index, supplied, (hmode index supplied).2 he⟩
      rw [step_of_question hm hc, step_of_question hm hc, hresolve, plain_congr hb.skip]

lemma IsShort.read (h : s.IsShort) (b : Binding) (cs : List Char) : (s.read b cs).IsShort := by
  obtain ⟨index, supplied, hm⟩ := h
  rw [read_of_failed b s cs hm]
  exact ⟨index, supplied, hm⟩

lemma read_congr {cs : List Char} (hb : b.AgreesBelow (s.read b cs).bound b')
    (hs : ¬(s.read b cs).IsShort) : s.read b' cs = s.read b cs := by
  induction cs generalizing s with
  | nil => rfl
  | cons c cs ih =>
    have hstep : s.step b' c = s.step b c :=
      step_congr (hb.mono (bound_le_read b (s.step b c) cs)) fun h => hs (h.read b cs)
    rw [read_cons, read_cons, hstep]
    exact ih hb hs

lemma finish_congr (hb : b.AgreesBelow (s.finish b).bound b') (hs : ¬(s.finish b).IsShort) :
    s.finish b' = s.finish b := by
  by_cases hq : s.mode = .question ∧ s.block = none
  · rw [finish_of_question hq.1 hq.2] at hb hs
    rw [finish_of_question hq.1 hq.2, finish_of_question hq.1 hq.2]
    exact resolve_congr rfl hb hs
  · exact (finish_of_not_question b hq).1 b'

end Scan

/-! ### Runs -/

variable {b b' : Binding} {template : String}

lemma consumed_run_le (b : Binding) (template : String) :
    (run b template).consumed ≤ b.params.length :=
  ((Scan.isCounted_initial b).read template.toList).finish.bound_le

/-- A missing parameter is the first that is not supplied. -/
theorem missing_of_statement_run {index supplied : Nat}
    (h : (run b template).statement = .error (.argument (.missing index supplied))) :
    index = b.params.length ∧ supplied = b.params.length :=
  ((Scan.isCounted_initial b).read template.toList).finish.missing index supplied
    (statement_run_eq_error_iff.1 h)

/-- A run that does not fail for want of a parameter is the same under every binding that agrees
on the parameters bound in it. -/
theorem run_congr (hb : b.AgreesBelow (run b template).consumed b')
    (hs : ∀ index supplied,
      (run b template).statement ≠ .error (.argument (.missing index supplied))) :
    run b' template = run b template := by
  have hfinish : ¬((Scan.initial.read b template.toList).finish b).IsShort := by
    rintro ⟨index, supplied, hm⟩
    exact hs index supplied (statement_run_eq_error_iff.2 hm)
  have hread : ¬(Scan.initial.read b template.toList).IsShort := by
    rintro ⟨index, supplied, hm⟩
    exact hfinish ⟨index, supplied, by simp [Scan.finish, hm]⟩
  have hsame : Scan.initial.read b' template.toList = Scan.initial.read b template.toList :=
    Scan.read_congr (hb.mono (Scan.bound_le_finish b _)) hread
  rw [run, run, runOn, runOn, hsame, Scan.finish_congr hb hfinish]

lemma consumed_of_statement_eq_ok {ps : List Piece} (h : (run b template).statement = .ok ps) :
    (run b template).consumed = (live template.toList).count '?' :=
  (isReady_of_statement_eq_ok h).1.bound

lemma agreesBelow_append {n : Nat} {params : List Value} (hn : n ≤ params.length)
    (more : List Value) (skip : Value) :
    Binding.AgreesBelow n ⟨params, skip⟩ ⟨params ++ more, skip⟩ :=
  ⟨rfl, fun _ hi => List.getElem?_append_left (Nat.lt_of_lt_of_le hi hn)⟩

lemma agreesBelow_take (n : Nat) (params : List Value) (skip : Value) :
    Binding.AgreesBelow n ⟨params, skip⟩ ⟨params.take n, skip⟩ :=
  ⟨rfl, fun _ hi => List.getElem?_take_of_lt hi⟩

lemma Binding.AgreesBelow.symm {n : Nat} (h : b.AgreesBelow n b') : b'.AgreesBelow n b :=
  ⟨h.skip.symm, fun i hi => (h.params i hi).symm⟩

lemma Binding.AgreesBelow.trans {n : Nat} {b'' : Binding} (h : b.AgreesBelow n b')
    (h' : b'.AgreesBelow n b'') : b.AgreesBelow n b'' :=
  ⟨h'.skip.trans h.skip, fun i hi => (h'.params i hi).trans (h.params i hi)⟩

/-- With fewer parameters than it binds, a run fails at the first that is missing. -/
lemma statement_run_take {params : List Value} {skip : Value} {m : Nat}
    (hm : m < (run ⟨params, skip⟩ template).consumed) :
    (run ⟨params.take m, skip⟩ template).statement = .error (.argument (.missing m m)) := by
  have hlength : (params.take m).length = m :=
    List.length_take_of_le (Nat.le_of_lt (Nat.lt_of_lt_of_le hm (consumed_run_le _ template)))
  -- Any other outcome would be that of the run with all parameters, which binds more than `m`.
  by_cases hs : ∃ index supplied,
      (run ⟨params.take m, skip⟩ template).statement = .error (.argument (.missing index supplied))
  · obtain ⟨index, supplied, hmissing⟩ := hs
    obtain ⟨rfl, rfl⟩ := missing_of_statement_run hmissing
    rw [hlength] at hmissing
    exact hmissing
  · have hle : (run ⟨params.take m, skip⟩ template).consumed ≤ m :=
      Nat.le_trans (consumed_run_le _ template) (Nat.le_of_eq hlength)
    have hrun : run ⟨params, skip⟩ template = run ⟨params.take m, skip⟩ template :=
      run_congr ((agreesBelow_take m params skip).symm.mono hle)
        fun index supplied h => hs ⟨index, supplied, h⟩
    rw [hrun] at hm
    exact absurd hm (Nat.not_lt.2 hle)

/-- Parameters are bound to live question marks, one to each. A rendered statement needs as many
parameters as it binds and ignores the others; a missing parameter is the first that is not
supplied; and any other failure stays the same with more parameters. -/
theorem render_parameters (e : Escaper) (template : String) (params : List Value) (skip : Value) :
    (∀ sql, render e template params skip = .ok sql →
      (run ⟨params, skip⟩ template).consumed = (live template.toList).count '?' ∧
        (∀ more, render e template
          (params.take (run ⟨params, skip⟩ template).consumed ++ more) skip = .ok sql) ∧
        ∀ m < (run ⟨params, skip⟩ template).consumed,
          render e template (params.take m) skip = .error (.argument (.missing m m))) ∧
      (∀ index supplied,
        render e template params skip = .error (.argument (.missing index supplied)) →
          index = params.length ∧ supplied = params.length) ∧
      ∀ error, render e template params skip = .error error →
        (∀ index supplied, error ≠ .argument (.missing index supplied)) →
        ∀ more, render e template (params ++ more) skip = .error error := by
  refine ⟨fun sql hsql => ?_, fun index supplied h => ?_, fun error h hne more => ?_⟩
  · obtain ⟨ps, hs, rfl⟩ := exists_statement_of_render_eq_ok hsql
    have hn : (run ⟨params, skip⟩ template).consumed ≤ params.length := consumed_run_le _ template
    refine ⟨consumed_of_statement_eq_ok hs, fun more => ?_, fun m hm => ?_⟩
    · have hlength := List.length_take_of_le hn
      have hagree := (agreesBelow_take _ params skip).trans
        (agreesBelow_append (Nat.le_of_eq hlength.symm) more skip)
      have hrun := run_congr hagree fun index supplied h => by rw [hs] at h; cases h
      rw [render_eq, hrun, hs]
      rfl
    · exact render_eq_error_iff.2 (statement_run_take hm)
  · exact missing_of_statement_run (render_eq_error_iff.1 h)
  · have hs := render_eq_error_iff.1 h
    have hrun := run_congr (agreesBelow_append (consumed_run_le _ template) more skip)
      fun index supplied h => hne index supplied (Except.error.inj (hs.symm.trans h))
    exact render_eq_error_iff.2 (hrun ▸ hs)

/-- The parameters of a block that is left out count, and a question mark in a literal does not. -/
theorem render_parametersOfSkippedBlock :
    render .mysql "a\x7b?d?\x7d?'?'" [.null, .string "x", .int 2, .bool true] .null =
        .ok "a2'?'" ∧
      (run ⟨[.null, .string "x", .int 2, .bool true], .null⟩ "a\x7b?d?\x7d?'?'").consumed = 3 ∧
      (∀ more, render .mysql "a\x7b?d?\x7d?'?'" ([.null, .string "x", .int 2] ++ more) .null =
        .ok "a2'?'") ∧
      render .mysql "a\x7b?d?\x7d?'?'" [.null, .string "x"] .null =
        .error (.argument (.missing 2 2)) := by
  have hsql : render .mysql "a\x7b?d?\x7d?'?'" [.null, .string "x", .int 2, .bool true] .null =
      .ok "a2'?'" := by decide +kernel
  obtain ⟨hn, hmore, hless⟩ := (render_parameters _ _ _ _).1 _ hsql
  have hcount : (live "a\x7b?d?\x7d?'?'".toList).count '?' = 3 := by decide +kernel
  rw [hcount] at hn
  rw [hn] at hmore hless
  exact ⟨hsql, hn, hmore, hless 2 (by decide)⟩

end QueryTemplate.Template
