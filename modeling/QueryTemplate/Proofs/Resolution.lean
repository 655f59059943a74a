import QueryTemplate.Proofs.Accounting
import QueryTemplate.Proofs.EscaperCalls

/-!
# Placeholders that are resolved

A run resolves the placeholders of its template in their order, as long as there are parameters
left and none has been refused, up to the first defect. The parameters that it binds and the calls
of the escaper that it makes are those of the resolved placeholders, in blocks that stay and in
blocks that are left out.
-/

namespace QueryTemplate.Template

/-- A run that is not stopped before comes to the placeholder whose question mark stands behind
`before`: it is complete and stands before the first defect, or it ends a well-formed template. -/
def Reaches (cs before : List Char) (p : Placeholder) : Prop :=
  Asks cs before p ∧
      (∀ defect offset, FirstDefect cs defect offset → AsksBefore cs defect offset before p) ∨
    WellFormed cs ∧ OpensPlaceholder before cs ∧ p = .generic

/-- There is a parameter for the placeholder whose question mark stands behind `before`, and the
placeholders before it accept theirs. -/
def IsDue (params : List Value) (before : List Char) : Prop :=
  number before < params.length ∧ ∀ outside q, Asks before outside q → IsServed params outside q

/-- The placeholder whose question mark stands behind `before` is resolved, be it that it accepts
its parameter or that it refuses it. -/
def IsResolved (params : List Value) (cs before : List Char) (p : Placeholder) : Prop :=
  Reaches cs before p ∧ IsDue params before

/-- A list holds placeholders of a text at their numbers. -/
def Lists (ps : List Placeholder) (P : List Char → Placeholder → Prop) : Prop :=
  ∀ i p, ps[i]? = some p ↔ ∃ before, number before = i ∧ P before p

variable {ps : List Placeholder} {P Q : List Char → Placeholder → Prop} {p : Placeholder}
  {params : List Value} {cs before start : List Char} {c : Char}

lemma Lists.congr (h : Lists ps P) (hq : ∀ before p, Q before p ↔ P before p) : Lists ps Q := by
  intro i p
  simp only [hq]
  exact h i p

lemma Lists.concat (h : Lists ps P) (hn : number start = ps.length)
    (hq : ∀ before q, Q before q ↔ P before q ∨ before = start ∧ q = p) :
    Lists (ps ++ [p]) Q := by
  intro i q
  have hsplit : (ps ++ [p])[i]? = some q ↔ ps[i]? = some q ∨ ps.length = i ∧ q = p := by
    rcases Nat.lt_trichotomy i ps.length with hi | rfl | hi
    · simp [List.getElem?_append_left hi, Nat.ne_of_gt hi]
    · simp [eq_comm]
    · have hlength : (ps ++ [p]).length ≤ i := by
        rw [List.length_append]
        exact hi
      simp [List.getElem?_eq_none hlength, Nat.ne_of_lt hi, Nat.le_of_lt hi]
  rw [hsplit, h i q]
  simp only [hq]
  constructor
  · rintro (⟨before, hi, hp⟩ | ⟨hi, rfl⟩)
    · exact ⟨before, hi, .inl hp⟩
    · exact ⟨start, hn.trans hi, .inr ⟨rfl, rfl⟩⟩
  · rintro ⟨before, hi, hp | ⟨rfl, rfl⟩⟩
    · exact .inl ⟨before, hi, hp⟩
    · exact .inr ⟨hn.symm.trans hi, rfl⟩

lemma zip_concat {v : Value} (h : params[ps.length]? = some v) (p : Placeholder) :
    (ps ++ [p]).zip params = ps.zip params ++ [(p, v)] := by
  induction ps generalizing params with
  | nil =>
    cases params with
    | nil => cases h
    | cons w params => cases h; simp
  | cons q ps ih =>
    cases params with
    | nil => simp at h
    | cons w params =>
      have hrest : params[ps.length]? = some v := by simpa using h
      rw [List.cons_append, List.zip_cons_cons, ih hrest, List.zip_cons_cons, List.cons_append]

/-- Behind a placeholder that does not accept its parameter, none is resolved. -/
lemma Raises.not_isDue {error : ArgumentError} (h : Raises params cs error)
    (ho : OpensPlaceholder before cs) : ¬IsDue params before := by
  rintro ⟨-, hs⟩
  obtain ⟨outside, q, ha, he, -⟩ := h
  rw [ho.1, asks_concat] at ha
  rcases ha with ha | ⟨-, hc, -⟩
  · exact (hs outside q ha).errorBehind?_ne error he
  · exact absurd rfl hc

/-- A viable text has its first defect at its end, if at all, so every placeholder is reached. -/
lemma reaches_of_viable (hv : Viable cs) (ha : Asks cs before p) : Reaches cs before p := by
  refine .inl ⟨ha, fun defect offset hd => ⟨ha, .inl ?_⟩⟩
  cases hd with
  | inside he _ hd => exact absurd hd (hv _ _ _ _ he)
  | unterminatedBlock => exact .inl rfl
  | unterminatedString => exact .inr rfl

/-! ### The account of a scan -/

namespace Scan

variable {b : Binding} {s t : Scan Piece}

lemma resolve_calls {v : Value} (h : b.params[s.bound]? = some v) (p : Placeholder) :
    (s.resolve b p).calls = s.calls ++ p.calls v := by
  rw [← p.calls_render v, Rendering.calls, resolve_of_param h]
  simp [withMode, bindNext]

/-- The parameters that a scan has bound and the calls that it has made are those of the given
placeholders. -/
structure HasResolved (b : Binding) (ps : List Placeholder) (s : Scan Piece) : Prop where
  bound : s.bound = ps.length
  calls : s.calls.toList = (ps.zip b.params).flatMap fun pv => pv.1.calls pv.2

lemma hasResolved_initial (b : Binding) : initial.HasResolved b [] := ⟨rfl, rfl⟩

lemma HasResolved.of_eq (h : s.HasResolved b ps) (hbound : t.bound = s.bound)
    (hcalls : t.calls = s.calls) : t.HasResolved b ps :=
  ⟨hbound.trans h.bound, by rw [hcalls, h.calls]⟩

lemma HasResolved.resolve {v : Value} (h : s.HasResolved b ps) (hv : b.params[s.bound]? = some v)
    (hm : s.mode = .plain) (p : Placeholder) : (s.resolve b p).HasResolved b (ps ++ [p]) := by
  constructor
  · rcases resolve_cases b p hm with ⟨hnone, -⟩ | ⟨-, hn, -⟩
    · rw [hv] at hnone
      cases hnone
    · rw [hn, h.bound, List.length_append]
      rfl
  · rw [resolve_calls hv, Array.toList_appendList, h.calls, zip_concat (h.bound ▸ hv),
      List.flatMap_append, List.flatMap_singleton]

lemma step_of_question_calls (b : Binding) (hm : s.mode = .question) (hc : c ≠ '?') :
    (s.step b c).calls = ((s.withMode .plain).resolve b (completedBy c)).calls := by
  rcases step_of_question_cases b hm hc with h | ⟨-, h⟩
  · rw [h]
    rfl
  · rw [h, advance, (plain_account b _ c).calls]

/-- A character that completes no placeholder neither binds a parameter nor makes a call. -/
lemma step_account (b : Binding) (h : ¬(s.mode = .question ∧ c ≠ '?')) :
    (s.step b c).bound = s.bound ∧ (s.step b c).calls = s.calls := by
  cases hm : s.mode with
  | failed e =>
    rw [step_of_failed hm]
    exact ⟨rfl, rfl⟩
  | plain =>
    rw [step_of_plain hm]
    exact ⟨(plain_account b s c).bound, (plain_account b s c).calls⟩
  | literal start =>
    rw [step_of_literal hm]
    exact ⟨(inLiteral_account s c).bound, (inLiteral_account s c).calls⟩
  | question =>
    obtain rfl : c = '?' := by
      by_contra hc
      exact h ⟨hm, hc⟩
    rw [step_doublePlaceholder hm]
    exact ⟨rfl, rfl⟩

/-! ### Reading a text -/

/-- The placeholder in which a text ends joins those that are resolved before it, if it is due. -/
lemma IsBehind.exists_resolve (h : s.IsBehind cs)
    (hs : ∀ outside q, Asks cs outside q → IsServed b.params outside q)
    (ho : OpensPlaceholder start cs) (hr : s.HasResolved b ps)
    (hl : Lists ps fun before q => Asks cs before q ∧ IsDue b.params before) (p : Placeholder) :
    ∃ qs, ((s.withMode .plain).resolve b p).HasResolved b qs ∧
      Lists qs fun before q => Asks cs before q ∧ IsDue b.params before ∨
        (before = start ∧ q = p) ∧ IsDue b.params before := by
  obtain ⟨-, hn⟩ := h.mode_eq_question ho
  have hplain : (s.withMode .plain).HasResolved b ps := hr.of_eq rfl rfl
  cases hv : b.params[number start]? with
  | none =>
    have hmissing : b.params[(s.withMode .plain).bound]? = none := by rw [← hv, ← hn]; rfl
    have hdue : ¬IsDue b.params start := fun hdue =>
      Nat.not_lt.2 (List.getElem?_eq_none_iff.1 hv) hdue.1
    refine ⟨ps, ?_, hl.congr fun before q => or_iff_left ?_⟩
    · rw [resolve_of_missing hmissing]
      exact hplain.of_eq rfl rfl
    · rintro ⟨⟨rfl, -⟩, hb⟩
      exact hdue hb
  | some v =>
    have hparam : b.params[(s.withMode .plain).bound]? = some v := by rw [← hv, ← hn]; rfl
    have hdue : IsDue b.params start := by
      refine ⟨(List.getElem?_eq_some_iff.1 hv).1, fun outside q ha => hs outside q ?_⟩
      rw [ho.1]
      exact ha.append ['?']
    refine ⟨ps ++ [p], hplain.resolve hparam rfl p, hl.concat (hn.symm.trans hr.bound) ?_⟩
    intro before q
    refine or_congr_right (and_iff_left_of_imp ?_)
    rintro ⟨rfl, -⟩
    exact hdue

/-- A character adds the placeholder that it completes to those that are resolved before it. -/
lemma exists_resolved_concat (b : Binding) (hv : Viable cs)
    (h : ∃ ps, (initial.read b cs).HasResolved b ps ∧
      Lists ps fun before p => Asks cs before p ∧ IsDue b.params before) (c : Char) :
    ∃ ps, (initial.read b (cs ++ [c])).HasResolved b ps ∧
      Lists ps fun before p => Asks (cs ++ [c]) before p ∧ IsDue b.params before := by
  obtain ⟨ps, hr, hl⟩ := h
  -- When no placeholder becomes due, the state of the account stays.
  have hsame : ¬((initial.read b cs).mode = .question ∧ c ≠ '?') →
      (∀ before, OpensPlaceholder before cs → c ≠ '?' → ¬IsDue b.params before) →
      ∃ ps, (initial.read b (cs ++ [c])).HasResolved b ps ∧
        Lists ps fun before p => Asks (cs ++ [c]) before p ∧ IsDue b.params before := by
    intro hmode hdue
    obtain ⟨hbound, hcalls⟩ := step_account b hmode
    refine ⟨ps, ?_, hl.congr fun before p => and_congr_left fun hb => ?_⟩
    · rw [read_append]
      exact hr.of_eq hbound hcalls
    · rw [asks_concat, or_iff_left]
      rintro ⟨ho, hc, -⟩
      exact hdue before ho hc hb
  rcases read_of_viable b hv with ⟨error, hm, hraises⟩ | ⟨hbehind, hs⟩
  · exact hsame (by simp [hm]) fun before ho _ => hraises.not_isDue ho
  · rcases hbehind.mode_cases with ⟨hready, hn⟩ | ⟨start, ho, hm, -⟩ | ⟨outside, -, hlive, hm, -⟩
    · exact hsame (by simp [hready.mode]) fun before ho => absurd ho (hn before)
    · by_cases hc : c = '?'
      · exact hsame (fun h => h.2 hc) fun before _ h => absurd hc h
      · obtain ⟨qs, hq, hlists⟩ := hbehind.exists_resolve hs ho hr hl (completedBy c)
        refine ⟨qs, ?_, hlists.congr fun before p => ?_⟩
        · rw [read_append]
          exact hq.of_eq (step_of_question_bound b hm hc).1 (step_of_question_calls b hm hc)
        · rw [asks_concat, or_and_right]
          refine or_congr_right (and_congr_left fun _ => ?_)
          constructor
          · rintro ⟨ho', -, rfl⟩
            exact ⟨(List.append_singleton_inj.1 (ho'.1.symm.trans ho.1)).1, rfl⟩
          · rintro ⟨rfl, rfl⟩
            exact ⟨ho, hc, rfl⟩
    · exact hsame (by simp [hm]) fun before ho => absurd ho.isLive hlive

theorem exists_resolved_read (b : Binding) (hv : Viable cs) :
    ∃ ps, (initial.read b cs).HasResolved b ps ∧
      Lists ps fun before p => Asks cs before p ∧ IsDue b.params before := by
  induction cs using List.reverseRecOn with
  | nil =>
    refine ⟨[], hasResolved_initial b, fun i p => ?_⟩
    simp [not_asks_nil]
  | append_singleton cs c ih =>
    have hv' := (viable_concat.1 hv).1
    exact exists_resolved_concat b hv' (ih hv') c

/-! ### The end of a text -/

lemma reaches_iff_of_firstDefect {defect : Defect} {offset : Nat}
    (h : FirstDefect cs defect offset) :
    Reaches cs before p ↔ AsksBefore cs defect offset before p := by
  constructor
  · rintro (⟨-, hb⟩ | ⟨hw, -⟩)
    · exact hb defect offset h
    · exact absurd hw h.not_wellFormed
  · intro ha
    refine .inl ⟨ha.1, fun defect' offset' h' => ?_⟩
    obtain ⟨rfl, rfl⟩ := h.unique h'
    exact ha

lemma reaches_iff_of_wellFormed (h : WellFormed cs) :
    Reaches cs before p ↔ Asks cs before p ∨ OpensPlaceholder before cs ∧ p = .generic := by
  refine or_congr ?_ (and_iff_right h)
  exact and_iff_left fun defect offset hd => absurd h hd.not_wellFormed

/-- A viable text that ends in a placeholder outside blocks is well-formed. -/
lemma wellFormed_of_question (hv : Viable cs) (hm : (initial.read b cs).mode = .question)
    (hb : (initial.read b cs).block = none) : WellFormed cs := by
  rcases read_of_viable b hv with ⟨error, hfailed, -⟩ | ⟨hbehind, -⟩
  · rw [hm] at hfailed
    cases hfailed
  · have hmode := hbehind.mode
    rw [hm] at hmode
    obtain ⟨start, ho, -⟩ := hmode
    rw [wellFormed_iff_viable]
    refine ⟨hv, ?_, ho.isLive⟩
    intro hopen
    have hsome := hbehind.block.isSome_iff.2 hopen
    rw [isSome_blockStart?, hb] at hsome
    cases hsome

lemma finish_account (b : Binding) (h : ¬(s.mode = .question ∧ s.block = none)) :
    (s.finish b).bound = s.bound ∧ (s.finish b).calls = s.calls := by
  cases hm : s.mode <;> cases hb : s.block <;> simp_all [finish, fail]

/-- The end of a well-formed text resolves the placeholder in which it may end. -/
lemma exists_resolved_of_wellFormed (b : Binding) (hw : WellFormed cs) :
    ∃ ps, ((initial.read b cs).finish b).HasResolved b ps ∧
      Lists ps (IsResolved b.params cs) := by
  obtain ⟨hv, hn, hlive⟩ := (wellFormed_iff_viable cs).1 hw
  obtain ⟨ps, hr, hl⟩ := exists_resolved_read b hv
  have hsplit : ∀ before p, IsResolved b.params cs before p ↔
      Asks cs before p ∧ IsDue b.params before ∨
        (OpensPlaceholder before cs ∧ p = .generic) ∧ IsDue b.params before := by
    intro before p
    rw [IsResolved, reaches_iff_of_wellFormed hw, or_and_right]
  have hsame : (initial.read b cs).mode ≠ .question →
      (∀ before, OpensPlaceholder before cs → ¬IsDue b.params before) →
      ∃ ps, ((initial.read b cs).finish b).HasResolved b ps ∧
        Lists ps (IsResolved b.params cs) := by
    intro hmode hdue
    obtain ⟨hbound, hcalls⟩ := finish_account b fun h => hmode h.1
    refine ⟨ps, hr.of_eq hbound hcalls, hl.congr fun before p => ?_⟩
    rw [hsplit, or_iff_left]
    rintro ⟨⟨ho, -⟩, hb⟩
    exact hdue before ho hb
  rcases read_of_viable b hv with ⟨error, hm, hraises⟩ | ⟨hbehind, hs⟩
  · exact hsame (by simp [hm]) fun before ho => hraises.not_isDue ho
  · rcases hbehind.mode_cases with ⟨hready, ho⟩ | ⟨start, ho, hm, -⟩ | ⟨outside, -, hquote, -, -⟩
    · exact hsame (by simp [hready.mode]) fun before h => absurd h (ho before)
    · obtain ⟨qs, hq, hlists⟩ := hbehind.exists_resolve hs ho hr hl .generic
      refine ⟨qs, ?_, hlists.congr fun before p => ?_⟩
      · rw [finish_of_question hm (block_eq_none hbehind.block hn)]
        exact hq
      · rw [hsplit]
        refine or_congr_right (and_congr_left fun _ => and_congr_left fun _ => ?_)
        constructor
        · exact fun ho' => (List.append_singleton_inj.1 (ho'.1.symm.trans ho.1)).1
        · rintro rfl
          exact ho
    · exact absurd hlive hquote

/-- The end of a text with a first defect resolves no further placeholder. -/
lemma exists_resolved_of_firstDefect (b : Binding) {defect : Defect} {offset : Nat}
    (hd : FirstDefect cs defect offset) :
    ∃ ps, ((initial.read b cs).finish b).HasResolved b ps ∧
      Lists ps (IsResolved b.params cs) := by
  have hsplit : ∀ before p, IsResolved b.params cs before p ↔
      AsksBefore cs defect offset before p ∧ IsDue b.params before :=
    fun before p => and_congr_left fun _ => reaches_iff_of_firstDefect hd
  -- A defect that the end shows comes after every placeholder, and the end makes no call.
  have hend : Viable cs → defect.IsAtEnd →
      ∃ ps, ((initial.read b cs).finish b).HasResolved b ps ∧
        Lists ps (IsResolved b.params cs) := by
    intro hv hend
    have hq : ¬((initial.read b cs).mode = .question ∧ (initial.read b cs).block = none) := by
      rintro ⟨hm, hb⟩
      exact hd.not_wellFormed (wellFormed_of_question hv hm hb)
    obtain ⟨ps, hr, hl⟩ := exists_resolved_read b hv
    obtain ⟨hbound, hcalls⟩ := finish_account b hq
    refine ⟨ps, hr.of_eq hbound hcalls, hl.congr fun before p => ?_⟩
    rw [hsplit]
    exact and_congr_left fun _ => and_iff_left (.inl hend)
  cases hd with
  | @inside before c after _ he hv hd =>
    obtain ⟨ps, hr, hl⟩ := exists_resolved_concat b hv (exists_resolved_read b hv) c
    obtain ⟨error, hm⟩ := exists_failed_of_defectAt b hv hd
    have hread : initial.read b cs = initial.read b (before ++ [c]) := by
      rw [he, List.append_cons, read_append, read_of_failed b _ after hm]
    refine ⟨ps, ?_, hl.congr fun outside p => ?_⟩
    · rw [hread, finish, hm]
      exact hr
    · rw [hsplit, he]
      exact and_congr_left fun _ => (asks_concat_iff_asksBefore hd).symm
  | unterminatedBlock hv _ => exact hend hv (.inl rfl)
  | unterminatedString hv _ _ _ => exact hend hv (.inr rfl)

end Scan

/-- A run binds the parameters of the placeholders that it resolves, and it makes their calls. -/
theorem exists_resolved (b : Binding) (template : String) :
    ∃ ps, (run b template).consumed = ps.length ∧
      (run b template).calls = ((ps.zip b.params).flatMap fun pv => pv.1.calls pv.2) ∧
      Lists ps (IsResolved b.params template.toList) := by
  have hresolved : ∃ ps, ((Scan.initial.read b template.toList).finish b).HasResolved b ps ∧
      Lists ps (IsResolved b.params template.toList) := by
    by_cases hw : WellFormed template.toList
    · exact Scan.exists_resolved_of_wellFormed b hw
    · obtain ⟨defect, offset, hd⟩ := exists_firstDefect hw
      exact Scan.exists_resolved_of_firstDefect b hd
  obtain ⟨ps, hr, hl⟩ := hresolved
  exact ⟨ps, hr.bound, hr.calls, hl⟩

end QueryTemplate.Template
