import QueryTemplate.Proofs.ClosedBlocks
import QueryTemplate.Proofs.Resolution

/-!
# Bindings that run a template alike

Two bindings with equally many parameters run a template alike when at every placeholder that is
resolved the two parameters are written in the same steps and both or neither of them equal the
skip value of their binding. The two scans then differ in the values of the open block only, and
these decide alike whether the block stays.
-/

namespace QueryTemplate.Template

/-- The parameters that two bindings have for a placeholder with number `i` are written in the same
steps, and both or neither of them equal the skip value. -/
def Binding.AgreesAt (b b' : Binding) (i : Nat) (p : Placeholder) : Prop :=
  ∀ v, b.params[i]? = some v →
    ∃ v', b'.params[i]? = some v' ∧ p.render v' = p.render v ∧ v'.same b'.skip = v.same b.skip

/-- Two bindings agree at the placeholders of a text that are resolved. -/
structure Binding.AgreesOn (cs : List Char) (b b' : Binding) : Prop where
  length : b'.params.length = b.params.length
  agreesAt : ∀ before p, IsResolved b.params cs before p → b.AgreesAt b' (number before) p

variable {b b' : Binding} {cs before : List Char} {c : Char} {p : Placeholder}

namespace Scan

variable {s s' : Scan Piece}

/-- A scan with other values in its open block. -/
def withValues (vs : Array Value) (s : Scan Piece) : Scan Piece :=
  { s with block := s.block.map fun blk => { blk with values := vs } }

lemma withValues_emit (vs : Array Value) (ps : List Piece) (s : Scan Piece) :
    (s.withValues vs).emit ps = (s.emit ps).withValues vs := by
  cases hb : s.block <;> simp [withValues, emit, hb]

lemma withValues_record (vs : Array Value) (v v' : Value) (s : Scan Piece) :
    (s.withValues vs).record v' = (s.record v).withValues (vs.push v') := by
  cases hb : s.block <;> simp [withValues, record, hb]

/-- Two scans differ in the values of their open blocks only, and these decide alike whether the
block stays. -/
def Mirrors (b b' : Binding) (s s' : Scan Piece) : Prop :=
  ∃ vs, s' = s.withValues vs ∧
    ∀ values, s.values? = some values → vs.any (·.same b'.skip) = values.any (·.same b.skip)

lemma mirrors_initial (b b' : Binding) : Mirrors b b' initial initial := by
  refine ⟨#[], rfl, ?_⟩
  intro values hvalues
  cases hvalues

/-- Without an open block there is no difference. -/
lemma Mirrors.of_block_eq_none (hb : s.block = none) : Mirrors b b' s s := by
  refine ⟨#[], ?_, ?_⟩
  · rcases s with ⟨_, _, _, block, _, _, _, _⟩
    subst hb
    rfl
  · intro values hvalues
    rw [values?, hb] at hvalues
    cases hvalues

lemma Mirrors.mode_eq (h : Mirrors b b' s s') : s'.mode = s.mode := by
  obtain ⟨vs, rfl, -⟩ := h
  rfl

lemma Mirrors.offset_eq (h : Mirrors b b' s s') : s'.offset = s.offset := by
  obtain ⟨vs, rfl, -⟩ := h
  rfl

lemma Mirrors.bound_eq (h : Mirrors b b' s s') : s'.bound = s.bound := by
  obtain ⟨vs, rfl, -⟩ := h
  rfl

lemma Mirrors.block_eq_none_iff (h : Mirrors b b' s s') : s'.block = none ↔ s.block = none := by
  obtain ⟨vs, rfl, -⟩ := h
  simp [withValues]

lemma Mirrors.toRun_eq (h : Mirrors b b' s s') : s'.toRun = s.toRun := by
  obtain ⟨vs, rfl, -⟩ := h
  rfl

lemma Mirrors.withMode (h : Mirrors b b' s s') (m : Mode) :
    Mirrors b b' (s.withMode m) (s'.withMode m) := by
  obtain ⟨vs, rfl, hskip⟩ := h
  exact ⟨vs, rfl, hskip⟩

lemma Mirrors.fail (h : Mirrors b b' s s') (error : TemplateError) :
    Mirrors b b' (s.fail error) (s'.fail error) := by
  obtain ⟨vs, rfl, hskip⟩ := h
  exact ⟨vs, rfl, hskip⟩

lemma Mirrors.advance (h : Mirrors b b' s s') (c : Char) :
    Mirrors b b' (s.advance c) (s'.advance c) := by
  obtain ⟨vs, rfl, hskip⟩ := h
  exact ⟨vs, rfl, hskip⟩

lemma Mirrors.bindNext (h : Mirrors b b' s s') : Mirrors b b' s.bindNext s'.bindNext := by
  obtain ⟨vs, rfl, hskip⟩ := h
  exact ⟨vs, rfl, hskip⟩

lemma Mirrors.emit (h : Mirrors b b' s s') (ps : List Piece) :
    Mirrors b b' (s.emit ps) (s'.emit ps) := by
  obtain ⟨vs, rfl, hskip⟩ := h
  refine ⟨vs, withValues_emit vs ps s, ?_⟩
  rw [emit_values?]
  exact hskip

lemma Mirrors.record {v v' : Value} (h : Mirrors b b' s s')
    (hv : v'.same b'.skip = v.same b.skip) : Mirrors b b' (s.record v) (s'.record v') := by
  obtain ⟨vs, rfl, hskip⟩ := h
  refine ⟨vs.push v', withValues_record vs v v' s, ?_⟩
  intro values hvalues
  rw [record_values?, Option.map_eq_some_iff] at hvalues
  obtain ⟨old, hold, rfl⟩ := hvalues
  rw [Array.any_push, Array.any_push, hskip old hold, hv]

/-- A placeholder at which the two bindings agree keeps the scans alike, whether it accepts its
parameter, refuses it or misses it. -/
lemma Mirrors.resolve (h : Mirrors b b' s s') (hlength : b'.params.length = b.params.length)
    (hp : b.AgreesAt b' s.bound p) : Mirrors b b' (s.resolve b p) (s'.resolve b' p) := by
  have hbound := h.bound_eq
  cases hv : b.params[s.bound]? with
  | none =>
    have hv' : b'.params[s'.bound]? = none := by
      rw [hbound, List.getElem?_eq_none_iff, hlength]
      exact List.getElem?_eq_none_iff.1 hv
    rw [resolve_of_missing hv, resolve_of_missing hv', hbound, hlength]
    exact h.fail _
  | some v =>
    obtain ⟨v', hv', hrender, hskip⟩ := hp v hv
    rw [← hbound] at hv'
    rw [resolve_of_param hv, resolve_of_param hv', hrender, h.mode_eq]
    exact ((h.bindNext.record hskip).emit _).withMode _

lemma Mirrors.openBlock (h : Mirrors b b' s s') : Mirrors b b' s.openBlock s'.openBlock := by
  obtain ⟨vs, rfl, hskip⟩ := h
  cases hb : s.block with
  | none =>
    refine ⟨#[], ?_, ?_⟩
    · simp [Scan.openBlock, withValues, hb]
    · intro values hvalues
      simp only [Scan.openBlock, hb, values?, Option.map_some, Option.some.injEq] at hvalues
      simp [← hvalues]
  | some blk =>
    have hopen : (s.withValues vs).openBlock = s.openBlock.withValues vs := by
      simp [Scan.openBlock, withValues, hb, Scan.fail]
    have hvalues : s.openBlock.values? = s.values? := by
      simp [Scan.openBlock, hb, Scan.fail, values?]
    rw [hopen]
    refine ⟨vs, rfl, ?_⟩
    rw [hvalues]
    exact hskip

lemma Mirrors.closeBlock (h : Mirrors b b' s s') :
    Mirrors b b' (s.closeBlock b.skip) (s'.closeBlock b'.skip) := by
  cases hb : s.block with
  | none =>
    have hb' : s'.block = none := h.block_eq_none_iff.2 hb
    have hclose : s.closeBlock b.skip = s.fail (.malformed .unmatchedBlockClose s.offset) := by
      simp only [Scan.closeBlock, hb]
    have hclose' : s'.closeBlock b'.skip =
        s'.fail (.malformed .unmatchedBlockClose s'.offset) := by
      simp only [Scan.closeBlock, hb']
    rw [hclose, hclose', h.offset_eq]
    exact h.fail _
  | some blk =>
    obtain ⟨vs, rfl, hskip⟩ := h
    have hb' : (s.withValues vs).block = some { blk with values := vs } := by
      simp only [withValues, hb, Option.map_some]
    have hkept : ({ blk with values := vs } : Block Piece).isKept b'.skip = blk.isKept b.skip := by
      rw [Block.isKept, Block.isKept, hskip blk.values (by rw [values?, hb]; rfl)]
    by_cases hk : blk.isKept b.skip = true
    · rw [closeBlock_of_isKept hb hk, closeBlock_of_isKept hb' (hkept.trans hk)]
      exact .of_block_eq_none rfl
    · rw [closeBlock_of_not_isKept hb hk, closeBlock_of_not_isKept hb' (hkept ▸ hk)]
      exact .of_block_eq_none rfl

lemma Mirrors.plain (h : Mirrors b b' s s') (c : Char) :
    Mirrors b b' (s.plain b c) (s'.plain b' c) := by
  unfold Scan.plain
  split
  · exact h.withMode .question
  · have hquote := (h.withMode (.literal s.offset)).emit [.source '\'']
    obtain ⟨vs, rfl, -⟩ := h
    exact hquote
  · exact h.openBlock
  · exact h.closeBlock
  · exact h.emit _

lemma Mirrors.step (h : Mirrors b b' s s') (hlength : b'.params.length = b.params.length)
    (hp : s.mode = .question → c ≠ '?' → b.AgreesAt b' s.bound (completedBy c)) :
    Mirrors b b' (s.step b c) (s'.step b' c) := by
  have hmode := h.mode_eq
  cases hm : s.mode with
  | failed error =>
    rw [step_of_failed hm, step_of_failed (hmode.trans hm)]
    exact h
  | plain =>
    rw [step_of_plain hm, step_of_plain (hmode.trans hm)]
    exact (h.plain c).advance c
  | literal start =>
    rw [step_of_literal hm, step_of_literal (hmode.trans hm)]
    unfold inLiteral
    split
    · exact ((h.withMode .plain).emit _).advance c
    · exact (h.emit _).advance c
  | question =>
    by_cases hc : c = '?'
    · subst hc
      rw [step_doublePlaceholder hm, step_doublePlaceholder (hmode.trans hm), h.offset_eq]
      exact (h.fail _).advance _
    · have hresolve := (h.withMode .plain).resolve hlength (hp hm hc)
      rw [step_of_question hm hc, step_of_question (hmode.trans hm) hc, hresolve.mode_eq]
      split
      · exact hresolve.advance c
      · exact hresolve.advance c
      · exact (hresolve.plain c).advance c

lemma Mirrors.finish (h : Mirrors b b' s s') (hlength : b'.params.length = b.params.length)
    (hp : s.mode = .question → s.block = none → b.AgreesAt b' s.bound .generic) :
    Mirrors b b' (s.finish b) (s'.finish b') := by
  by_cases hq : s.mode = .question ∧ s.block = none
  · have hq' : s'.mode = .question ∧ s'.block = none :=
      ⟨h.mode_eq.trans hq.1, h.block_eq_none_iff.2 hq.2⟩
    rw [finish_of_question hq.1 hq.2, finish_of_question hq'.1 hq'.2]
    exact (h.withMode .plain).resolve hlength (hp hq.1 hq.2)
  · obtain ⟨vs, rfl, hskip⟩ := h
    have hfinish : (s.withValues vs).finish b' = (s.finish b).withValues vs := by
      cases hm : s.mode <;> cases hb : s.block <;>
        simp_all [Scan.finish, withValues, Scan.fail]
    have hvalues : (s.finish b).values? = s.values? := by
      cases hm : s.mode <;> cases hb : s.block <;>
        simp_all [Scan.finish, values?, Scan.fail]
    rw [hfinish]
    refine ⟨vs, rfl, ?_⟩
    rw [hvalues]
    exact hskip

/-! ### Reading a text -/

/-- Behind a question mark, a scan stands at a placeholder that is due when there is a parameter
for it. -/
lemma exists_due (hv : Viable cs) (hm : (initial.read b cs).mode = .question) {v : Value}
    (hparam : b.params[(initial.read b cs).bound]? = some v) :
    ∃ start, OpensPlaceholder start cs ∧ (initial.read b cs).bound = number start ∧
      IsDue b.params start := by
  rcases read_of_viable b hv with ⟨error, hfailed, -⟩ | ⟨hbehind, hs⟩
  · rw [hm] at hfailed
    cases hfailed
  · have hmode := hbehind.mode
    rw [hm] at hmode
    obtain ⟨start, ho, hn⟩ := hmode
    rw [hn] at hparam
    refine ⟨start, ho, hn, (List.getElem?_eq_some_iff.1 hparam).1, fun outside q ha => ?_⟩
    apply hs outside q
    rw [ho.1]
    exact ha.append ['?']

lemma mirrors_concat (hlength : b'.params.length = b.params.length) (hv : Viable cs)
    (h : Mirrors b b' (initial.read b cs) (initial.read b' cs))
    (hp : ∀ before p, Asks (cs ++ [c]) before p → IsDue b.params before →
      b.AgreesAt b' (number before) p) :
    Mirrors b b' (initial.read b (cs ++ [c])) (initial.read b' (cs ++ [c])) := by
  rw [read_append, read_append]
  apply h.step hlength
  intro hm hc v hparam
  obtain ⟨start, ho, hn, hdue⟩ := exists_due hv hm hparam
  rw [hn] at hparam ⊢
  exact hp start _ (asks_concat.2 (.inr ⟨ho, hc, rfl⟩)) hdue v hparam

lemma mirrors_read (hlength : b'.params.length = b.params.length) (hv : Viable cs)
    (hp : ∀ before p, Asks cs before p → IsDue b.params before →
      b.AgreesAt b' (number before) p) :
    Mirrors b b' (initial.read b cs) (initial.read b' cs) := by
  induction cs using List.reverseRecOn with
  | nil => exact mirrors_initial b b'
  | append_singleton cs c ih =>
    have hv' := (viable_concat.1 hv).1
    apply mirrors_concat hlength hv' _ hp
    exact ih hv' fun before p ha => hp before p (ha.append [c])

/-- A viable text is read to its end, where the last placeholder is resolved if it is outside
blocks. -/
lemma mirrors_of_viable (h : b.AgreesOn cs b') (hv : Viable cs) :
    Mirrors b b' ((initial.read b cs).finish b) ((initial.read b' cs).finish b') := by
  have hread : Mirrors b b' (initial.read b cs) (initial.read b' cs) := by
    apply mirrors_read h.length hv
    intro before p ha hdue
    exact h.agreesAt before p ⟨reaches_of_viable hv ha, hdue⟩
  apply hread.finish h.length
  intro hm hb v hparam
  obtain ⟨start, ho, hn, hdue⟩ := exists_due hv hm hparam
  rw [hn] at hparam ⊢
  exact h.agreesAt start _ ⟨.inr ⟨wellFormed_of_question hv hm hb, ho, rfl⟩, hdue⟩ v hparam

/-- Behind a defect both scans have failed. -/
lemma mirrors_of_defectAt {after : List Char} {defect : Defect}
    (h : b.AgreesOn (before ++ c :: after) b') (hv : Viable before)
    (hd : DefectAt before c defect) :
    Mirrors b b' ((initial.read b (before ++ c :: after)).finish b)
      ((initial.read b' (before ++ c :: after)).finish b') := by
  have hagrees : ∀ outside p, Asks (before ++ [c]) outside p → IsDue b.params outside →
      b.AgreesAt b' (number outside) p := by
    intro outside p ha hdue
    apply h.agreesAt outside p
    refine ⟨?_, hdue⟩
    rw [reaches_iff_of_firstDefect (.inside rfl hv hd)]
    exact (asks_concat_iff_asksBefore hd).1 ha
  have hread : Mirrors b b' (initial.read b before) (initial.read b' before) :=
    mirrors_read h.length hv fun outside p ha => hagrees outside p (ha.append [c])
  have hfailed := mirrors_concat h.length hv hread hagrees
  obtain ⟨error, hm⟩ := exists_failed_of_defectAt b hv hd
  obtain ⟨error', hm'⟩ := exists_failed_of_defectAt b' hv hd
  have hend : ∀ {d : Binding} {e : TemplateError},
      (initial.read d (before ++ [c])).mode = .failed e →
      initial.read d (before ++ c :: after) = initial.read d (before ++ [c]) := by
    intro d e he
    rw [List.append_cons, read_append, read_of_failed d _ after he]
  rw [hend hm, hend hm']
  apply hfailed.finish h.length
  intro hquestion
  rw [hm] at hquestion
  cases hquestion

end Scan

/-- Bindings that agree at the resolved placeholders of a template run it alike. -/
theorem Binding.AgreesOn.run_eq {template : String} (h : b.AgreesOn template.toList b') :
    run b' template = run b template := by
  rw [run, run, runOn, runOn]
  rcases viable_or_exists_defectAt template.toList with hv | ⟨before, c, after, defect, he, hv, hd⟩
  · exact (Scan.mirrors_of_viable h hv).toRun_eq
  · rw [he] at h ⊢
    exact (Scan.mirrors_of_defectAt h hv hd).toRun_eq

end QueryTemplate.Template
