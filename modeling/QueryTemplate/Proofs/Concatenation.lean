import QueryTemplate.Proofs.Accounting

/-!
# Templates one behind the other

Nothing of a template that has been rendered stays behind but its text, its length and the number
of its parameters: a scan that goes on behind it does what a new scan does, with offsets and
parameter numbers shifted. The text of two templates is the text of the first followed by that of
the second, as long as the second does not begin with a suffix of a last question mark of the
first.
-/

namespace QueryTemplate

/-- An error of a template as it stands behind `bytes` bytes and `bound` parameters. -/
def TemplateError.shift (bytes bound : Nat) : TemplateError → TemplateError
  | .malformed defect offset => .malformed defect (bytes + offset)
  | .argument (.missing index supplied) => .argument (.missing (bound + index) (bound + supplied))
  | .argument (.refused refusal) => .argument (.refused refusal)

namespace Template

def Mode.shift (bytes bound : Nat) : Mode → Mode
  | .plain => .plain
  | .literal start => .literal (bytes + start)
  | .question => .question
  | .failed error => .failed (error.shift bytes bound)

def Block.shift (bytes : Nat) (blk : Block Piece) : Block Piece := { blk with start := bytes + blk.start }

def Drop.shift (bytes : Nat) (d : Drop) : Drop := ⟨bytes + d.start, bytes + d.stop⟩

namespace Scan

/-- The scan that reads behind `first` what `s` has read. -/
def behind (first s : Scan Piece) : Scan Piece where
  mode := s.mode.shift first.offset first.bound
  offset := first.offset + s.offset
  bound := first.bound + s.bound
  block := s.block.map (Block.shift first.offset)
  pieces := first.pieces ++ s.pieces
  dropped := first.dropped + s.dropped
  events := first.events ++ s.events.map (Event.onDrop (Drop.shift first.offset))
  calls := first.calls ++ s.calls

variable {first : Scan Piece} {params : List Value}

lemma behind_initial (hm : first.mode = .plain) (hb : first.block = none) :
    first.behind initial = first := by
  rcases first with ⟨mode, _, _, block, _, _, _, _⟩
  obtain rfl : mode = .plain := hm
  obtain rfl : block = none := hb
  simp [behind, initial, Mode.shift]

lemma behind_fail (error : TemplateError) (first s : Scan Piece) :
    (first.behind s).fail (error.shift first.offset first.bound) =
      first.behind (s.fail error) := rfl

lemma behind_advance (c : Char) (first s : Scan Piece) :
    (first.behind s).advance c = first.behind (s.advance c) := by
  simp [behind, advance, Nat.add_assoc]

lemma behind_emit (ps : List Piece) (first s : Scan Piece) :
    (first.behind s).emit ps = first.behind (s.emit ps) := by
  have happend : ∀ {α : Type} (xs ys : Array α) (zs : List α),
      xs ++ ys ++ zs = xs ++ (ys ++ zs) := fun _ _ _ => Array.ext' (by simp)
  cases hb : s.block <;> simp [behind, emit, hb, Block.shift, happend]

lemma behind_record (v : Value) (first s : Scan Piece) :
    (first.behind s).record v = first.behind (s.record v) := by
  cases hb : s.block <;> simp [behind, record, hb, Block.shift]

lemma behind_openBlock (first s : Scan Piece) :
    (first.behind s).openBlock = first.behind s.openBlock := by
  cases hb : s.block <;>
    simp [behind, openBlock, hb, Block.shift, fail, Mode.shift, TemplateError.shift]

lemma behind_closeBlock (skip : Value) (first s : Scan Piece) :
    (first.behind s).closeBlock skip = first.behind (s.closeBlock skip) := by
  cases hb : s.block with
  | none => simp [behind, closeBlock, hb, fail, Mode.shift, TemplateError.shift]
  | some blk =>
    have hkept : (blk.shift first.offset).isKept skip = blk.isKept skip := rfl
    simp only [behind, closeBlock, hb, Option.map_some, hkept]
    split
    · simp [Block.shift, Array.append_assoc]
    · simp [Event.onDrop, Drop.shift, Block.shift, Nat.add_assoc]

lemma behind_bind (first s : Scan Piece) :
    (first.behind s).bindNext = first.behind s.bindNext := by
  simp [behind, bindNext, Nat.add_assoc]

/-- A placeholder behind other parameters takes the parameter that it takes alone. -/
lemma behind_resolve (hn : first.bound = params.length) (b : Binding) (p : Placeholder)
    (s : Scan Piece) :
    (first.behind s).resolve ⟨params ++ b.params, b.skip⟩ p = first.behind (s.resolve b p) := by
  have hparam : (params ++ b.params)[(first.behind s).bound]? = b.params[s.bound]? := by
    change (params ++ b.params)[first.bound + s.bound]? = _
    rw [hn, List.getElem?_append_right (Nat.le_add_right ..), Nat.add_sub_cancel_left]
  cases hv : b.params[s.bound]? with
  | none =>
    have hmissing : TemplateError.argument
        (.missing (first.behind s).bound (params ++ b.params).length) =
          TemplateError.shift first.offset first.bound
            (.argument (.missing s.bound b.params.length)) := by
      simp [behind, TemplateError.shift, hn]
    rw [resolve_of_missing hv, resolve_of_missing (hparam.trans hv), hmissing]
    exact behind_fail _ first s
  | some v =>
    rw [resolve_of_param hv, resolve_of_param (hparam.trans hv), behind_bind, behind_record,
      behind_emit]
    cases (p.render v).refusal? <;> rfl

lemma behind_plain (params : List Value) (b : Binding) (first s : Scan Piece) (c : Char) :
    (first.behind s).plain ⟨params ++ b.params, b.skip⟩ c = first.behind (s.plain b c) := by
  unfold plain
  split
  · rfl
  · exact behind_emit _ first (s.withMode (.literal s.offset))
  · exact behind_openBlock first s
  · exact behind_closeBlock b.skip first s
  · exact behind_emit _ first s

lemma behind_inLiteral (first s : Scan Piece) (c : Char) :
    (first.behind s).inLiteral c = first.behind (s.inLiteral c) := by
  unfold inLiteral
  split
  · exact behind_emit _ first (s.withMode .plain)
  · exact behind_emit _ first s

lemma behind_step (hn : first.bound = params.length) (b : Binding) (s : Scan Piece) (c : Char) :
    (first.behind s).step ⟨params ++ b.params, b.skip⟩ c = first.behind (s.step b c) := by
  cases hm : s.mode with
  | failed e =>
    have hfirst : (first.behind s).mode = .failed (e.shift first.offset first.bound) := by
      simp [behind, hm, Mode.shift]
    rw [step_of_failed hm, step_of_failed hfirst]
  | plain =>
    have hfirst : (first.behind s).mode = .plain := by simp [behind, hm, Mode.shift]
    rw [step_of_plain hm, step_of_plain hfirst, behind_plain, behind_advance]
  | literal start =>
    have hfirst : (first.behind s).mode = .literal (first.offset + start) := by
      simp [behind, hm, Mode.shift]
    rw [step_of_literal hm, step_of_literal hfirst, behind_inLiteral, behind_advance]
  | question =>
    have hfirst : (first.behind s).mode = .question := by simp [behind, hm, Mode.shift]
    by_cases hc : c = '?'
    · subst hc
      rw [step_doublePlaceholder hm, step_doublePlaceholder hfirst, ← behind_advance]
      exact congrArg _ (behind_fail (.malformed .doublePlaceholder s.offset) first s)
    · have hresolve : ((first.behind s).withMode .plain).resolve ⟨params ++ b.params, b.skip⟩
          (completedBy c) = first.behind ((s.withMode .plain).resolve b (completedBy c)) :=
        behind_resolve hn b (completedBy c) (s.withMode .plain)
      rw [step_of_question hm hc, step_of_question hfirst hc, hresolve, ← behind_advance]
      rcases isSettled_resolve (b := b) (s := s.withMode .plain) rfl (completedBy c) with
        h | ⟨e, h⟩
      · have hplain : (first.behind ((s.withMode .plain).resolve b (completedBy c))).mode =
            .plain := by simp [behind, h, Mode.shift]
        rw [h, hplain]
        cases Placeholder.ofSuffix? c with
        | some p => rfl
        | none => exact congrArg _ (behind_plain params b first _ c)
      · have hfailed : (first.behind ((s.withMode .plain).resolve b (completedBy c))).mode =
            .failed (e.shift first.offset first.bound) := by simp [behind, h, Mode.shift]
        rw [h, hfailed]

/-- Reading goes on behind a first scan as it goes on its own. -/
lemma behind_read (hn : first.bound = params.length) (b : Binding) (s : Scan Piece) (cs : List Char) :
    (first.behind s).read ⟨params ++ b.params, b.skip⟩ cs = first.behind (s.read b cs) := by
  induction cs generalizing s with
  | nil => rfl
  | cons c cs ih => rw [read_cons, read_cons, behind_step hn, ih]

lemma behind_finish (hn : first.bound = params.length) (b : Binding) (s : Scan Piece) :
    (first.behind s).finish ⟨params ++ b.params, b.skip⟩ = first.behind (s.finish b) := by
  cases hm : s.mode with
  | failed e => simp [finish, behind, hm, Mode.shift]
  | plain =>
    cases hb : s.block <;>
      simp [finish, behind, hm, hb, Mode.shift, fail, TemplateError.shift, Block.shift]
  | literal start =>
    cases hb : s.block <;>
      simp [finish, behind, hm, hb, Mode.shift, fail, TemplateError.shift, Block.shift]
  | question =>
    cases hb : s.block with
    | some blk => simp [finish, behind, hm, hb, Mode.shift, fail, TemplateError.shift, Block.shift]
    | none =>
      have hfirst : (first.behind s).mode = .question := by simp [behind, hm, Mode.shift]
      have hblock : (first.behind s).block = none := by simp [behind, hb]
      rw [finish_of_question hm hb, finish_of_question hfirst hblock]
      exact behind_resolve hn b .generic (s.withMode .plain)

end Scan

/-! ### Runs -/

lemma statement_behind (first s : Scan Piece) :
    (first.behind s).toRun.statement =
      (s.toRun.statement.mapError (TemplateError.shift first.offset first.bound)).map
        (first.pieces.toList ++ ·) := by
  cases hm : s.mode <;> simp [Scan.toRun, Scan.behind, hm, Mode.shift, Except.mapError, Except.map]

/-- The first template ends in a question mark that the second one would give a suffix, or turn
into two question marks. -/
def Joins (first second : String) : Prop :=
  first.toList.getLast? = some '?' ∧ ∃ c ∈ second.toList.head?, c ∈ ['?', 'd', 'f', 'a', '#']

lemma standsAlone_of_notMem {c : Char} (h : c ∉ ['?', 'd', 'f', 'a', '#']) (cs : List Char) :
    StandsAlone (c :: cs) := by
  simp only [List.mem_cons, List.not_mem_nil, or_false, not_or] at h
  obtain ⟨hq, hd, hf, ha, hn⟩ := h
  refine ⟨hq, ?_⟩
  unfold Placeholder.ofSuffix?
  split <;> first | rfl | contradiction

variable {t t' : String} {params : List Value} {skip : Value} {ps : List Piece}

/-- Behind a template that has been rendered, reading goes on as if the placeholder in which the
template may end had been resolved at once. -/
lemma outcome_of_statement_eq_ok {b : Binding} (h : (run b t).statement = .ok ps)
    (hjoin : ¬Joins t t') :
    (Scan.initial.read b t.toList).outcome b t'.toList =
      ((Scan.initial.read b t.toList).finish b).outcome b t'.toList := by
  obtain ⟨hbehind, hb⟩ := isBehind_of_statement_eq_ok h
  rcases hbehind.mode_cases with ⟨hready, -⟩ | ⟨start, ho, hm, -⟩ | ⟨outside, -, hl, -, -⟩
  · rw [Scan.finish_of_plain hready.mode hb]
  · have hfinish := Scan.finish_of_question (b := b) hm hb
    cases hcs : t'.toList with
    | nil =>
      obtain ⟨hready, hclosed⟩ := isReady_of_statement_eq_ok h
      rw [Scan.outcome, Scan.outcome, Scan.read_nil, Scan.read_nil,
        Scan.finish_of_plain hready.mode hclosed]
    | cons c cs =>
      have hc : c ∉ ['?', 'd', 'f', 'a', '#'] := by
        intro hc
        exact hjoin ⟨by simp [ho.1], c, by simp [hcs], hc⟩
      -- Behind the question mark, `c` resolves the placeholder and then is read as plain text.
      have hquestion : (Scan.initial.read b t.toList) =
          ((Scan.initial.read b t.toList).withMode .plain).withMode .question :=
        (Scan.withMode_self hm).symm
      rw [hfinish]
      conv_lhs => rw [hquestion]
      exact Scan.outcome_question_cons rfl (standsAlone_of_notMem hc cs)
  · exact absurd (wellFormed_of_statement_eq_ok h).quotes hl

/-- The run of two templates, when the first has a statement that takes all of its parameters. -/
theorem statement_run_append (h : (run ⟨params, skip⟩ t).statement = .ok ps)
    (hall : (run ⟨params, skip⟩ t).consumed = params.length) (hjoin : ¬Joins t t')
    (params' : List Value) :
    (run ⟨params ++ params', skip⟩ (t ++ t')).statement =
      ((run ⟨params', skip⟩ t').statement.mapError
        (TemplateError.shift (Text.byteLength t.toList) params.length)).map (ps ++ ·) := by
  let b : Binding := ⟨params ++ params', skip⟩
  let first : Scan Piece := (Scan.initial.read b t.toList).finish b
  -- The first template does not see the parameters of the second.
  have hb : (run b t).statement = .ok ps := by
    have hagree := agreesBelow_append (Nat.le_of_eq hall) params' skip
    rw [run_congr hagree fun _ _ he => by rw [h] at he; cases he]
    exact h
  obtain ⟨hready, hclosed⟩ : first.IsReady t.toList ∧ first.block = none :=
    isReady_of_statement_eq_ok hb
  have hbound : first.bound = params.length := by
    rw [hready.bound, ← hall, consumed_of_statement_eq_ok h, number]
  have hpieces : first.pieces.toList = ps := by
    have hstatement : first.toRun.statement = .ok ps := hb
    rw [Scan.toRun, hready.mode] at hstatement
    exact Except.ok.inj hstatement
  have hrun : run b (t ++ t') = (first.behind
      ((Scan.initial.read ⟨params', skip⟩ t'.toList).finish ⟨params', skip⟩)).toRun := by
    calc run b (t ++ t') = Scan.initial.outcome b (t.toList ++ t'.toList) := by
          rw [run, runOn, Scan.outcome, String.toList_append]
      _ = (Scan.initial.read b t.toList).outcome b t'.toList := Scan.outcome_append ..
      _ = first.outcome b t'.toList := outcome_of_statement_eq_ok hb hjoin
      _ = (first.behind Scan.initial).outcome b t'.toList := by
          rw [Scan.behind_initial hready.mode hclosed]
      _ = _ := by
          rw [Scan.outcome, Scan.behind_read hbound ⟨params', skip⟩,
            Scan.behind_finish hbound ⟨params', skip⟩]
  rw [hrun, statement_behind, hpieces, hready.offset, hbound]
  rfl

/-- When a template is rendered with parameters that it takes all, and its last question mark does
not join the template behind it, the two are rendered as the one and then the other. An error of
the second keeps its kind, with the offset behind the bytes of the first template and the index
behind its parameters. -/
theorem render_append {e : Escaper} {sql : String} (h : render e t params skip = .ok sql)
    (hall : (run ⟨params, skip⟩ t).consumed = params.length) (hjoin : ¬Joins t t')
    (params' : List Value) :
    (∀ sql', render e t' params' skip = .ok sql' →
        render e (t ++ t') (params ++ params') skip = .ok (sql ++ sql')) ∧
      (∀ defect offset, render e t' params' skip = .error (.malformed defect offset) →
        render e (t ++ t') (params ++ params') skip =
          .error (.malformed defect (Text.byteLength t.toList + offset))) ∧
      (∀ index supplied, render e t' params' skip = .error (.argument (.missing index supplied)) →
        render e (t ++ t') (params ++ params') skip =
          .error (.argument (.missing (params.length + index) (params.length + supplied)))) ∧
      ∀ refusal, render e t' params' skip = .error (.argument (.refused refusal)) →
        render e (t ++ t') (params ++ params') skip = .error (.argument (.refused refusal)) := by
  obtain ⟨ps, hs, rfl⟩ := exists_statement_of_render_eq_ok h
  have happend := statement_run_append hs hall hjoin params'
  have herror : ∀ error, render e t' params' skip = .error error →
      render e (t ++ t') (params ++ params') skip =
        .error (error.shift (Text.byteLength t.toList) params.length) := by
    intro error herror
    rw [render_eq_error_iff, happend, render_eq_error_iff.1 herror]
    rfl
  refine ⟨fun sql' h' => ?_, fun defect offset => herror _, fun index supplied => herror _,
    fun refusal => herror _⟩
  obtain ⟨ps', hs', rfl⟩ := exists_statement_of_render_eq_ok h'
  rw [render_eq, happend, hs']
  exact congrArg Except.ok (Piece.writeAll_append e ps ps')

/-- A last question mark before a block, behind a character of two bytes. -/
theorem render_questionBeforeBlock :
    render .mysql "é?" [.null] .null = .ok "énull" ∧
      (run ⟨[.null], .null⟩ "é?").consumed = [Value.null].length ∧
      ¬Joins "é?" "\x7b?d\x7d" ∧ ¬Joins "é?" "\x7b?d\x7d\x7d" ∧
      render .mysql ("é?" ++ "\x7b?d\x7d") ([.null] ++ [.int 1]) .null = .ok ("énull" ++ "1") ∧
      render .mysql ("é?" ++ "\x7b?d\x7d") ([.null] ++ []) .null =
        .error (.argument (.missing (1 + 0) (1 + 0))) ∧
      render .mysql ("é?" ++ "\x7b?d\x7d\x7d") ([.null] ++ [.int 1]) .null =
        .error (.malformed .unmatchedBlockClose (3 + 4)) := by
  have h : render .mysql "é?" [.null] .null = .ok "énull" := by decide +kernel
  have hall : (run ⟨[.null], .null⟩ "é?").consumed = [Value.null].length := by decide +kernel
  have hjoin : ∀ t', t'.toList.head? = some '\x7b' → ¬Joins "é?" t' := by
    rintro t' hhead ⟨-, c, hc, hm⟩
    rw [hhead] at hc
    cases hc
    exact absurd hm (by decide)
  obtain ⟨hok, -, -, -⟩ := render_append h hall (hjoin "\x7b?d\x7d" rfl) [.int 1]
  obtain ⟨-, -, hmissing, -⟩ := render_append h hall (hjoin "\x7b?d\x7d" rfl) []
  obtain ⟨-, hmalformed, -, -⟩ := render_append h hall (hjoin "\x7b?d\x7d\x7d" rfl) [.int 1]
  exact ⟨h, hall, hjoin _ rfl, hjoin _ rfl, hok "1" (by decide +kernel),
    hmissing 0 0 (by decide +kernel), hmalformed _ 4 (by decide +kernel)⟩

end Template

end QueryTemplate
