import QueryTemplate.Proofs.PartsRun
import QueryTemplate.Proofs.Requests

/-!
# Scanning a text character by character

As long as no character is a defect and every placeholder accepts its parameter, the mode of a
scan, the block that it has open and the number of parameters that it has bound are those of the
text behind it. One step keeps this, or it fails with the defect of its character or with the error
of the placeholder that the character completes.
-/

namespace QueryTemplate.Template

variable {cs before : List Char}

/-! ### The state of a scan behind a text -/

/-- A mode behind a text, when `bound` parameters have been bound. -/
def Mode.IsBehind (before : List Char) (bound : Nat) : Mode → Prop
  | .plain => IsLive before ∧ (∀ start, ¬OpensPlaceholder start before) ∧ bound = number before
  | .question => ∃ start, OpensPlaceholder start before ∧ bound = number start
  | .literal start => ¬IsLive before ∧ bound = number before ∧
      ∃ outside, OpensLiteral outside before ∧ start = Text.byteLength outside
  | .failed _ => False

/-- The start of the open block behind a text. -/
def IsBlockStart (before : List Char) : Option Nat → Prop
  | none => ¬InOpenBlock before
  | some start => ∃ outside, OpensBlock outside before ∧ start = Text.byteLength outside

namespace Scan

def blockStart? (s : Scan Piece) : Option Nat := s.block.map Block.start

/-- The state of a scan is that of the text behind it. -/
structure IsBehind (before : List Char) (s : Scan Piece) : Prop where
  offset : s.offset = Text.byteLength before
  mode : s.mode.IsBehind before s.bound
  block : IsBlockStart before s.blockStart?

/-- As `IsBehind`, with the placeholder resolved in which the text may end. -/
structure IsReady (before : List Char) (s : Scan Piece) : Prop where
  mode : s.mode = .plain
  offset : s.offset = Text.byteLength before
  live : IsLive before
  bound : s.bound = number before
  block : IsBlockStart before s.blockStart?

variable {b : Binding} {s : Scan Piece} {c : Char}

@[simp] lemma emit_blockStart? (ps : List Piece) (s : Scan Piece) :
    (s.emit ps).blockStart? = s.blockStart? := by
  cases h : s.block <;> simp [emit, blockStart?, h]

@[simp] lemma advance_blockStart? (c : Char) (s : Scan Piece) :
    (s.advance c).blockStart? = s.blockStart? := rfl

@[simp] lemma resolve_blockStart? (p : Placeholder) (s : Scan Piece) :
    (s.resolve b p).blockStart? = s.blockStart? := by
  cases hv : b.params[s.bound]? with
  | none => rw [resolve_of_missing hv, fail, blockStart?, blockStart?]
  | some v =>
    rw [resolve_of_param hv]
    cases hb : s.block <;> simp [blockStart?, bindNext, record, emit, withMode, hb]

lemma isBehind_initial : initial.IsBehind [] :=
  ⟨rfl, ⟨isLive_nil, fun start h => by simpa using h.1, rfl⟩, not_inOpenBlock_nil⟩

lemma isSome_blockStart? : s.blockStart?.isSome = s.block.isSome := Option.isSome_map

end Scan

lemma IsBlockStart.isSome_iff {start : Option Nat} (h : IsBlockStart before start) :
    start.isSome = true ↔ InOpenBlock before := by
  cases start with
  | none => simpa [IsBlockStart] using h
  | some start =>
    obtain ⟨outside, ho, -⟩ := h
    simpa using ⟨outside, ho⟩

lemma IsBlockStart.concat {start : Option Nat} {c : Char} (h : IsBlockStart before start)
    (hc : IsLive before → isBrace c = false) : IsBlockStart (before ++ [c]) start := by
  cases start with
  | none =>
    intro ho
    rcases inOpenBlock_concat.1 ho with ⟨ho, -⟩ | ⟨rfl, hl⟩
    · exact h ho
    · exact absurd (hc hl) (by decide)
  | some start =>
    obtain ⟨outside, ho, hs⟩ := h
    exact ⟨outside, opensBlock_concat.2 (.inl ⟨ho, hc⟩), hs⟩

namespace Scan

variable {b : Binding} {s : Scan Piece} {c : Char} {start : List Char} {p : Placeholder}

/-! ### Reading plain text -/

/-- A character is read that starts neither a literal nor a placeholder. -/
lemma isBehind_advance (hm : s.mode = .plain) (hs : s.offset = Text.byteLength before)
    (hl : IsLive before) (hn : s.bound = number before)
    (hb : IsBlockStart (before ++ [c]) s.blockStart?) (hq : c ≠ '\'') (hc : c ≠ '?') :
    (s.advance c).IsBehind (before ++ [c]) where
  offset := by simp [advance, hs, Text.byteLength_append, Text.byteLength]
  mode := by
    have hmode : (s.advance c).mode = .plain := hm
    have hbound : (s.advance c).bound = number before := hn
    rw [hmode, hbound]
    refine ⟨?_, fun _ => not_opensPlaceholder_concat hc, ?_⟩
    · rw [isLive_concat, if_neg hq]
      exact hl
    · rw [number_concat, if_neg fun h => hc h.2]
  block := hb

lemma IsReady.isBehind_advance (h : s.IsReady before) (hq : c ≠ '\'') (hc : c ≠ '?')
    (hb : isBrace c = false) : (s.advance c).IsBehind (before ++ [c]) :=
  Scan.isBehind_advance h.mode h.offset h.live h.bound (h.block.concat fun _ => hb) hq hc

lemma IsReady.emit (h : s.IsReady before) (ps : List Piece) : (s.emit ps).IsReady before :=
  ⟨by simpa using h.mode, by simpa using h.offset, h.live, by simpa using h.bound,
    by simpa using h.block⟩

lemma IsReady.plain_of_defectAt (h : s.IsReady before) {defect : Defect}
    (hd : DefectAt before c defect) (hc : c ≠ '?') :
    (s.plain b c).mode = .failed (.malformed defect (Text.byteLength before)) := by
  have hopen := h.block.isSome_iff
  rw [isSome_blockStart?] at hopen
  cases hd with
  | doublePlaceholder _ _ => exact absurd rfl hc
  | nestedBlock _ ho =>
    obtain ⟨blk, hb⟩ := Option.isSome_iff_exists.1 (hopen.2 ho)
    simp [plain, openBlock, hb, fail, h.offset]
  | unmatchedBlockClose _ ho =>
    have hb : s.block = none := by simpa using mt hopen.1 ho
    simp [plain, closeBlock, hb, fail, h.offset]

lemma IsReady.isBehind_plain (h : s.IsReady before) (hc : ∀ defect, ¬DefectAt before c defect) :
    ((s.plain b c).advance c).IsBehind (before ++ [c]) := by
  have hopen := h.block.isSome_iff
  have hoffset : s.offset + c.utf8Size = Text.byteLength (before ++ [c]) := by
    simp [h.offset, Text.byteLength_append, Text.byteLength]
  rw [isSome_blockStart?] at hopen
  -- That no brace is a defect says whether a block is open in the two cases of braces.
  unfold plain
  split
  case h_1 => exact ⟨hoffset, ⟨before, ⟨rfl, h.live⟩, h.bound⟩, h.block.concat fun _ => rfl⟩
  case h_2 =>
    have hblock : IsBlockStart (before ++ ['\'']) s.blockStart? := h.block.concat fun _ => rfl
    refine ⟨by simpa [advance] using hoffset, ?_, ?_⟩
    · simp only [advance, emit_mode, emit_bound]
      exact ⟨by simp [isLive_concat, h.live], by simp [h.bound, number_concat],
        before, opensLiteral_concat.2 (.inr ⟨rfl, rfl⟩), h.offset⟩
    · rw [advance_blockStart?, emit_blockStart?]
      exact hblock
  case h_3 =>
    have hb : s.block = none := by simpa using mt hopen.1 fun ho => hc _ (.nestedBlock h.live ho)
    have hblock : OpensBlock before (before ++ ['\x7b']) :=
      opensBlock_concat.2 (.inr ⟨rfl, rfl, h.live⟩)
    simp only [openBlock, hb]
    exact Scan.isBehind_advance h.mode h.offset h.live h.bound ⟨before, hblock, h.offset⟩
      (by decide) (by decide)
  case h_4 =>
    have ho : InOpenBlock before := not_not.1 fun ho => hc _ (.unmatchedBlockClose h.live ho)
    obtain ⟨blk, hb⟩ := Option.isSome_iff_exists.1 (hopen.2 ho)
    have hblock : IsBlockStart (before ++ ['\x7d']) none := by
      simp [IsBlockStart, inOpenBlock_concat, h.live, isBrace]
    simp only [closeBlock, hb]
    split
    · exact Scan.isBehind_advance h.mode h.offset h.live h.bound hblock (by decide) (by decide)
    · exact Scan.isBehind_advance h.mode h.offset h.live h.bound hblock (by decide) (by decide)
  case h_5 hquestion hquote hopening hclosing =>
    have hb : isBrace c = false := by
      simp only [isBrace, Bool.or_eq_false_iff, beq_eq_false_iff_ne]
      exact ⟨hopening, hclosing⟩
    exact (h.emit _).isBehind_advance hquote hquestion hb

/-! ### Resolving a placeholder -/

/-- Behind a text, a scan reads plain text with no placeholder left to resolve, or it stands behind
a question mark or in a literal. -/
lemma IsBehind.mode_cases (h : s.IsBehind before) :
    s.IsReady before ∧ (∀ start, ¬OpensPlaceholder start before) ∨
      (∃ start, OpensPlaceholder start before ∧ s.mode = .question ∧ s.bound = number start) ∨
      ∃ outside, OpensLiteral outside before ∧ ¬IsLive before ∧
        s.mode = .literal (Text.byteLength outside) ∧ s.bound = number before := by
  have hmode := h.mode
  cases hm : s.mode with
  | plain =>
    rw [hm] at hmode
    obtain ⟨hl, ho, hn⟩ := hmode
    exact .inl ⟨⟨hm, h.offset, hl, hn, h.block⟩, ho⟩
  | question =>
    rw [hm] at hmode
    obtain ⟨start, ho, hn⟩ := hmode
    exact .inr (.inl ⟨start, ho, rfl, hn⟩)
  | literal k =>
    rw [hm] at hmode
    obtain ⟨hl, hn, outside, ho, rfl⟩ := hmode
    exact .inr (.inr ⟨outside, ho, hl, rfl, hn⟩)
  | failed e =>
    rw [hm] at hmode
    exact hmode.elim

lemma IsBehind.mode_eq_question (h : s.IsBehind before) (ho : OpensPlaceholder start before) :
    s.mode = .question ∧ s.bound = number start := by
  rcases h.mode_cases with ⟨-, hn⟩ | ⟨start', ho', hm, hn⟩ | ⟨outside, -, hl, -, -⟩
  · exact absurd ho (hn start)
  · rw [(List.append_singleton_inj.1 (ho.1.symm.trans ho'.1)).1]
    exact ⟨hm, hn⟩
  · exact absurd ho.isLive hl

/-- A placeholder that accepts its parameter is resolved. -/
lemma IsBehind.isReady_resolve (h : s.IsBehind before) (ho : OpensPlaceholder start before)
    (hp : errorBehind? b.params start p = none) :
    ((s.withMode .plain).resolve b p).IsReady before := by
  obtain ⟨-, hn⟩ := h.mode_eq_question ho
  have herror : (Item.placeholder p).error? b.params (s.withMode .plain).bound = none := by
    rw [← hp, errorBehind?, ← hn]
    rfl
  have hresolve : (s.withMode .plain).resolve b p = _ := takeItem_of_accepted herror
  have harity := Item.length_value?_of_accepted herror
  refine ⟨?_, ?_, ho.isLive, ?_, ?_⟩
  · rw [hresolve]
    rfl
  · rw [hresolve]
    exact h.offset
  · have hbound : ((s.withMode .plain).resolve b p).bound = number start + 1 := by
      rw [hresolve, ← hn]
      exact congrArg (s.bound + ·) harity
    rw [hbound, ho.1, number_concat, if_pos ⟨ho.2, rfl⟩]
  · rw [resolve_blockStart?]
    exact h.block

lemma IsBehind.mode_resolve (h : s.IsBehind before) (ho : OpensPlaceholder start before)
    {error : ArgumentError} (hp : errorBehind? b.params start p = some error) :
    ((s.withMode .plain).resolve b p).mode = .failed (.argument error) := by
  obtain ⟨-, hn⟩ := h.mode_eq_question ho
  have herror : (Item.placeholder p).error? b.params (s.withMode .plain).bound = some error := by
    rw [← hp, errorBehind?, ← hn]
    rfl
  exact takeItem_of_refused herror

/-! ### One step -/

lemma step_of_failed {e : TemplateError} (h : s.mode = .failed e) : s.step b c = s := by
  simp [step, h]

lemma step_of_plain (h : s.mode = .plain) : s.step b c = (s.plain b c).advance c := by
  simp [step, h]

lemma step_of_literal {start : Nat} (h : s.mode = .literal start) :
    s.step b c = (s.inLiteral c).advance c := by
  simp [step, h]

lemma step_doublePlaceholder (h : s.mode = .question) :
    s.step b '?' = (s.fail (.malformed .doublePlaceholder s.offset)).advance '?' := by
  simp [step, h, afterQuestion]

/-- Behind a question mark, a character first resolves the placeholder that it completes. -/
lemma step_of_question (hm : s.mode = .question) (hc : c ≠ '?') :
    s.step b c = (match ((s.withMode .plain).resolve b (completedBy c)).mode,
        Placeholder.ofSuffix? c with
      | .failed _, _ => (s.withMode .plain).resolve b (completedBy c)
      | _, some _ => (s.withMode .plain).resolve b (completedBy c)
      | _, none => ((s.withMode .plain).resolve b (completedBy c)).plain b c).advance c := by
  have hstep : s.step b c = (s.afterQuestion b c).advance c := by simp [step, hm]
  rw [hstep, afterQuestion, if_neg hc, completedBy, withMode]
  congr 1
  cases Placeholder.ofSuffix? c with
  | some p => simp only [Option.getD_some]; split <;> simp_all
  | none => simp only [Option.getD_none]; split <;> simp_all

/-- The placeholder that a character completes accepts its parameter. -/
def CompletesServed (params : List Value) (before : List Char) (c : Char) : Prop :=
  ∀ start, OpensPlaceholder start before → c ≠ '?' → IsServed params start (completedBy c)

lemma IsBehind.step_of_refused (h : s.IsBehind before) (ho : OpensPlaceholder start before)
    (hc : c ≠ '?') {error : ArgumentError}
    (he : errorBehind? b.params start (completedBy c) = some error) :
    (s.step b c).mode = .failed (.argument error) := by
  rw [step_of_question (h.mode_eq_question ho).1 hc, advance, h.mode_resolve ho he]
  exact h.mode_resolve ho he

lemma ofSuffix?_of_defectAt {defect : Defect} (hd : DefectAt before c defect) :
    Placeholder.ofSuffix? c = none := by
  cases hd <;> rfl

lemma IsBehind.step_of_defectAt (h : s.IsBehind before)
    (hp : CompletesServed b.params before c) {defect : Defect} (hd : DefectAt before c defect) :
    (s.step b c).mode = .failed (.malformed defect (Text.byteLength before)) := by
  rcases h.mode_cases with ⟨hready, hn⟩ | ⟨start, ho, hm, -⟩ | ⟨outside, -, hl, -, -⟩
  · have hc : c ≠ '?' := by
      rintro rfl
      cases hd with
      | doublePlaceholder ho _ => exact hn _ ho
    rw [step_of_plain hready.mode]
    exact hready.plain_of_defectAt hd hc
  · by_cases hc : c = '?'
    · subst hc
      cases hd with
      | doublePlaceholder _ _ => simp [step_doublePlaceholder hm, fail, advance, h.offset]
    · have hready := h.isReady_resolve ho (errorBehind?_eq_none_iff.2 (hp start ho hc))
      rw [step_of_question hm hc, hready.mode, ofSuffix?_of_defectAt hd]
      exact hready.plain_of_defectAt hd hc
  · exact absurd hd.isLive hl

lemma IsBehind.step_of_inLiteral (h : s.IsBehind before) {outside : List Char}
    (ho : OpensLiteral outside before) (hl : ¬IsLive before)
    (hm : s.mode = .literal (Text.byteLength outside)) (hn : s.bound = number before) :
    (s.step b c).IsBehind (before ++ [c]) := by
  have hoffset : s.offset + c.utf8Size = Text.byteLength (before ++ [c]) := by
    simp [h.offset, Text.byteLength_append, Text.byteLength]
  have hbound : s.bound = number (before ++ [c]) := by
    rw [number_concat, if_neg fun h => hl h.1, hn]
  have hblock : IsBlockStart (before ++ [c]) s.blockStart? := h.block.concat fun h => absurd h hl
  by_cases hc : c = '\''
  · have hstep : s.step b c = ((s.withMode .plain).emit [.source c]).advance c := by
      simp [step_of_literal hm, inLiteral, hc, withMode]
    have hlive : IsLive (before ++ [c]) := by simpa [isLive_concat, hc] using hl
    have hend : c ≠ '?' := hc ▸ by decide
    rw [hstep]
    refine ⟨by simpa [advance, withMode] using hoffset, ?_, ?_⟩
    · simp only [advance, emit_mode, emit_bound]
      exact ⟨hlive, fun _ => not_opensPlaceholder_concat hend, hbound⟩
    · rw [advance_blockStart?, emit_blockStart?]
      exact hblock
  · have hstep : s.step b c = (s.emit [.source c]).advance c := by
      simp [step_of_literal hm, inLiteral, hc]
    have hlive : ¬IsLive (before ++ [c]) := by simpa [isLive_concat, hc] using hl
    rw [hstep]
    refine ⟨by simpa [advance] using hoffset, ?_, by simpa using hblock⟩
    simp only [advance, emit_mode, emit_bound, hm]
    exact ⟨hlive, hbound, outside, opensLiteral_concat.2 (.inl ⟨ho, hc⟩), rfl⟩

lemma IsBehind.isBehind_step (h : s.IsBehind before)
    (hp : CompletesServed b.params before c) (hd : ∀ defect, ¬DefectAt before c defect) :
    (s.step b c).IsBehind (before ++ [c]) := by
  rcases h.mode_cases with ⟨hready, -⟩ | ⟨start, ho, hm, -⟩ | ⟨outside, ho, hl, hm, hn⟩
  · rw [step_of_plain hready.mode]
    exact hready.isBehind_plain hd
  · have hc : c ≠ '?' := by
      rintro rfl
      exact hd _ (.doublePlaceholder ho ho.isLive)
    have hready := h.isReady_resolve ho (errorBehind?_eq_none_iff.2 (hp start ho hc))
    rw [step_of_question hm hc, hready.mode]
    cases hsuffix : Placeholder.ofSuffix? c with
    | none => exact hready.isBehind_plain hd
    | some p =>
      obtain ⟨hq, hb⟩ := isBrace_of_ofSuffix? hsuffix
      exact hready.isBehind_advance hq hc hb
  · exact h.step_of_inLiteral ho hl hm hn

/-- What one character does behind a text in which every placeholder accepts its parameter. -/
lemma IsBehind.step_cases (h : s.IsBehind before)
    (hs : ∀ outside p, Asks before outside p → IsServed b.params outside p) (c : Char) :
    (∃ error, (s.step b c).mode = .failed (.argument error) ∧
        Raises b.params (before ++ [c]) error) ∨
      (∀ outside p, Asks (before ++ [c]) outside p → IsServed b.params outside p) ∧
        (∀ defect, DefectAt before c defect →
          (s.step b c).mode = .failed (.malformed defect (Text.byteLength before))) ∧
        ((∀ defect, ¬DefectAt before c defect) → (s.step b c).IsBehind (before ++ [c])) := by
  -- The placeholder that `c` completes comes first: a defect shows only behind it.
  by_cases hp : CompletesServed b.params before c
  · refine .inr ⟨fun outside p ha => ?_, fun defect hd => h.step_of_defectAt hp hd,
      h.isBehind_step hp⟩
    rcases asks_concat.1 ha with ha | ⟨ho, hc, rfl⟩
    · exact hs outside p ha
    · exact hp outside ho hc
  · simp only [CompletesServed, not_forall] at hp
    obtain ⟨start, ho, hc, hp⟩ := hp
    obtain ⟨error, he⟩ := Option.ne_none_iff_exists'.1 (mt errorBehind?_eq_none_iff.1 hp)
    refine .inl ⟨error, h.step_of_refused ho hc he, start, _, asks_concat.2 (.inr ⟨ho, hc, rfl⟩),
      he, fun outside p ha => hs outside p ?_⟩
    rw [ho.1]
    exact ha.append ['?']

/-! ### The end of a text -/

lemma finish_of_plain (hm : s.mode = .plain) (hb : s.block = none) : s.finish b = s := by
  simp [finish, hm, hb]

lemma finish_of_question (hm : s.mode = .question) (hb : s.block = none) :
    s.finish b = (s.withMode .plain).resolve b .generic := by
  simp [finish, hm, hb, withMode]

lemma IsBehind.finish_of_opensBlock (h : s.IsBehind cs) {outside : List Char}
    (ho : OpensBlock outside cs) :
    (s.finish b).mode = .failed (.malformed .unterminatedBlock (Text.byteLength outside)) := by
  obtain ⟨blk, hb⟩ : ∃ blk, s.block = some blk := by
    rw [← Option.isSome_iff_exists, ← isSome_blockStart?, h.block.isSome_iff]
    exact ⟨outside, ho⟩
  have hstart : blk.start = Text.byteLength outside := by
    have hblock := h.block
    rw [blockStart?, hb] at hblock
    obtain ⟨outside', ho', hstart⟩ := hblock
    rw [ho.unique ho']
    exact hstart
  rcases h.mode_cases with ⟨⟨hm⟩, -⟩ | ⟨start, -, hm, -⟩ | ⟨outside, -, -, hm, -⟩
  all_goals simp [finish, hm, hb, fail, hstart]

lemma block_eq_none (h : IsBlockStart cs s.blockStart?) (hn : ¬InOpenBlock cs) :
    s.block = none := by
  rw [← Option.not_isSome_iff_eq_none, ← isSome_blockStart?, h.isSome_iff]
  exact hn

lemma IsBehind.finish_of_opensLiteral (h : s.IsBehind cs) (hn : ¬InOpenBlock cs)
    (hl : ¬IsLive cs) {outside : List Char} (ho : OpensLiteral outside cs) :
    (s.finish b).mode = .failed (.malformed .unterminatedString (Text.byteLength outside)) := by
  have hb := block_eq_none h.block hn
  rcases h.mode_cases with ⟨hready, -⟩ | ⟨start, hq, -, -⟩ | ⟨outside', ho', -, hm, -⟩
  · exact absurd hready.live hl
  · exact absurd hq.isLive hl
  · simp [finish, hm, hb, fail, ho.unique ho']

/-! ### Reading a text -/

/-- A viable text is read to its end, unless one of its placeholders does not accept its
parameter. -/
theorem read_of_viable (b : Binding) (hv : Viable cs) :
    (∃ error, (initial.read b cs).mode = .failed (.argument error) ∧ Raises b.params cs error) ∨
      (initial.read b cs).IsBehind cs ∧
        ∀ outside p, Asks cs outside p → IsServed b.params outside p := by
  -- The text grows at its end, as the state is that of the text read so far.
  induction cs using List.reverseRecOn with
  | nil => exact .inr ⟨isBehind_initial, fun _ _ ha => absurd ha not_asks_nil⟩
  | append_singleton cs c ih =>
    obtain ⟨hv, hd⟩ := viable_concat.1 hv
    rw [read_append]
    rcases ih hv with ⟨error, hm, hr⟩ | ⟨h, hs⟩
    · rw [read_of_failed b _ [c] hm]
      exact .inl ⟨error, hm, hr.append [c]⟩
    · rcases h.step_cases hs c with he | ⟨hs, -, hstep⟩
      · exact .inl he
      · exact .inr ⟨hstep hd, hs⟩

/-- A defect makes a scan fail, unless a placeholder that it completes or that stands before it
does not accept its parameter. -/
theorem read_of_defectAt (b : Binding) (hv : Viable before) {c : Char} {defect : Defect}
    (hd : DefectAt before c defect) :
    (∃ error, (initial.read b (before ++ [c])).mode = .failed (.argument error) ∧
        Raises b.params (before ++ [c]) error) ∨
      (initial.read b (before ++ [c])).mode =
          .failed (.malformed defect (Text.byteLength before)) ∧
        ∀ outside p, Asks (before ++ [c]) outside p → IsServed b.params outside p := by
  rw [read_append]
  rcases read_of_viable b hv with ⟨error, hm, hr⟩ | ⟨h, hs⟩
  · rw [read_of_failed b _ [c] hm]
    exact .inl ⟨error, hm, hr.append [c]⟩
  · rcases h.step_cases hs c with he | ⟨hs, hstep, -⟩
    · exact .inl he
    · exact .inr ⟨hstep defect hd, hs⟩

/-- Whichever error it is, a scan has failed behind a defect. -/
lemma exists_failed_of_defectAt (b : Binding) (hv : Viable before) {c : Char} {defect : Defect}
    (hd : DefectAt before c defect) :
    ∃ error, (initial.read b (before ++ [c])).mode = .failed error := by
  rcases read_of_defectAt b hv hd with ⟨error, hm, -⟩ | ⟨hm, -⟩
  · exact ⟨_, hm⟩
  · exact ⟨_, hm⟩

end Scan

/-! ### Runs that end in a statement -/

variable {b : Binding} {template : String}

lemma statement_run_eq_error_iff {error : TemplateError} :
    (run b template).statement = .error error ↔
      ((Scan.initial.read b template.toList).finish b).mode = .failed error := by
  rw [run, runOn, Scan.toRun]
  cases ((Scan.initial.read b template.toList).finish b).mode <;> simp

lemma statement_run_of_read {error : TemplateError}
    (h : (Scan.initial.read b template.toList).mode = .failed error) :
    (run b template).statement = .error error :=
  statement_run_eq_error_iff.2 (by simp [Scan.finish, h])

/-- A text whose reading fails makes a run of every template fail that starts with it. -/
lemma statement_run_of_read_isPrefix {error : TemplateError} {cs : List Char}
    (hp : cs <+: template.toList) (h : (Scan.initial.read b cs).mode = .failed error) :
    (run b template).statement = .error error := by
  obtain ⟨rest, he⟩ := hp
  apply statement_run_of_read
  rw [← he, Scan.read_append, Scan.read_of_failed b _ rest h, h]

lemma wellFormed_of_statement_eq_ok {ps : List Piece} (h : (run b template).statement = .ok ps) :
    WellFormed template.toList :=
  (wellFormed_iff_exists_parts template).2 (exists_parts_of_statement_eq_ok h)

/-- A run that ends in a statement has read its whole template and has no block open. -/
theorem isBehind_of_statement_eq_ok {ps : List Piece} (h : (run b template).statement = .ok ps) :
    (Scan.initial.read b template.toList).IsBehind template.toList ∧
      (Scan.initial.read b template.toList).block = none := by
  obtain ⟨hv, hn, -⟩ := (wellFormed_iff_viable _).1 (wellFormed_of_statement_eq_ok h)
  rcases Scan.read_of_viable b hv with ⟨error, hm, -⟩ | ⟨hbehind, -⟩
  · rw [statement_run_of_read hm] at h
    cases h
  · exact ⟨hbehind, Scan.block_eq_none hbehind.block hn⟩

/-- At the end of its template, a run that ends in a statement has resolved every placeholder. -/
theorem isReady_of_statement_eq_ok {ps : List Piece} (h : (run b template).statement = .ok ps) :
    ((Scan.initial.read b template.toList).finish b).IsReady template.toList ∧
      ((Scan.initial.read b template.toList).finish b).block = none := by
  obtain ⟨-, hn, hl⟩ := (wellFormed_iff_viable _).1 (wellFormed_of_statement_eq_ok h)
  obtain ⟨hbehind, hb⟩ := isBehind_of_statement_eq_ok h
  suffices hready : ((Scan.initial.read b template.toList).finish b).IsReady template.toList from
    ⟨hready, Scan.block_eq_none hready.block hn⟩
  rcases hbehind.mode_cases with ⟨hready, -⟩ | ⟨start, ho, hm, -⟩ | ⟨outside, -, hquote, -, -⟩
  · rw [Scan.finish_of_plain hready.mode hb]
    exact hready
  · have hfinish := Scan.finish_of_question (b := b) hm hb
    cases hp : errorBehind? b.params start .generic with
    | some error =>
      have hfail := hbehind.mode_resolve ho hp
      rw [← hfinish] at hfail
      rw [statement_run_eq_error_iff.2 hfail] at h
      cases h
    | none =>
      rw [hfinish]
      exact hbehind.isReady_resolve ho hp
  · exact absurd hl hquote

end QueryTemplate.Template
