import QueryTemplate.Proofs.Offsets

/-!
# Contents of literals

The characters between the quotes of a literal decide nothing. A scan that reads a literal goes on
as one that has not met it, with its characters among the pieces and with the offsets behind it
moved by its length. Two templates that differ in the content of a literal are rendered to
statements that differ in the copy of it, or they fail with the same error.
-/

namespace QueryTemplate

/-- An offset of a text as it stands when `bytes` bytes are put in at `mark`. -/
def moveOffset (mark bytes k : Nat) : Nat := if mark ≤ k then k + bytes else k

def TemplateError.movedAt (mark bytes : Nat) : TemplateError → TemplateError
  | .malformed defect k => .malformed defect (moveOffset mark bytes k)
  | .argument error => .argument error

namespace Template

/-! ### A literal that is put in -/

def Mode.movedAt (mark bytes : Nat) : Mode → Mode
  | .literal start => .literal (moveOffset mark bytes start)
  | .failed error => .failed (error.movedAt mark bytes)
  | m => m

def Drop.movedAt (mark bytes : Nat) (d : Drop) : Drop :=
  ⟨moveOffset mark bytes d.start, moveOffset mark bytes d.stop⟩

/-- A block that was left out has the given offset inside. -/
def Drop.Encloses (mark : Nat) (d : Drop) : Prop := d.start < mark ∧ mark ≤ d.stop

/-- Where a literal stands among the pieces that a scan has written. -/
inductive Spot where
  /-- Behind the first `i` pieces of the statement. -/
  | statement (i : Nat)
  /-- Behind the first `i` pieces of the open block. -/
  | block (i : Nat)
  /-- In a block that was left out. -/
  | gone

namespace Spot

def inStatement : Spot → Option Nat
  | statement i => some i
  | _ => none

def inBlock : Spot → Option Nat
  | block i => some i
  | _ => none

end Spot

/-- Pieces with a text put in behind the first `i` of them, or as they are without a place. -/
def putIn (text : List Char) (place : Option Nat) (pieces : Array Piece) : Array Piece :=
  match place with
  | some i =>
    (pieces.toList.take i ++ text.map Piece.source ++ pieces.toList.drop i).toArray
  | none => pieces

lemma putIn_none (text : List Char) (pieces : Array Piece) : putIn text none pieces = pieces := rfl

lemma putIn_append {text : List Char} {place : Option Nat} {pieces : Array Piece}
    (h : ∀ i ∈ place, i ≤ pieces.size) (more : Array Piece) :
    putIn text place pieces ++ more = putIn text place (pieces ++ more) := by
  cases place with
  | none => rfl
  | some i =>
    have hi : i ≤ pieces.toList.length := h i rfl
    apply Array.ext'
    simp [putIn, List.take_append_of_le_length hi, List.drop_append_of_le_length hi]

lemma putIn_appendList {text : List Char} {place : Option Nat} {pieces : Array Piece}
    (h : ∀ i ∈ place, i ≤ pieces.size) (more : List Piece) :
    putIn text place pieces ++ more = putIn text place (pieces ++ more) := by
  have hmore : ∀ xs : Array Piece, xs ++ more = xs ++ more.toArray :=
    fun xs => Array.ext' (by simp)
  rw [hmore, hmore, putIn_append h]

lemma size_appendList (pieces : Array Piece) (more : List Piece) :
    (pieces ++ more).size = pieces.size + more.length := by
  rw [← Array.length_toList, Array.toList_appendList, List.length_append, Array.length_toList]

lemma append_putIn (text : List Char) (i : Nat) (pieces more : Array Piece) :
    pieces ++ putIn text (some i) more = putIn text (some (pieces.size + i)) (pieces ++ more) := by
  have hlength : pieces.toList.length ≤ pieces.size + i := Nat.le_add_right ..
  apply Array.ext'
  simp [putIn, List.take_append, List.drop_append, List.take_of_length_le hlength,
    List.drop_of_length_le hlength]

def Block.inlay (mark : Nat) (text : List Char) (place : Option Nat) (blk : Block Piece) : Block Piece :=
  ⟨moveOffset mark (Text.byteLength text) blk.start, putIn text place blk.pieces, blk.values⟩

namespace Scan

/-- The scan of a text with a literal put in at `mark`, which stands at the given spot. -/
def inlay (mark : Nat) (text : List Char) (spot : Spot) (s : Scan Piece) : Scan Piece where
  mode := s.mode.movedAt mark (Text.byteLength text)
  offset := moveOffset mark (Text.byteLength text) s.offset
  bound := s.bound
  block := s.block.map (Block.inlay mark text spot.inBlock)
  pieces := putIn text spot.inStatement s.pieces
  dropped := s.dropped
  events := s.events.map (Event.onDrop (Drop.movedAt mark (Text.byteLength text)))
  calls := s.calls

/-- A spot fits a scan: the literal stands among the pieces of the statement, of a block that
encloses it, or of none because such a block was left out. -/
def Fits (mark : Nat) (s : Scan Piece) : Spot → Prop
  | .statement i => i ≤ s.pieces.size ∧ (∀ blk, s.block = some blk → mark ≤ blk.start) ∧
      ∀ d ∈ s.drops, ¬d.Encloses mark
  | .block i => (∃ blk, s.block = some blk ∧ i ≤ blk.pieces.size ∧ blk.start < mark) ∧
      ∀ d ∈ s.drops, ¬d.Encloses mark
  | .gone => ∃ d ∈ s.drops, d.Encloses mark

variable {mark : Nat} {spot : Spot} {b : Binding} {s t : Scan Piece} {c : Char}

lemma Fits.withMode (h : s.Fits mark spot) (m : Mode) : (s.withMode m).Fits mark spot := by
  cases spot <;> exact h

lemma Fits.advance (h : s.Fits mark spot) (c : Char) : (s.advance c).Fits mark spot := by
  cases spot <;> exact h

lemma Fits.bindNext (h : s.Fits mark spot) : s.bindNext.Fits mark spot := by
  cases spot <;> exact h

lemma Fits.emit (h : s.Fits mark spot) (ps : List Piece) : (s.emit ps).Fits mark spot := by
  have hle : ∀ {i : Nat} {xs : Array Piece}, i ≤ xs.size → i ≤ (xs ++ ps).size := by
    intro i xs hi
    rw [size_appendList]
    exact Nat.le_add_right_of_le hi
  cases spot with
  | statement i =>
    obtain ⟨hi, hb, hd⟩ := h
    cases hs : s.block with
    | none =>
      refine ⟨?_, by simp [Scan.emit, hs], by simpa using hd⟩
      simpa only [Scan.emit, hs, Medium.output_writeAll_piece] using hle hi
    | some blk =>
      refine ⟨?_, ?_, by simpa using hd⟩
      · simpa [Scan.emit, hs] using hi
      · simpa [Scan.emit, hs] using hb blk hs
  | block i =>
    obtain ⟨⟨blk, hs, hi, hlt⟩, hd⟩ := h
    exact ⟨⟨{ blk with pieces := blk.pieces ++ ps }, by simp [Scan.emit, hs], hle hi, hlt⟩,
      by simpa using hd⟩
  | gone => simpa [Fits] using h

lemma Fits.record (h : s.Fits mark spot) (v : Value) : (s.record v).Fits mark spot := by
  cases spot with
  | statement i =>
    obtain ⟨hi, hb, hd⟩ := h
    cases hs : s.block with
    | none =>
      refine ⟨?_, by simp [Scan.record, hs], by simpa using hd⟩
      simpa [Scan.record, hs] using hi
    | some blk =>
      refine ⟨?_, ?_, by simpa using hd⟩
      · simpa [Scan.record, hs] using hi
      · simpa [Scan.record, hs] using hb blk hs
  | block i =>
    obtain ⟨⟨blk, hs, hi, hlt⟩, hd⟩ := h
    exact ⟨⟨{ blk with values := blk.values.push v }, by simp [Scan.record, hs], hi, hlt⟩,
      by simpa using hd⟩
  | gone => simpa [Fits] using h

lemma Fits.resolve (h : s.Fits mark spot) (p : Placeholder) :
    (s.resolve b p).Fits mark spot := by
  cases hv : b.params[s.bound]? with
  | none =>
    rw [resolve_of_missing hv]
    exact h.withMode _
  | some v =>
    rw [resolve_of_param hv]
    exact ((h.bindNext.record v).emit _).withMode _

lemma Fits.openBlock (h : s.Fits mark spot) (ho : mark ≤ s.offset) :
    s.openBlock.Fits mark spot := by
  cases hs : s.block with
  | some blk =>
    simp only [Scan.openBlock, hs]
    exact h.withMode _
  | none =>
    simp only [Scan.openBlock, hs]
    cases spot with
    | statement i =>
      obtain ⟨hi, -, hd⟩ := h
      exact ⟨hi, fun blk he => Option.some.inj he ▸ ho, hd⟩
    | block i =>
      obtain ⟨⟨blk, hb, -⟩, -⟩ := h
      rw [hs] at hb
      cases hb
    | gone => exact h

/-! ### Steps of a scan with a literal put in -/

variable {text : List Char}

lemma inlay_mode_of_failed {e : TemplateError} (h : s.mode = .failed e) :
    (s.inlay mark text spot).mode = .failed (e.movedAt mark (Text.byteLength text)) := by
  rw [inlay, h, Mode.movedAt]

lemma inlay_advance (ho : mark ≤ s.offset) (c : Char) :
    (s.inlay mark text spot).advance c = (s.advance c).inlay mark text spot := by
  have hmoved : moveOffset mark (Text.byteLength text) s.offset + c.utf8Size =
      moveOffset mark (Text.byteLength text) (s.offset + c.utf8Size) := by
    rw [moveOffset, moveOffset, if_pos ho, if_pos (Nat.le_add_right_of_le ho)]
    omega
  simp [inlay, advance, hmoved]

lemma inlay_record (v : Value) (s : Scan Piece) :
    (s.inlay mark text spot).record v = (s.record v).inlay mark text spot := by
  cases hb : s.block <;> simp [inlay, record, hb, Block.inlay]

lemma inlay_emit (h : s.Fits mark spot) (ps : List Piece) :
    (s.inlay mark text spot).emit ps = (s.emit ps).inlay mark text spot := by
  cases hs : s.block with
  | none =>
    have hi : ∀ i ∈ spot.inStatement, i ≤ s.pieces.size := by
      cases spot with
      | statement i => rintro _ ⟨⟩; exact h.1
      | block i => rintro _ ⟨⟩
      | gone => rintro _ ⟨⟩
    simp [inlay, emit, hs, putIn_appendList hi]
  | some blk =>
    have hi : ∀ i ∈ spot.inBlock, i ≤ blk.pieces.size := by
      cases spot with
      | statement i => rintro _ ⟨⟩
      | block i =>
        rintro _ ⟨⟩
        obtain ⟨⟨blk', hb, hi, -⟩, -⟩ := h
        rw [hs] at hb
        cases hb
        exact hi
      | gone => rintro _ ⟨⟩
    simp [inlay, emit, hs, Block.inlay, putIn_appendList hi]

lemma inlay_resolve (h : s.Fits mark spot) (p : Placeholder) :
    (s.inlay mark text spot).resolve b p = (s.resolve b p).inlay mark text spot := by
  have hparam : b.params[(s.inlay mark text spot).bound]? = b.params[s.bound]? := rfl
  cases hv : b.params[s.bound]? with
  | none =>
    rw [resolve_of_missing hv, resolve_of_missing (hparam.trans hv)]
    rfl
  | some v =>
    have hbind : (s.inlay mark text spot).bindNext = s.bindNext.inlay mark text spot := rfl
    rw [resolve_of_param hv, resolve_of_param (hparam.trans hv), hbind, inlay_record,
      inlay_emit (h.bindNext.record v)]
    cases (p.render v).refusal? <;> rfl

lemma inlay_openBlock (h : s.Fits mark spot) :
    (s.inlay mark text spot).openBlock = s.openBlock.inlay mark text spot := by
  cases hs : s.block with
  | some blk => simp [inlay, openBlock, hs, fail, Mode.movedAt, TemplateError.movedAt]
  | none =>
    have hblock : spot.inBlock = none := by
      cases spot with
      | block i =>
        obtain ⟨⟨blk, hb, -⟩, -⟩ := h
        rw [hs] at hb
        cases hb
      | statement i => rfl
      | gone => rfl
    simp [inlay, openBlock, hs, Block.inlay, hblock, putIn]

lemma inlay_block {blk : Block Piece} (hs : s.block = some blk) :
    (s.inlay mark text spot).block = some (blk.inlay mark text spot.inBlock) := by
  rw [inlay, hs, Option.map_some]

lemma exists_inlay_of_isKept (h : s.Fits mark spot) {blk : Block Piece} (hs : s.block = some blk)
    {skip : Value} (hk : blk.isKept skip = true) :
    ∃ spot', (s.closeBlock skip).Fits mark spot' ∧ ∀ text,
      (s.inlay mark text spot).closeBlock skip = (s.closeBlock skip).inlay mark text spot' := by
  have hinlay : ∀ text spot',
      putIn text spot.inStatement s.pieces ++ putIn text spot.inBlock blk.pieces =
        putIn text spot'.inStatement (s.pieces ++ blk.pieces) →
      (s.inlay mark text spot).closeBlock skip = (s.closeBlock skip).inlay mark text spot' := by
    intro text spot' hpieces
    rw [closeBlock_of_isKept (inlay_block hs) hk, closeBlock_of_isKept hs hk, inlay, inlay,
      ← hpieces]
    rfl
  rw [closeBlock_of_isKept hs hk] at hinlay ⊢
  cases spot with
  | statement i =>
    obtain ⟨hi, -, hd⟩ := h
    refine ⟨.statement i, ⟨?_, fun _ he => (by cases he), hd⟩, fun text => hinlay text _ ?_⟩
    · rw [Array.size_append]
      exact Nat.le_add_right_of_le hi
    · exact putIn_append (by rintro _ ⟨⟩; exact hi) blk.pieces
  | block i =>
    obtain ⟨⟨blk', hb, hi, -⟩, hd⟩ := h
    obtain rfl : blk' = blk := Option.some.inj (hb.symm.trans hs)
    -- A block that stays takes the literal in it to the statement.
    refine ⟨.statement (s.pieces.size + i), ⟨?_, fun _ he => (by cases he), hd⟩,
      fun text => hinlay text _ ?_⟩
    · rw [Array.size_append]
      exact Nat.add_le_add_left hi _
    · exact append_putIn text i s.pieces blk'.pieces
  | gone => exact ⟨.gone, h, fun text => hinlay text _ rfl⟩

lemma exists_inlay_of_not_isKept (h : s.Fits mark spot) (ho : mark ≤ s.offset) {blk : Block Piece}
    (hs : s.block = some blk) {skip : Value} (hk : ¬blk.isKept skip = true) :
    ∃ spot', (s.closeBlock skip).Fits mark spot' ∧ ∀ text,
      (s.inlay mark text spot).closeBlock skip = (s.closeBlock skip).inlay mark text spot' := by
  have hinlay : ∀ text spot', spot'.inStatement = spot.inStatement →
      (s.inlay mark text spot).closeBlock skip = (s.closeBlock skip).inlay mark text spot' := by
    intro text spot' hspot
    rw [closeBlock_of_not_isKept (inlay_block hs) hk, closeBlock_of_not_isKept hs hk, inlay, inlay,
      hspot, Array.map_push]
    rfl
  have hdrops : (s.closeBlock skip).drops = s.drops ++ [⟨blk.start, s.offset⟩] := by
    rw [closeBlock_of_not_isKept hs hk]
    exact drops_of_push rfl
  rw [closeBlock_of_not_isKept hs hk] at hinlay hdrops ⊢
  cases spot with
  | statement i =>
    obtain ⟨hi, hb, hd⟩ := h
    have hafter : ¬Drop.Encloses mark ⟨blk.start, s.offset⟩ :=
      fun he => Nat.not_lt.2 (hb blk hs) he.1
    refine ⟨.statement i, ⟨hi, fun _ he => (by cases he), fun d hd' => ?_⟩,
      fun text => hinlay text _ rfl⟩
    rw [hdrops, List.mem_append, List.mem_singleton] at hd'
    rcases hd' with hd' | rfl
    · exact hd d hd'
    · exact hafter
  | block i =>
    obtain ⟨⟨blk', hb, -, hlt⟩, -⟩ := h
    obtain rfl : blk' = blk := Option.some.inj (hb.symm.trans hs)
    -- A block that is left out takes the literal in it along.
    refine ⟨.gone, ⟨⟨blk'.start, s.offset⟩, ?_, hlt, ho⟩, fun text => hinlay text _ rfl⟩
    rw [hdrops]
    exact List.mem_append_right _ (List.mem_singleton_self _)
  | gone =>
    obtain ⟨d, hd, he⟩ := h
    refine ⟨.gone, ⟨d, ?_, he⟩, fun text => hinlay text _ rfl⟩
    rw [hdrops]
    exact List.mem_append_left _ hd

lemma exists_inlay_closeBlock (h : s.Fits mark spot) (ho : mark ≤ s.offset) (skip : Value) :
    ∃ spot', (s.closeBlock skip).Fits mark spot' ∧ ∀ text,
      (s.inlay mark text spot).closeBlock skip = (s.closeBlock skip).inlay mark text spot' := by
  cases hs : s.block with
  | none =>
    refine ⟨spot, ?_, fun text => ?_⟩
    · simp only [closeBlock, hs]
      exact h.withMode _
    · simp [inlay, closeBlock, hs, fail, Mode.movedAt, TemplateError.movedAt]
  | some blk =>
    by_cases hk : blk.isKept skip = true
    · exact exists_inlay_of_isKept h hs hk
    · exact exists_inlay_of_not_isKept h ho hs hk

lemma exists_inlay_plain (h : s.Fits mark spot) (ho : mark ≤ s.offset) (c : Char) :
    ∃ spot', (s.plain b c).Fits mark spot' ∧ ∀ text,
      (s.inlay mark text spot).plain b c = (s.plain b c).inlay mark text spot' := by
  unfold plain
  split
  · exact ⟨spot, h.withMode .question, fun _ => rfl⟩
  · have hquote := h.withMode (.literal s.offset)
    exact ⟨spot, hquote.emit _, fun text => inlay_emit hquote _⟩
  · exact ⟨spot, h.openBlock ho, fun text => inlay_openBlock h⟩
  · exact exists_inlay_closeBlock h ho b.skip
  · exact ⟨spot, h.emit _, fun text => inlay_emit h _⟩

lemma inlay_inLiteral (h : s.Fits mark spot) (c : Char) :
    (s.inLiteral c).Fits mark spot ∧ ∀ text,
      (s.inlay mark text spot).inLiteral c = (s.inLiteral c).inlay mark text spot := by
  unfold inLiteral
  split
  · have hplain := h.withMode .plain
    exact ⟨hplain.emit _, fun _ => inlay_emit hplain _⟩
  · exact ⟨h.emit _, fun _ => inlay_emit h _⟩

lemma exists_inlay_question (h : s.Fits mark spot) (ho : mark ≤ s.offset)
    (hm : s.mode = .question) (c : Char) :
    ∃ spot', (s.step b c).Fits mark spot' ∧ ∀ text,
      (s.inlay mark text spot).step b c = (s.step b c).inlay mark text spot' := by
  have hinlay : ∀ text, (s.inlay mark text spot).mode = .question := by
    simp [inlay, hm, Mode.movedAt]
  by_cases hc : c = '?'
  · subst hc
    rw [step_doublePlaceholder hm]
    refine ⟨spot, (h.withMode _).advance '?', fun text => ?_⟩
    rw [step_doublePlaceholder (hinlay text), ← inlay_advance (by simpa [fail] using ho)]
    rfl
  · have hplain := h.withMode .plain
    have hresolve : ∀ text, ((s.inlay mark text spot).withMode .plain).resolve b (completedBy c) =
        ((s.withMode .plain).resolve b (completedBy c)).inlay mark text spot :=
      fun text => inlay_resolve hplain (completedBy c)
    have hfits := hplain.resolve (b := b) (completedBy c)
    have hsettled := isSettled_resolve (b := b) (s := s.withMode .plain) rfl (completedBy c)
    have ho' : mark ≤ ((s.withMode .plain).resolve b (completedBy c)).offset := by
      rwa [resolve_offset]
    rw [step_of_question hm hc]
    simp only [step_of_question (hinlay _) hc, hresolve]
    generalize (s.withMode .plain).resolve b (completedBy c) = r at hfits hsettled ho'
    rcases hsettled with hr | ⟨e, hr⟩
    · have hinlay' : ∀ text, (r.inlay mark text spot).mode = .plain := by
        simp [inlay, hr, Mode.movedAt]
      simp only [hr, hinlay']
      cases Placeholder.ofSuffix? c with
      | some p => exact ⟨spot, hfits.advance c, fun text => inlay_advance ho' c⟩
      | none =>
        obtain ⟨spot', hfits', hplain'⟩ := exists_inlay_plain (b := b) hfits ho' c
        refine ⟨spot', hfits'.advance c, fun text => ?_⟩
        rw [hplain', inlay_advance (by rwa [(plain_account b r c).offset])]
    · simp only [hr, inlay_mode_of_failed hr]
      exact ⟨spot, hfits.advance c, fun text => inlay_advance ho' c⟩

/-- A step behind a literal does what it does without the literal. -/
lemma exists_inlay_step (h : s.Fits mark spot) (ho : mark ≤ s.offset) (c : Char) :
    ∃ spot', (s.step b c).Fits mark spot' ∧ ∀ text,
      (s.inlay mark text spot).step b c = (s.step b c).inlay mark text spot' := by
  cases hm : s.mode with
  | failed e =>
    refine ⟨spot, by rwa [step_of_failed hm], fun text => ?_⟩
    rw [step_of_failed hm, step_of_failed (inlay_mode_of_failed hm)]
  | plain =>
    have hinlay : ∀ text, (s.inlay mark text spot).mode = .plain := by simp [inlay, hm, Mode.movedAt]
    obtain ⟨spot', hfits, hplain⟩ := exists_inlay_plain (b := b) h ho c
    rw [step_of_plain hm]
    refine ⟨spot', hfits.advance c, fun text => ?_⟩
    rw [step_of_plain (hinlay text), hplain,
      inlay_advance (by rwa [(plain_account b s c).offset])]
  | literal start =>
    have hinlay : ∀ text, (s.inlay mark text spot).mode =
        .literal (moveOffset mark (Text.byteLength text) start) := by simp [inlay, hm, Mode.movedAt]
    obtain ⟨hfits, hliteral⟩ := inlay_inLiteral h c
    rw [step_of_literal hm]
    refine ⟨spot, hfits.advance c, fun text => ?_⟩
    rw [step_of_literal (hinlay text), hliteral,
      inlay_advance (by rwa [(inLiteral_account s c).offset])]
  | question => exact exists_inlay_question h ho hm c

lemma le_step_offset (ho : mark ≤ s.offset) (c : Char) : mark ≤ (s.step b c).offset := by
  rcases step_offset b s c with h | h
  · rwa [h]
  · rw [h]
    exact Nat.le_add_right_of_le ho

lemma exists_inlay_read (h : s.Fits mark spot) (ho : mark ≤ s.offset) (cs : List Char) :
    ∃ spot', (s.read b cs).Fits mark spot' ∧ ∀ text,
      (s.inlay mark text spot).read b cs = (s.read b cs).inlay mark text spot' := by
  induction cs generalizing s spot with
  | nil => exact ⟨spot, h, fun _ => rfl⟩
  | cons c cs ih =>
    obtain ⟨between, hfits, hstep⟩ := exists_inlay_step (b := b) h ho c
    obtain ⟨spot', hfits', hread⟩ := ih hfits (le_step_offset ho c)
    refine ⟨spot', hfits', fun text => ?_⟩
    rw [read_cons, hstep, hread]
    rfl

lemma inlay_finish (h : s.Fits mark spot) :
    (s.finish b).Fits mark spot ∧ ∀ text,
      (s.inlay mark text spot).finish b = (s.finish b).inlay mark text spot := by
  by_cases hq : s.mode = .question ∧ s.block = none
  · have hplain := h.withMode .plain
    have hmode : ∀ text, (s.inlay mark text spot).mode = .question := by
      simp [inlay, hq.1, Mode.movedAt]
    have hblock : ∀ text, (s.inlay mark text spot).block = none := by simp [inlay, hq.2]
    refine ⟨?_, fun text => ?_⟩
    · rw [finish_of_question hq.1 hq.2]
      exact hplain.resolve .generic
    · rw [finish_of_question hq.1 hq.2, finish_of_question (hmode text) (hblock text)]
      exact inlay_resolve hplain .generic
  · refine ⟨?_, fun text => ?_⟩
    · rcases finish_cases b s with he | ⟨blk, -, he⟩ | ⟨start, -, he⟩ | he
      · rwa [he]
      · rw [he]
        exact h.withMode _
      · rw [he]
        exact h.withMode _
      · rw [he]
        exact (h.withMode .plain).resolve .generic
    · cases hm : s.mode <;> cases hb : s.block <;>
        simp_all [finish, inlay, Mode.movedAt, TemplateError.movedAt, fail, Block.inlay]

/-- A literal is read as if it were put in at the place where it stands. -/
lemma exists_takeToken_literal (hm : s.mode = .plain) (ho : s.offset = mark)
    (hn : s.Offsets (· < mark)) :
    ∃ spot, s.Fits mark spot ∧ ∀ content, s.takeToken b (.item (.literal content)) =
      s.inlay mark (Item.literal content).text spot := by
  have hmoved : ∀ {bytes k : Nat}, k < mark → moveOffset mark bytes k = k := by
    intro bytes k hk
    rw [moveOffset, if_neg (Nat.not_le.2 hk)]
  have hend : ∀ bytes, moveOffset mark bytes s.offset = s.offset + bytes := by
    intro bytes
    rw [moveOffset, if_pos (Nat.le_of_eq ho.symm)]
  have hevents : ∀ bytes, s.events.map (Event.onDrop (Drop.movedAt mark bytes)) = s.events := by
    intro bytes
    apply Array.ext'
    rw [Array.toList_map]
    refine (List.map_congr_left fun event he => Event.onDrop_eq_self fun d hd => ?_).trans
      (List.map_id _)
    obtain ⟨hstart, hstop⟩ := hn.drops d (List.mem_filterMap.2 ⟨event, he, hd⟩)
    rw [Drop.movedAt, hmoved hstart, hmoved hstop]
  have hcalls : ∀ content : List Char, (content.map Piece.source).filterMap Piece.call? = [] := by
    intro content
    simp [Piece.call?]
  have hnot : ∀ d ∈ s.drops, ¬d.Encloses mark :=
    fun d hd he => Nat.not_le.2 (hn.drops d hd).2 he.2
  have hlast : ∀ (xs : Array Piece) (text : List Char),
      putIn text (some xs.size) xs = xs ++ text.map Piece.source :=
    fun xs text => Array.ext' (by simp [putIn, ← Array.length_toList])
  cases hs : s.block with
  | none =>
    refine ⟨.statement s.pieces.size, ⟨Nat.le_refl _, fun blk hb => ?_, hnot⟩, fun content => ?_⟩
    · rw [hs] at hb
      cases hb
    · simp [takeToken, hm, takeItem, Token.text, emit, hs, moveBy, inlay, hend, hevents, hcalls, Mode.movedAt,
        Spot.inStatement, hlast]
  | some blk =>
    refine ⟨.block blk.pieces.size, ⟨⟨blk, hs, Nat.le_refl _, hn.block blk hs⟩, hnot⟩,
      fun content => ?_⟩
    simp [takeToken, hm, takeItem, Token.text, emit, hs, moveBy, inlay, hend, hevents, hcalls, Mode.movedAt,
      Spot.inStatement, Spot.inBlock, putIn_none, hlast, Block.inlay, hmoved (hn.block blk hs)]

/-- In front of a quote outside literals, a scan has resolved the placeholder in which the text
before it ends, or it has failed. -/
lemma exists_outcome_quote (b : Binding) {cs : List Char} (hl : IsLive cs) :
    ∃ s : Scan Piece, s.IsSettled ∧ (s.mode = .plain → s.offset = Text.byteLength cs) ∧
      s.Offsets (· < Text.byteLength cs) ∧
      ∀ rest, (initial.read b cs).outcome b ('\'' :: rest) = s.outcome b ('\'' :: rest) := by
  have hn : (initial.read b cs).Offsets (· < Text.byteLength cs) :=
    (offsets_initial _).read cs fun k _ hk => by simpa [initial] using hk
  rcases viable_or_exists_defectAt cs with hv | ⟨before, c, after, defect, he, hv, hd⟩
  · rcases read_of_viable b hv with ⟨error, hm, -⟩ | ⟨hbehind, -⟩
    · exact ⟨_, .inr ⟨_, hm⟩, fun hp => by simp [hm] at hp, hn, fun _ => rfl⟩
    · rcases hbehind.mode_cases with ⟨hready, -⟩ | ⟨start, -, hm, -⟩ | ⟨outside, -, hq, -, -⟩
      · exact ⟨_, .inl hready.mode, fun _ => hbehind.offset, hn, fun _ => rfl⟩
      · refine ⟨((initial.read b cs).withMode .plain).resolve b .generic,
          isSettled_resolve rfl .generic, fun _ => ?_,
          (hn.withMode (m := .plain) trivial).resolve .generic, fun rest => ?_⟩
        · rw [resolve_offset]
          exact hbehind.offset
        · have hquestion : initial.read b cs =
              ((initial.read b cs).withMode .plain).withMode .question := (withMode_self hm).symm
          conv_lhs => rw [hquestion]
          exact outcome_question_cons rfl ⟨by decide, rfl⟩
      · exact absurd hl hq
  · obtain ⟨error, hm⟩ := exists_failed_of_defectAt b hv hd
    have hread : (initial.read b cs).mode = .failed error := by
      rw [he, List.append_cons, read_append, read_of_failed b _ after hm, hm]
    exact ⟨_, .inr ⟨_, hread⟩, fun hp => by simp [hread] at hp, hn, fun _ => rfl⟩

/-- A finished scan has failed, or it has no block open. -/
lemma block_finish (b : Binding) (s : Scan Piece) :
    (∃ error, (s.finish b).mode = .failed error) ∨ (s.finish b).block = none := by
  by_cases hq : s.mode = .question ∧ s.block = none
  · rw [finish_of_question hq.1 hq.2, ← Option.not_isSome_iff_eq_none, isSome_block_resolve]
    simp [withMode, hq.2]
  · cases hm : s.mode <;> cases hb : s.block <;> simp_all [finish, fail]

/-- A run behind a live text goes on behind a literal as it does without the literal. -/
theorem exists_outcome_literal (b : Binding) {cs : List Char} (hl : IsLive cs)
    (post : List Char) :
    ∃ s : Scan Piece, (s.Offsets (· < Text.byteLength cs) ∧ (∃ error, s.mode = .failed error) ∧
        ∀ content, '\'' ∉ content →
          initial.outcome b (cs ++ (Item.literal content).text ++ post) = s.toRun) ∨
      (s.Offsets (· < Text.byteLength cs + Text.byteLength post) ∧
        ((∃ error, s.mode = .failed error) ∨ s.block = none) ∧
        ∃ spot, s.Fits (Text.byteLength cs) spot ∧ ∀ content, '\'' ∉ content →
          initial.outcome b (cs ++ (Item.literal content).text ++ post) =
            (s.inlay (Text.byteLength cs) (Item.literal content).text spot).toRun) := by
  obtain ⟨s, hsettled, ho, hn, houtcome⟩ := exists_outcome_quote b hl
  have hquote : ∀ content, initial.outcome b (cs ++ (Item.literal content).text ++ post) =
      s.outcome b ((Item.literal content).text ++ post) := by
    intro content
    rw [List.append_assoc, outcome_append]
    exact houtcome _
  rcases hsettled with hm | ⟨error, hm⟩
  · obtain ⟨spot, hfits, hliteral⟩ := exists_takeToken_literal (b := b) hm (ho hm) hn
    obtain ⟨spot', hfits', hread⟩ :=
      exists_inlay_read (b := b) hfits (Nat.le_of_eq (ho hm).symm) post
    obtain ⟨hfinished, hfinish⟩ := inlay_finish (b := b) hfits'
    refine ⟨(s.read b post).finish b, .inr ⟨?_, block_finish b _, spot', hfinished,
      fun content hq => ?_⟩⟩
    · have hbefore : s.Offsets (· < Text.byteLength cs + Text.byteLength post) :=
        hn.mono fun _ hk => Nat.lt_add_right _ hk
      exact (hbefore.read post fun k _ hk => by rwa [ho hm] at hk).finish
    · have htext : (Item.literal content).text = '\'' :: (content ++ ['\'']) := rfl
      rw [hquote, outcome_append, htext, read_literal hm hq, hliteral, outcome, hread, hfinish]
      rfl
  · exact ⟨s, .inl ⟨hn, ⟨error, hm⟩, fun content _ => by rw [hquote, outcome_of_failed hm]⟩⟩

end Scan

/-! ### Runs -/

/-- A text between quotes. -/
def quoted (content : String) : String := "'" ++ content ++ "'"

lemma toList_quoted (content : String) :
    (quoted content).toList = (Item.literal content.toList).text := by
  simp [quoted, Item.text]

lemma encloses_movedAt {mark bytes : Nat} {d : Drop} :
    (d.movedAt mark bytes).Encloses mark ↔ d.Encloses mark := by
  simp only [Drop.Encloses, Drop.movedAt, moveOffset]
  split <;> split <;> omega

/-- A literal that is put in neither binds a parameter nor leaves out a block. -/
lemma account_inlay (mark : Nat) (text : List Char) (spot : Spot) (s : Scan Piece) :
    (s.inlay mark text spot).toRun.consumed = s.bound ∧
      (s.inlay mark text spot).toRun.drops.length = s.drops.length ∧
      ((∃ d ∈ (s.inlay mark text spot).toRun.drops, d.Encloses mark) ↔
        ∃ d ∈ s.drops, d.Encloses mark) := by
  have hdrops : (s.inlay mark text spot).toRun.drops =
      s.drops.map (Drop.movedAt mark (Text.byteLength text)) := by
    rw [Run.drops, Scan.toRun, Scan.inlay, Array.toList_map, filterMap_drop?_onDrop, Scan.drops]
  rw [hdrops]
  exact ⟨rfl, List.length_map _, by simp [encloses_movedAt]⟩

lemma writeAll_putIn (e : Escaper) (content : String) (i : Nat) (pieces : Array Piece) :
    Piece.writeAll e (putIn (quoted content).toList (some i) pieces).toList =
      Piece.writeAll e (pieces.toList.take i) ++ quoted content ++
        Piece.writeAll e (pieces.toList.drop i) := by
  have hsource : Piece.writeAll e ((quoted content).toList.map Piece.source) = quoted content := by
    apply String.ext
    simp [Piece.toList_writeAll, List.flatMap_map]
  rw [putIn, List.toList_toArray, Piece.writeAll_append, Piece.writeAll_append, hsource]

lemma statement_inlay {mark : Nat} {text : List Char} {spot : Spot} {s : Scan Piece}
    (h : ¬∃ error, s.mode = .failed error) :
    (s.inlay mark text spot).toRun.statement =
      .ok (putIn text spot.inStatement s.pieces).toList := by
  cases hm : s.mode with
  | failed error => exact absurd ⟨error, hm⟩ h
  | _ => simp [Scan.toRun, Scan.inlay, hm, Mode.movedAt]

lemma movedAt_cases {mark length : Nat} {error : TemplateError}
    (h : (Mode.failed error).Offsets (· < mark + length)) :
    ((∀ defect k, error = .malformed defect k → k < mark) ∧
        ∀ bytes, error.movedAt mark bytes = error) ∨
      ∃ defect k, k < length ∧
        ∀ bytes, error.movedAt mark bytes = .malformed defect (mark + bytes + k) := by
  cases error with
  | argument error => exact .inl ⟨fun _ _ he => (by cases he), fun _ => rfl⟩
  | malformed defect k =>
    have hlt : k < mark + length := h
    by_cases hk : mark ≤ k
    · refine .inr ⟨defect, k - mark, by omega, fun bytes => ?_⟩
      rw [TemplateError.movedAt, moveOffset, if_pos hk]
      congr 1
      omega
    · refine .inl ⟨?_, fun bytes => by rw [TemplateError.movedAt, moveOffset, if_neg hk]⟩
      rintro _ _ ⟨⟩
      exact Nat.not_le.1 hk

lemma run_quoted (b : Binding) (pre content post : String) :
    run b (pre ++ quoted content ++ post) =
      Scan.initial.outcome b (pre.toList ++ (Item.literal content.toList).text ++ post.toList) := by
  rw [← toList_quoted, ← String.toList_append, ← String.toList_append]
  rfl

variable {pre : String}

/-- Whatever stands between the quotes of a literal, a template is rendered to the same text around
the copy of the literal, or to the same text without it when a block around it is left out, with as
many parameters bound and blocks left out. Or it fails with the same error, which stands at the
same offset before the literal, or as far behind it. -/
theorem render_literal (hl : IsLive pre.toList) (e : Escaper) (post : String)
    (params : List Value) (skip : Value) :
    (∃ left right consumed dropped, ∀ content, '\'' ∉ content.toList →
      render e (pre ++ quoted content ++ post) params skip =
          .ok (left ++ quoted content ++ right) ∧
        (run ⟨params, skip⟩ (pre ++ quoted content ++ post)).consumed = consumed ∧
        (run ⟨params, skip⟩ (pre ++ quoted content ++ post)).drops.length = dropped ∧
        ¬∃ d ∈ (run ⟨params, skip⟩ (pre ++ quoted content ++ post)).drops,
          d.Encloses (Text.byteLength pre.toList)) ∨
    (∃ sql consumed dropped, ∀ content, '\'' ∉ content.toList →
      render e (pre ++ quoted content ++ post) params skip = .ok sql ∧
        (run ⟨params, skip⟩ (pre ++ quoted content ++ post)).consumed = consumed ∧
        (run ⟨params, skip⟩ (pre ++ quoted content ++ post)).drops.length = dropped ∧
        ∃ d ∈ (run ⟨params, skip⟩ (pre ++ quoted content ++ post)).drops,
          d.Encloses (Text.byteLength pre.toList)) ∨
    (∃ error, (∀ defect k, error = .malformed defect k → k < Text.byteLength pre.toList) ∧
      ∀ content, '\'' ∉ content.toList →
        render e (pre ++ quoted content ++ post) params skip = .error error) ∨
    ∃ defect k, k < Text.byteLength post.toList ∧ ∀ content, '\'' ∉ content.toList →
      render e (pre ++ quoted content ++ post) params skip =
        .error (.malformed defect (Text.byteLength (pre ++ quoted content).toList + k)) := by
  obtain ⟨s, ⟨hn, ⟨error, hm⟩, houtcome⟩ | ⟨hn, hblock, spot, hfits, houtcome⟩⟩ :=
    Scan.exists_outcome_literal ⟨params, skip⟩ hl post.toList
  · refine .inr (.inr (.inl ⟨error, ?_, fun content hq => ?_⟩))
    · rintro defect k rfl
      have hmode := hn.mode
      rwa [hm] at hmode
    · rw [render_eq_error_iff, run_quoted, houtcome _ hq, Scan.toRun, hm]
  · have hrun : ∀ content, '\'' ∉ content.toList →
        run ⟨params, skip⟩ (pre ++ quoted content ++ post) =
          (s.inlay (Text.byteLength pre.toList) (quoted content).toList spot).toRun := by
      intro content hq
      rw [run_quoted, houtcome _ hq, toList_quoted]
    by_cases hf : ∃ error, s.mode = .failed error
    · obtain ⟨error, hm⟩ := hf
      have hrender : ∀ content, '\'' ∉ content.toList →
          render e (pre ++ quoted content ++ post) params skip =
            .error (error.movedAt (Text.byteLength pre.toList)
              (Text.byteLength (quoted content).toList)) := by
        intro content hq
        rw [render_eq_error_iff, hrun content hq, Scan.toRun, Scan.inlay_mode_of_failed hm]
      have hmode := hn.mode
      rw [hm] at hmode
      rcases movedAt_cases hmode with ⟨hbefore, hstay⟩ | ⟨defect, k, hk, hmove⟩
      · exact .inr (.inr (.inl ⟨error, hbefore, fun content hq => by rw [hrender content hq, hstay]⟩))
      · refine .inr (.inr (.inr ⟨defect, k, hk, fun content hq => ?_⟩))
        rw [hrender content hq, hmove, String.toList_append, Text.byteLength_append]
    · have hrender : ∀ content, '\'' ∉ content.toList →
          render e (pre ++ quoted content ++ post) params skip =
            .ok (Piece.writeAll e
              (putIn (quoted content).toList spot.inStatement s.pieces).toList) := by
        intro content hq
        rw [render_eq, hrun content hq, statement_inlay hf]
        rfl
      cases spot with
      | statement i =>
        refine .inl ⟨Piece.writeAll e (s.pieces.toList.take i),
          Piece.writeAll e (s.pieces.toList.drop i), s.bound, s.drops.length, fun content hq => ?_⟩
        obtain ⟨hconsumed, hdropped, hencloses⟩ :=
          account_inlay (Text.byteLength pre.toList) (quoted content).toList (.statement i) s
        rw [← hrun content hq] at hconsumed hdropped hencloses
        refine ⟨?_, hconsumed, hdropped, ?_⟩
        · rw [hrender content hq, Spot.inStatement, writeAll_putIn]
        · rw [hencloses]
          rintro ⟨d, hd, he⟩
          exact hfits.2.2 d hd he
      | block i =>
        -- At the end of a scan that has not failed, no block is open.
        obtain ⟨⟨blk, hb, -⟩, -⟩ := hfits
        rw [hblock.resolve_left hf] at hb
        cases hb
      | gone =>
        refine .inr (.inl ⟨Piece.writeAll e s.pieces.toList, s.bound, s.drops.length,
          fun content hq => ⟨hrender content hq, ?_⟩⟩)
        obtain ⟨hconsumed, hdropped, hencloses⟩ :=
          account_inlay (Text.byteLength pre.toList) (quoted content).toList .gone s
        rw [← hrun content hq] at hconsumed hdropped hencloses
        exact ⟨hconsumed, hdropped, hencloses.2 hfits⟩

/-- A literal behind a question mark, in a block that stays. -/
theorem render_literalBehindQuestion :
    IsLive "é\x7b?".toList ∧
      render .mysql ("é\x7b?" ++ quoted "?\x7b" ++ "\x7d?") [.int 1, .int 2] .null =
        .ok "é1'?\x7b'2" ∧
      ∃ left right, ∀ content, '\'' ∉ content.toList →
        render .mysql ("é\x7b?" ++ quoted content ++ "\x7d?") [.int 1, .int 2] .null =
          .ok (left ++ quoted content ++ right) := by
  have hl : IsLive "é\x7b?".toList := by decide
  have hsql : render .mysql ("é\x7b?" ++ quoted "?\x7b" ++ "\x7d?") [.int 1, .int 2] .null =
      .ok "é1'?\x7b'2" := by decide +kernel
  have hdrops : (run ⟨[.int 1, .int 2], .null⟩
      ("é\x7b?" ++ quoted "?\x7b" ++ "\x7d?")).drops = [] := by decide +kernel
  have hq : '\'' ∉ "?\x7b".toList := by decide
  refine ⟨hl, hsql, ?_⟩
  rcases render_literal hl .mysql "\x7d?" [.int 1, .int 2] .null with
    ⟨left, right, _, _, h⟩ | ⟨_, _, _, h⟩ | ⟨_, _, h⟩ | ⟨_, _, _, h⟩
  · exact ⟨left, right, fun content hc => (h content hc).1⟩
  · obtain ⟨-, -, -, d, hd, -⟩ := h _ hq
    rw [hdrops] at hd
    cases hd
  · have herror := h _ hq
    rw [hsql] at herror
    cases herror
  · have herror := h _ hq
    rw [hsql] at herror
    cases herror

end Template

end QueryTemplate
