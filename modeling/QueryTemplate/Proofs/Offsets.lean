import QueryTemplate.Proofs.Accounting

/-!
# Offsets of a scan

A scan notes the offsets of literals, of blocks and of defects. Each of them is the offset of a
character that it has read.
-/

namespace QueryTemplate.Template

def Mode.Offsets (P : Nat → Prop) : Mode → Prop
  | .literal start => P start
  | .failed (.malformed _ k) => P k
  | _ => True

namespace Scan

/-- The offsets that a scan has noted satisfy a predicate. -/
structure Offsets (P : Nat → Prop) (s : Scan Piece) : Prop where
  mode : s.mode.Offsets P
  block : ∀ blk, s.block = some blk → P blk.start
  drops : ∀ d ∈ s.drops, P d.start ∧ P d.stop

variable {P : Nat → Prop} {b : Binding} {s : Scan Piece} {c : Char} {p : Placeholder}

lemma offsets_initial (P : Nat → Prop) : initial.Offsets P :=
  ⟨trivial, fun _ h => (by cases h), fun d h => by simp [initial, drops] at h⟩

lemma Offsets.mono {Q : Nat → Prop} (h : s.Offsets P) (hq : ∀ k, P k → Q k) : s.Offsets Q := by
  refine ⟨?_, fun blk hb => hq _ (h.block blk hb),
    fun d hd => ⟨hq _ (h.drops d hd).1, hq _ (h.drops d hd).2⟩⟩
  have hmode := h.mode
  cases hm : s.mode with
  | plain => trivial
  | question => trivial
  | literal start =>
    rw [hm] at hmode
    exact hq _ hmode
  | failed e =>
    rw [hm] at hmode
    cases e with
    | malformed defect k => exact hq _ hmode
    | argument error => trivial

lemma Offsets.withMode (h : s.Offsets P) {m : Mode} (hm : m.Offsets P) :
    (s.withMode m).Offsets P :=
  ⟨hm, h.block, h.drops⟩

lemma Offsets.advance (h : s.Offsets P) (c : Char) : (s.advance c).Offsets P :=
  ⟨h.mode, h.block, h.drops⟩

lemma Offsets.emit (h : s.Offsets P) (ps : List Piece) : (s.emit ps).Offsets P := by
  refine ⟨by simpa using h.mode, fun blk hb => ?_, by simpa using h.drops⟩
  cases hs : s.block with
  | none => simp [Scan.emit, hs] at hb
  | some blk' =>
    simp only [Scan.emit, hs, Option.some.injEq] at hb
    subst hb
    exact h.block blk' hs

lemma Offsets.record (h : s.Offsets P) (v : Value) : (s.record v).Offsets P := by
  refine ⟨by simpa using h.mode, fun blk hb => ?_, by simpa using h.drops⟩
  cases hs : s.block with
  | none => simp [Scan.record, hs] at hb
  | some blk' =>
    simp only [Scan.record, hs, Option.some.injEq] at hb
    subst hb
    exact h.block blk' hs

lemma Offsets.resolve (h : s.Offsets P) (p : Placeholder) : (s.resolve b p).Offsets P := by
  cases hv : b.params[s.bound]? with
  | none =>
    rw [resolve_of_missing hv]
    exact h.withMode trivial
  | some v =>
    have hbound : s.bindNext.Offsets P := ⟨h.mode, h.block, h.drops⟩
    rw [resolve_of_param hv]
    refine ((hbound.record v).emit (p.render v).pieces).withMode ?_
    cases (p.render v).refusal? with
    | none => exact h.mode
    | some refusal => trivial

lemma Offsets.plain (h : s.Offsets P) (hP : P s.offset) (c : Char) : (s.plain b c).Offsets P := by
  unfold Scan.plain
  split
  · exact h.withMode trivial
  · exact (h.withMode (m := .literal s.offset) hP).emit _
  · cases hb : s.block with
    | none =>
      simp only [openBlock, hb]
      exact ⟨h.mode, fun blk he => Option.some.inj he ▸ hP, h.drops⟩
    | some blk =>
      simp only [openBlock, hb]
      exact h.withMode (m := .failed (.malformed .nestedBlock s.offset)) hP
  · cases hb : s.block with
    | none =>
      simp only [closeBlock, hb]
      exact h.withMode (m := .failed (.malformed .unmatchedBlockClose s.offset)) hP
    | some blk =>
      simp only [closeBlock, hb]
      split
      · exact ⟨h.mode, fun _ he => (by cases he), h.drops⟩
      · refine ⟨h.mode, fun _ he => (by cases he), fun d hd => ?_⟩
        rw [drops_of_push (s := s) rfl, List.mem_append, List.mem_singleton] at hd
        rcases hd with hd | rfl
        · exact h.drops d hd
        · exact ⟨h.block blk hb, hP⟩
  · exact h.emit _

/-- A step moves behind its character, unless the scan has failed. -/
lemma step_offset (b : Binding) (s : Scan Piece) (c : Char) :
    (s.step b c).offset = s.offset ∨ (s.step b c).offset = s.offset + c.utf8Size := by
  cases hm : s.mode with
  | failed e => exact .inl (by rw [step_of_failed hm])
  | plain => exact .inr (by simp [step_of_plain hm, Scan.advance, (plain_account b s c).offset])
  | literal start =>
    exact .inr (by simp [step_of_literal hm, Scan.advance, (inLiteral_account s c).offset])
  | question =>
    refine .inr ?_
    by_cases hc : c = '?'
    · subst hc
      rw [step_doublePlaceholder hm]
      rfl
    · rcases step_of_question_cases b hm hc with hs | ⟨-, hs⟩
      · simp [hs, Scan.advance, Scan.withMode]
      · simp [hs, Scan.advance, Scan.withMode, (plain_account b _ c).offset]

lemma Offsets.step (h : s.Offsets P) (hP : P s.offset) (c : Char) : (s.step b c).Offsets P := by
  cases hm : s.mode with
  | failed e => rwa [step_of_failed hm]
  | plain =>
    rw [step_of_plain hm]
    exact (h.plain hP c).advance c
  | literal start =>
    rw [step_of_literal hm]
    unfold inLiteral
    split
    · exact ((h.withMode (m := .plain) trivial).emit _).advance c
    · exact (h.emit _).advance c
  | question =>
    by_cases hc : c = '?'
    · subst hc
      rw [step_doublePlaceholder hm]
      exact (h.withMode (m := .failed (.malformed .doublePlaceholder s.offset)) hP).advance '?'
    · have hr := (h.withMode (m := .plain) trivial).resolve (b := b) (completedBy c)
      rcases step_of_question_cases b hm hc with hs | ⟨-, hs⟩
      · rw [hs]
        exact hr.advance c
      · rw [hs]
        refine (hr.plain ?_ c).advance c
        rwa [resolve_offset]

/-- The offsets that are noted while a text is read are old ones or offsets in the text. -/
lemma Offsets.read (h : s.Offsets P) (cs : List Char)
    (hP : ∀ k, s.offset ≤ k → k < s.offset + Text.byteLength cs → P k) :
    (s.read b cs).Offsets P := by
  induction cs generalizing s with
  | nil => exact h
  | cons c cs ih =>
    have hpos : 0 < c.utf8Size := Char.utf8Size_pos c
    have hlength : Text.byteLength (c :: cs) = c.utf8Size + Text.byteLength cs := rfl
    refine ih (h.step (hP s.offset (Nat.le_refl _) (by omega)) c) fun k hk hlt => ?_
    rcases step_offset b s c with ho | ho
    · exact hP k (by omega) (by omega)
    · exact hP k (by omega) (by omega)

lemma finish_cases (b : Binding) (s : Scan Piece) :
    s.finish b = s ∨
      (∃ blk, s.block = some blk ∧
        s.finish b = s.fail (.malformed .unterminatedBlock blk.start)) ∨
      (∃ start, s.mode = .literal start ∧
        s.finish b = s.fail (.malformed .unterminatedString start)) ∨
      s.finish b = (s.withMode .plain).resolve b .generic := by
  cases hm : s.mode <;> cases hb : s.block <;> simp [finish, hm, hb, withMode]

lemma Offsets.finish (h : s.Offsets P) : (s.finish b).Offsets P := by
  rcases finish_cases b s with he | ⟨blk, hb, he⟩ | ⟨start, hm, he⟩ | he
  · rwa [he]
  · rw [he]
    exact h.withMode (m := .failed (.malformed .unterminatedBlock blk.start)) (h.block blk hb)
  · have hmode := h.mode
    rw [hm] at hmode
    rw [he]
    exact h.withMode (m := .failed (.malformed .unterminatedString start)) hmode
  · rw [he]
    exact (h.withMode (m := .plain) trivial).resolve .generic

end Scan

end QueryTemplate.Template
