import QueryTemplate.Template.Run
import Mathlib.Data.List.Basic

/-!
# Texts and pieces

A scan that writes texts asks the escaper when it comes to a string or a name and goes on with
the answer. It goes through the same states as the scan that keeps the pieces: it makes the same
calls and has the texts of the pieces. So the escaper decides nothing but the texts that stand in
the places of its calls.
-/

namespace QueryTemplate.Template

variable (e : Escaper)

def sqlOf (p : Piece) : Sql e := ⟨p.write e⟩

@[simp] lemma output_writeAll_sql (ps : List Piece) :
    (Medium.writeAll ps : Written (List (Sql e))).output = ps.map (sqlOf e) := rfl

/-- The escaper is called for a text exactly when the piece needs it. -/
@[simp] lemma calls_writeAll_sql (ps : List Piece) :
    (Medium.writeAll ps : Written (List (Sql e))).calls = ps.filterMap Piece.call? := by
  have hcalls : ∀ p, (Medium.write p : Written (Sql e)).calls =
      (Medium.write p : Written Piece).calls := Piece.calls_write e
  rw [← Medium.calls_writeAll_piece]
  exact List.flatMap_congr fun p _ => hcalls p

lemma map_appendList {α β : Type} (f : α → β) (xs : Array α) (ys : List α) :
    (xs ++ ys).map f = xs.map f ++ ys.map f := Array.ext' (by simp)

lemma join_sqlOf (ps : List Piece) : Sql.join (ps.map (sqlOf e)) = Piece.writeAll e ps := by
  rw [Sql.join, List.map_map]
  rfl

/-- The open block of the scan that writes texts. -/
def Block.written (blk : Block Piece) : Block (Sql e) :=
  ⟨blk.start, blk.pieces.map (sqlOf e), blk.values⟩

namespace Scan

/-- The scan that writes texts where `s` keeps pieces. -/
def written (s : Scan Piece) : Scan (Sql e) where
  mode := s.mode
  offset := s.offset
  bound := s.bound
  block := s.block.map (Block.written e)
  pieces := s.pieces.map (sqlOf e)
  dropped := s.dropped
  events := s.events
  calls := s.calls

variable (b : Binding) (s : Scan Piece)

lemma written_emit (ps : List Piece) : (s.written e).emit ps = (s.emit ps).written e := by
  cases hb : s.block <;> simp [written, emit, hb, Block.written, map_appendList]

lemma written_record (v : Value) : (s.written e).record v = (s.record v).written e := by
  cases hb : s.block <;> simp [written, record, hb, Block.written]

lemma written_resolve (p : Placeholder) :
    (s.written e).resolve b p = (s.resolve b p).written e := by
  have hparam : b.params[(s.written e).bound]? = b.params[s.bound]? := rfl
  unfold resolve
  rw [hparam]
  cases b.params[s.bound]? with
  | none => rfl
  | some v =>
    let bound : Scan Piece := { s with bound := s.bound + 1 }
    have hnext : ((bound.written e).record v).emit (p.render v).pieces =
        ((bound.record v).emit (p.render v).pieces).written e := by
      rw [written_record, written_emit]
    cases hr : (p.render v).refusal? with
    | none =>
      simp only [hr]
      exact hnext
    | some refusal =>
      simp only [hr]
      exact congrArg (fail _) hnext

lemma written_openBlock : (s.written e).openBlock = s.openBlock.written e := by
  cases hb : s.block <;> simp [written, openBlock, hb, fail, Block.written]

lemma written_closeBlock (skip : Value) :
    (s.written e).closeBlock skip = (s.closeBlock skip).written e := by
  cases hb : s.block with
  | none => simp [written, closeBlock, hb, fail]
  | some blk =>
    have hblock : (s.written e).block = some (blk.written e) := by simp [written, hb]
    have hkept : (blk.written e).isKept skip = blk.isKept skip := rfl
    simp only [closeBlock, hb, hblock, hkept]
    split <;> simp [written, Block.written]

lemma plain_of_ne {α : Type} [Medium α] {s : Scan α} {c : Char} (hquestion : c ≠ '?')
    (hquote : c ≠ '\'') (hopening : c ≠ '\x7b') (hclosing : c ≠ '\x7d') :
    s.plain b c = s.emit [.source c] := by
  unfold plain
  split <;> first | rfl | contradiction

lemma written_plain (c : Char) : (s.written e).plain b c = (s.plain b c).written e := by
  by_cases hquestion : c = '?'
  · subst hquestion
    rfl
  by_cases hquote : c = '\''
  · subst hquote
    exact written_emit e { s with mode := .literal s.offset } [.source '\'']
  by_cases hopening : c = '\x7b'
  · subst hopening
    exact written_openBlock e s
  by_cases hclosing : c = '\x7d'
  · subst hclosing
    exact written_closeBlock e s b.skip
  rw [plain_of_ne b hquestion hquote hopening hclosing,
    plain_of_ne b hquestion hquote hopening hclosing, written_emit]

lemma written_inLiteral (c : Char) : (s.written e).inLiteral c = (s.inLiteral c).written e := by
  unfold inLiteral
  split
  · exact written_emit e { s with mode := .plain } [.source c]
  · exact written_emit e s [.source c]

lemma written_afterQuestion (c : Char) :
    (s.written e).afterQuestion b c = (s.afterQuestion b c).written e := by
  have hresolve : ∀ p, ({ s.written e with mode := .plain } : Scan (Sql e)).resolve b p =
      ({ s with mode := .plain }.resolve b p : Scan Piece).written e :=
    written_resolve e b { s with mode := .plain }
  unfold afterQuestion
  split
  · rfl
  · cases Placeholder.ofSuffix? c with
    | some p => exact hresolve p
    | none =>
      simp only [hresolve]
      have hmode : ∀ t : Scan Piece, (t.written e).mode = t.mode := fun _ => rfl
      rw [hmode]
      cases ({ s with mode := .plain }.resolve b .generic : Scan Piece).mode <;>
        first | rfl | exact written_plain e b _ c

lemma written_step (c : Char) : (s.written e).step b c = (s.step b c).written e := by
  have hmode : (s.written e).mode = s.mode := rfl
  unfold step
  rw [hmode]
  cases s.mode with
  | failed error => rfl
  | plain => exact congrArg (advance c) (written_plain e b s c)
  | question => exact congrArg (advance c) (written_afterQuestion e b s c)
  | literal start => exact congrArg (advance c) (written_inLiteral e s c)

lemma written_read (cs : List Char) : (s.written e).read b cs = (s.read b cs).written e := by
  induction cs generalizing s with
  | nil => rfl
  | cons c cs ih => rw [read_cons, written_step, ih, read_cons]

lemma written_finish : (s.written e).finish b = (s.finish b).written e := by
  by_cases hq : s.mode = .question ∧ s.block = none
  · have hfinish : (s.written e).finish b =
        (({ s with mode := .plain } : Scan Piece).written e).resolve b .generic := by
      simp [finish, written, hq]
    rw [hfinish, written_resolve]
    simp [finish, hq]
  · cases hm : s.mode <;> cases hb : s.block <;>
      simp_all [written, finish, fail, Block.written]

end Scan

/-- A run that writes texts leaves the texts of the pieces that the other run leaves, and the same
account. -/
theorem runOn_sql (b : Binding) (template : String) :
    runOn (Sql e) b template =
      { run b template with statement := (run b template).statement.map (·.map (sqlOf e)) } := by
  have hinitial : (Scan.initial : Scan (Sql e)) = Scan.initial.written e := by
    simp [Scan.initial, Scan.written]
  rw [runOn, hinitial, Scan.written_read, Scan.written_finish, run, runOn]
  generalize (Scan.initial.read b template.toList).finish b = s
  cases hm : s.mode <;> simp [Scan.toRun, Scan.written, hm, Except.map]

section Account

variable (b : Binding) (template : String)

lemma consumed_runOn : (runOn (Sql e) b template).consumed = (run b template).consumed := by
  rw [runOn_sql]

lemma dropped_runOn : (runOn (Sql e) b template).dropped = (run b template).dropped := by
  rw [runOn_sql]

lemma events_runOn : (runOn (Sql e) b template).events = (run b template).events := by
  rw [runOn_sql]

lemma calls_runOn : (runOn (Sql e) b template).calls = (run b template).calls := by
  rw [runOn_sql]

end Account

lemma sql_runOn (b : Binding) (template : String) :
    (runOn (Sql e) b template).sql = (run b template).statement.map (Piece.writeAll e) := by
  rw [runOn_sql, Run.sql]
  cases (run b template).statement with
  | error error => rfl
  | ok ps => exact congrArg Except.ok (join_sqlOf e ps)

/-- A template is rendered as the texts of its pieces. -/
theorem render_eq (template : String) (params : List Value) (skip : Value) :
    render e template params skip =
      (run ⟨params, skip⟩ template).statement.map (Piece.writeAll e) :=
  sql_runOn e ⟨params, skip⟩ template

end QueryTemplate.Template
