import QueryTemplate.Proofs.ClosedBlocks
import QueryTemplate.Template.Report

/-!
# Events of a run

A report accounts for the run that it is about. There is one event for each block that the run
closed and left out, whether the run fails behind it or not, in the order of the template and with
the offsets of the two braces. Then there is one event for the end of the run, whose counts are
those of the parameters, of the placeholders and of the events before it, and whose text is cut to
the longest prefix of whole characters that has at most 200 bytes.
-/

namespace QueryTemplate

namespace Template

/-- A character of a text stands at a byte offset. -/
def StandsAt (cs : List Char) (offset : Nat) (c : Char) : Prop :=
  ∃ before after, cs = before ++ c :: after ∧ offset = Text.byteLength before

/-- A text shows the longest prefix of another one that has at most 200 bytes and ends behind a
whole character. -/
structure IsShortened (s shown : String) : Prop where
  isPrefix : shown.toList <+: s.toList
  bytes : shown.utf8ByteSize ≤ 200
  longest : ∀ p : String, p.toList <+: s.toList → p.utf8ByteSize ≤ 200 →
    p.toList <+: shown.toList

lemma isShortened_shortened (s : String) : IsShortened s (shortened s) := by
  have hcut : (shortened s).toList = Text.cut 200 s.toList := String.toList_ofList
  refine ⟨?_, ?_, fun p hp hl => ?_⟩
  · rw [hcut]
    exact Text.cut_isPrefix 200 s.toList
  · rw [← Text.byteLength_eq_utf8ByteSize, hcut]
    exact Text.byteLength_cut_le 200 s.toList
  · rw [← Text.byteLength_eq_utf8ByteSize] at hl
    rw [hcut]
    exact Text.isPrefix_cut hp hl

variable {params : List Value} {cs outside before : List Char} {b : Binding} {template : String}

lemma Closes.standsAt (h : Closes params cs outside before) :
    StandsAt cs (Drop.between outside before).start '\x7b' ∧
      StandsAt cs (Drop.between outside before).stop '\x7d' := by
  obtain ⟨rest, rfl⟩ := h.closing
  obtain ⟨content, he, -⟩ := h.opens
  have hopening : before ++ ['\x7d'] ++ rest = outside ++ '\x7b' :: (content ++ '\x7d' :: rest) := by
    rw [he]
    simp
  exact ⟨⟨outside, _, hopening, rfl⟩, ⟨before, rest, by simp, rfl⟩⟩

/-! ### The log of a scan -/

namespace Scan

/-- A scan has logged one event for each block that it left out, and nothing else, and it has
counted these blocks. -/
structure IsLogged (s : Scan Piece) : Prop where
  events : s.events.toList = s.drops.map Event.blockDropped
  dropped : s.dropped = s.drops.length

variable {s t : Scan Piece} {c : Char}

lemma isLogged_initial : initial.IsLogged := ⟨rfl, rfl⟩

lemma IsLogged.of_log (h : s.IsLogged) (hlog : t.HasLogOf s) : t.IsLogged := by
  constructor
  · rw [hlog.events, hlog.drops]
    exact h.events
  · rw [hlog.dropped, hlog.drops]
    exact h.dropped

/-- A closing brace logs and counts the block that it leaves out, if it leaves one out. -/
lemma IsLogged.closeBlock (h : s.IsLogged) (skip : Value) : (s.closeBlock skip).IsLogged := by
  cases hb : s.block with
  | none =>
    rw [Scan.closeBlock, hb]
    exact h.of_log ⟨rfl, rfl⟩
  | some blk =>
    by_cases hk : blk.isKept skip = true
    · rw [closeBlock_of_isKept hb hk]
      exact h.of_log ⟨rfl, rfl⟩
    · have hdrops : (s.closeBlock skip).drops = s.drops ++ [⟨blk.start, s.offset⟩] := by
        rw [closeBlock_of_not_isKept hb hk]
        exact drops_of_push rfl
      constructor
      · rw [hdrops, closeBlock_of_not_isKept hb hk, List.map_append, ← h.events]
        exact Array.toList_push
      · rw [hdrops, closeBlock_of_not_isKept hb hk, List.length_append, ← h.dropped]
        rfl

lemma IsLogged.plain (h : s.IsLogged) (c : Char) : (s.plain b c).IsLogged := by
  by_cases hc : c = '\x7d'
  · subst hc
    exact h.closeBlock b.skip
  · exact h.of_log (plain_log hc)

lemma IsLogged.step (h : s.IsLogged) (c : Char) : (s.step b c).IsLogged := by
  by_cases hc : c = '\x7d'
  · subst hc
    cases hm : s.mode with
    | failed error => rwa [step_of_failed hm]
    | plain =>
      rw [step_of_plain hm]
      exact (h.plain '\x7d').of_log ⟨rfl, rfl⟩
    | literal start =>
      rw [step_of_literal hm]
      exact h.of_log ((inLiteral_log s '\x7d').advance '\x7d')
    | question =>
      have hresolved := h.of_log (resolve_log b (completedBy '\x7d') (s.withMode .plain)).of_withMode
      have hsuffix : '\x7d' ≠ '?' := by decide
      rcases step_of_question_cases b hm hsuffix with hs | ⟨-, hs⟩
      · rw [hs]
        exact hresolved.of_log ⟨rfl, rfl⟩
      · rw [hs]
        exact (hresolved.plain '\x7d').of_log ⟨rfl, rfl⟩
  · exact h.of_log (step_log hc)

lemma IsLogged.read (h : s.IsLogged) (cs : List Char) : (s.read b cs).IsLogged := by
  induction cs generalizing s with
  | nil => exact h
  | cons c cs ih => exact ih (h.step c)

end Scan

lemma drops_run (b : Binding) (template : String) :
    (run b template).drops = (Scan.initial.read b template.toList).drops :=
  (Scan.finish_log b _).drops

/-- A run has logged the blocks that it left out and has counted them, also when it failed. -/
lemma log_run (b : Binding) (template : String) :
    (run b template).events = (run b template).drops.map Event.blockDropped ∧
      (run b template).dropped = (run b template).drops.length := by
  have hread := Scan.isLogged_initial.read (b := b) template.toList
  have hend := hread.of_log (Scan.finish_log b _)
  exact ⟨hend.events, hend.dropped⟩

/-! ### The report -/

/-- The events of a report: one for each block that was closed and left out, in the order of the
template, and one for the end of the run, which tells how many there were before it. -/
theorem events_report (e : Escaper) (template : String) (params : List Value) (skip : Value) :
    ∃ (drops : List Drop) (last : Event),
      (report e template params skip).events = drops.map Event.blockDropped ++ [last] ∧
      (∀ d, d ∈ drops ↔ ∃ outside before,
        LeavesOut ⟨params, skip⟩ template.toList outside before ∧
          d = Drop.between outside before) ∧
      drops.Pairwise (fun d d' => d.stop < d'.start) ∧
      (∀ d ∈ drops, StandsAt template.toList d.start '\x7b' ∧
        StandsAt template.toList d.stop '\x7d' ∧ d.start < d.stop ∧
        (Event.blockDropped d).level = .debug) ∧
      (∀ sql, render e template params skip = .ok sql → last.level = .debug ∧
        ∃ shown, IsShortened sql shown ∧
          last = .rendered params.length (number template.toList) drops.length shown) ∧
      ∀ error, render e template params skip = .error error → last.level = .warn ∧
        ∃ shown, IsShortened template shown ∧ last = .rejected params.length shown error := by
  obtain ⟨hevents, hdropped⟩ := log_run ⟨params, skip⟩ template
  have hrecords := Scan.records_read ⟨params, skip⟩ template.toList
  have hmem : ∀ d, d ∈ (run ⟨params, skip⟩ template).drops ↔ ∃ outside before,
      LeavesOut ⟨params, skip⟩ template.toList outside before ∧
        d = Drop.between outside before := by
    intro d
    rw [drops_run]
    exact hrecords.mem d
  refine ⟨(run ⟨params, skip⟩ template).drops,
    (runOn (Sql e) ⟨params, skip⟩ template).lastEvent template params.length, ?_, hmem, ?_, ?_, ?_,
    ?_⟩
  · rw [report, events_runOn, hevents]
  · rw [drops_run]
    exact hrecords.sorted
  · intro d hd
    obtain ⟨outside, before, h, rfl⟩ := (hmem d).1 hd
    exact ⟨h.1.standsAt.1, h.1.standsAt.2, h.1.byteLength_lt, rfl⟩
  · intro sql hsql
    obtain ⟨ps, hs, -⟩ := exists_statement_of_render_eq_ok hsql
    have hlast : (runOn (Sql e) ⟨params, skip⟩ template).lastEvent template params.length =
        .rendered params.length (number template.toList)
          (run ⟨params, skip⟩ template).drops.length (shortened sql) := by
      have hconsumed : (run ⟨params, skip⟩ template).consumed = number template.toList :=
        consumed_of_statement_eq_ok hs
      rw [render] at hsql
      rw [Run.lastEvent, hsql, consumed_runOn, dropped_runOn, hconsumed, hdropped]
    rw [hlast]
    exact ⟨rfl, shortened sql, isShortened_shortened sql, rfl⟩
  · intro error herror
    have hlast : (runOn (Sql e) ⟨params, skip⟩ template).lastEvent template params.length =
        .rejected params.length (shortened template) error := by
      rw [render] at herror
      rw [Run.lastEvent, herror]
    rw [hlast]
    exact ⟨rfl, shortened template, isShortened_shortened template, rfl⟩

end Template

end QueryTemplate
