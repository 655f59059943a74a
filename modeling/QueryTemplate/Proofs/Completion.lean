import QueryTemplate.Proofs.Acceptance
import QueryTemplate.Proofs.DefectReports

/-!
# Completing a template

A text can be completed to a template that is rendered exactly when none of its characters is a
defect: what closes its literal and then its block completes it. A run that reports a defect does so
at the first character behind which no template is rendered any more, or at the end of a text that
could still have been completed.
-/

namespace QueryTemplate

/-- The character at which a defect is reported. -/
def Defect.character : Defect → Char
  | doublePlaceholder => '?'
  | nestedBlock => '\x7b'
  | unmatchedBlockClose => '\x7d'
  | unterminatedBlock => '\x7b'
  | unterminatedString => '\''

namespace Template

/-- A text is the start of a template that is rendered with some parameters, whatever the escaper
and the skip value are. -/
def Completable (cs : List Char) : Prop :=
  ∃ suffix params, ∀ e skip, ∃ sql,
    render e (String.ofList (cs ++ suffix)) params skip = .ok sql

variable {cs : List Char} {template : String} {b : Binding} {defect : Defect} {offset : Nat}

/-! ### Texts that can be completed -/

/-- A quote ends an open literal and is no defect. -/
lemma Viable.exists_isLive (h : Viable cs) :
    ∃ suffix, Viable (cs ++ suffix) ∧ IsLive (cs ++ suffix) := by
  by_cases hl : IsLive cs
  · refine ⟨[], ?_⟩
    rw [List.append_nil]
    exact ⟨h, hl⟩
  · refine ⟨['\''], viable_concat.2 ⟨h, fun defect hd => hl hd.isLive⟩, ?_⟩
    rw [isLive_concat, if_pos rfl]
    exact hl

/-- Outside literals, a closing brace ends an open block. -/
lemma Viable.exists_wellFormed_of_isLive (h : Viable cs) (hl : IsLive cs) :
    ∃ suffix, WellFormed (cs ++ suffix) := by
  by_cases ho : InOpenBlock cs
  · have hv : Viable (cs ++ ['\x7d']) := by
      refine viable_concat.2 ⟨h, fun defect hd => ?_⟩
      cases hd with
      | unmatchedBlockClose _ hn => exact hn ho
    have hclosed : ¬InOpenBlock (cs ++ ['\x7d']) := by
      rw [inOpenBlock_concat]
      rintro (⟨-, hb⟩ | ⟨hc, -⟩)
      · exact absurd (hb hl) (by decide)
      · exact absurd hc (by decide)
    have hlive : IsLive (cs ++ ['\x7d']) := by
      rw [isLive_concat, if_neg (by decide)]
      exact hl
    exact ⟨_, (wellFormed_iff_viable _).2 ⟨hv, hclosed, hlive⟩⟩
  · refine ⟨[], (wellFormed_iff_viable _).2 ?_⟩
    rw [List.append_nil]
    exact ⟨h, ho, hl⟩

lemma Viable.exists_wellFormed (h : Viable cs) : ∃ suffix, WellFormed (cs ++ suffix) := by
  obtain ⟨closing, hv, hl⟩ := h.exists_isLive
  obtain ⟨suffix, hw⟩ := hv.exists_wellFormed_of_isLive hl
  exact ⟨closing ++ suffix, by rwa [← List.append_assoc]⟩

/-- The texts that can be completed are those without a defect. -/
theorem completable_iff_viable : Completable cs ↔ Viable cs := by
  constructor
  · rintro ⟨suffix, params, hrender⟩
    obtain ⟨sql, hsql⟩ := hrender .mysql .null
    have hw : WellFormed (cs ++ suffix) := by
      have hparts := (wellFormed_iff_exists_parts _).2 (exists_parts_of_render_eq_ok hsql)
      rwa [String.toList_ofList] at hparts
    rcases viable_or_exists_defectAt cs with hv | ⟨before, c, after, defect, rfl, hv, hd⟩
    · exact hv
    · rw [List.append_assoc, List.cons_append] at hw
      exact absurd hw (hd.not_wellFormed hv)
  · intro h
    obtain ⟨suffix, hw⟩ := h.exists_wellFormed
    obtain ⟨parts, hparts⟩ : ∃ parts, ConsistsOf (String.ofList (cs ++ suffix)) parts := by
      apply (wellFormed_iff_exists_parts _).1
      rwa [String.toList_ofList]
    exact ⟨suffix, (placeholders parts).map Placeholder.sample, fun e skip =>
      ⟨_, (render_eq_ok_iff_acceptsAll hparts).2 ⟨acceptsAll_samples parts, rfl⟩⟩⟩

/-! ### Reported defects -/

lemma DefectAt.character_eq {before : List Char} {c : Char} (h : DefectAt before c defect) :
    defect.character = c := by
  cases h <;> rfl

lemma DefectAt.not_isAtEnd {before : List Char} {c : Char} (h : DefectAt before c defect) :
    ¬defect.IsAtEnd := by
  cases h <;> simp [Defect.IsAtEnd]

lemma firstDefect_of_statement_run
    (h : (run b template).statement = .error (.malformed defect offset)) :
    FirstDefect template.toList defect offset := by
  have hw : ¬WellFormed template.toList := by
    intro hw
    obtain ⟨parts, hparts⟩ := (wellFormed_iff_exists_parts template).1 hw
    exact render_ne_malformed hparts .mysql b.params b.skip defect offset
      (render_eq_error_iff.2 h)
  obtain ⟨defect', offset', hd⟩ := exists_firstDefect hw
  rcases statement_run_of_firstDefect b hd with ⟨error, hr, -⟩ | ⟨hr, -⟩
  · rw [h] at hr
    cases hr
  · rw [h] at hr
    cases hr
    exact hd

/-- A defect that is reported at a character is reported of every template that starts with the
text up to this character. -/
lemma statement_run_of_isPrefix {before : List Char} {c : Char} (hv : Viable before)
    (hd : DefectAt before c defect) (hp : before ++ [c] <+: template.toList)
    (h : (run b template).statement = .error (.malformed defect offset)) {template' : String}
    (hp' : before ++ [c] <+: template'.toList) :
    (run b template').statement = .error (.malformed defect offset) := by
  obtain ⟨error, hm⟩ := Scan.exists_failed_of_defectAt b hv hd
  rw [← h, statement_run_of_read_isPrefix hp hm]
  exact statement_run_of_read_isPrefix hp' hm

/-- A malformed template is reported at the earliest character. The report of a question mark or of
a brace stands at this character, it is that of every template that starts with the same text up to
this character, and the text before it can be completed. The report of an open block or of an open
literal stands at its first character, and the template itself can be completed. -/
theorem completable_of_render_malformed {e : Escaper} {params : List Value} {skip : Value}
    (h : render e template params skip = .error (.malformed defect offset)) :
    ∃ before after, template.toList = before ++ defect.character :: after ∧
      offset = Text.byteLength before ∧
      (¬defect.IsAtEnd → Completable before ∧
        ∀ template' : String, before ++ [defect.character] <+: template'.toList →
          render e template' params skip = .error (.malformed defect offset)) ∧
      (defect.IsAtEnd → Completable template.toList) := by
  have hrun := render_eq_error_iff.1 h
  cases firstDefect_of_statement_run hrun with
  | @inside before c after _ he hv hd =>
    obtain rfl : defect.character = c := hd.character_eq
    have hp : before ++ [defect.character] <+: template.toList := ⟨after, by simp [he]⟩
    refine ⟨before, after, he, rfl, fun _ => ⟨completable_iff_viable.2 hv, ?_⟩,
      fun hend => absurd hend hd.not_isAtEnd⟩
    intro template' hp'
    exact render_eq_error_iff.2 (statement_run_of_isPrefix hv hd hp hrun hp')
  | @unterminatedBlock outside hv ho =>
    obtain ⟨content, he, -⟩ := ho
    exact ⟨outside, content, he, rfl, fun hend => absurd (.inl rfl) hend,
      fun _ => completable_iff_viable.2 hv⟩
  | @unterminatedString outside hv _ _ ho =>
    obtain ⟨content, he, -⟩ := ho
    exact ⟨outside, content, he, rfl, fun hend => absurd (.inr rfl) hend,
      fun _ => completable_iff_viable.2 hv⟩

/-- Two question marks in a block behind a literal, and a block that is left open behind a
placeholder inside an open literal. -/
theorem completable_openBlockAndLiteral :
    render .mysql "é\x7b'?'??" [] .null = .error (.malformed .doublePlaceholder 7) ∧
      (∀ rest, render .mysql ("é\x7b'?'??" ++ rest) [] .null =
        .error (.malformed .doublePlaceholder 7)) ∧
      render .mysql "é\x7b?d'?" [.int 1] .null = .error (.malformed .unterminatedBlock 2) ∧
      Completable "é\x7b?d'?".toList := by
  have hdouble : render .mysql "é\x7b'?'??" [] .null =
      .error (.malformed .doublePlaceholder 7) := rfl
  have hblock : render .mysql "é\x7b?d'?" [.int 1] .null =
      .error (.malformed .unterminatedBlock 2) := rfl
  refine ⟨hdouble, fun rest => ?_, hblock, ?_⟩
  · obtain ⟨before, after, he, -, hinside, -⟩ := completable_of_render_malformed hdouble
    refine (hinside (by simp [Defect.IsAtEnd])).2 _ ⟨after ++ rest.toList, ?_⟩
    rw [String.toList_append, he]
    simp
  · obtain ⟨-, -, -, -, -, hend⟩ := completable_of_render_malformed hblock
    exact hend (.inl rfl)

end Template

end QueryTemplate
