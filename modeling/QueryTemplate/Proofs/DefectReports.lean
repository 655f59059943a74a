import QueryTemplate.Proofs.TextScan

/-!
# Reports of malformed templates

A run of a malformed template reports the first defect of the template, unless a placeholder that
is resolved before the defect shows does not accept its parameter: then the run fails with the
error of the first such placeholder, and nothing says that the template is malformed.
-/

namespace QueryTemplate.Template

/-- A run of a malformed template fails with its first defect, or with the error of the first
placeholder before the defect that does not accept its parameter. -/
theorem statement_run_of_firstDefect {template : String} {defect : Defect} {offset : Nat}
    (b : Binding) (h : FirstDefect template.toList defect offset) :
    (∃ error, (run b template).statement = .error (.argument error) ∧
        RaisesBefore b.params template.toList defect offset error) ∨
      (run b template).statement = .error (.malformed defect offset) ∧
        ∀ before p, AsksBefore template.toList defect offset before p →
          IsServed b.params before p := by
  cases h with
  | @inside before c after _ he hv hd =>
    have hp : before ++ [c] <+: template.toList := ⟨after, by simp [he]⟩
    rw [he]
    rcases Scan.read_of_defectAt b hv hd with ⟨error, hm, outside, p, ha, hr⟩ | ⟨hm, hs⟩
    · exact .inl ⟨error, statement_run_of_read_isPrefix hp hm, outside, p,
        (asks_concat_iff_asksBefore hd).1 ha, hr⟩
    · refine .inr ⟨statement_run_of_read_isPrefix hp hm, fun outside p ha => hs outside p ?_⟩
      exact (asks_concat_iff_asksBefore hd).2 ha
  | unterminatedBlock hv ho =>
    rcases Scan.read_of_viable b hv with ⟨error, hm, before, p, ha, hr⟩ | ⟨hb, hs⟩
    · exact .inl ⟨error, statement_run_of_read hm, before, p, ⟨ha, .inl (.inl rfl)⟩, hr⟩
    · exact .inr ⟨statement_run_eq_error_iff.2 (hb.finish_of_opensBlock ho),
        fun before p ha => hs before p ha.1⟩
  | unterminatedString hv hn hl ho =>
    rcases Scan.read_of_viable b hv with ⟨error, hm, before, p, ha, hr⟩ | ⟨hb, hs⟩
    · exact .inl ⟨error, statement_run_of_read hm, before, p, ⟨ha, .inl (.inr rfl)⟩, hr⟩
    · exact .inr ⟨statement_run_eq_error_iff.2 (hb.finish_of_opensLiteral hn hl ho),
        fun before p ha => hs before p ha.1⟩

/-! ### What a run reports -/

/-- A malformed template has one first defect, whatever the parameters, the skip value and the
escaper are. Each run reports it, or fails with the error of a placeholder before it; when all of
these accept their parameters, the run reports the defect. -/
theorem render_of_not_wellFormed {template : String} (h : ¬WellFormed template.toList) :
    ∃ defect offset, FirstDefect template.toList defect offset ∧
      (∀ defect' offset', FirstDefect template.toList defect' offset' →
        defect' = defect ∧ offset' = offset) ∧
      ∀ e params skip,
        (render e template params skip = .error (.malformed defect offset) ∨
          ∃ error, RaisesBefore params template.toList defect offset error ∧
            render e template params skip = .error (.argument error)) ∧
        ((∀ before p, AsksBefore template.toList defect offset before p →
            IsServed params before p) →
          render e template params skip = .error (.malformed defect offset)) := by
  obtain ⟨defect, offset, hd⟩ := exists_firstDefect h
  refine ⟨defect, offset, hd, fun defect' offset' hd' => hd.unique hd', fun e params skip => ?_⟩
  rcases statement_run_of_firstDefect ⟨params, skip⟩ hd with ⟨error, hr, hb⟩ | ⟨hr, -⟩
  · exact ⟨.inr ⟨error, hb, render_eq_error_iff.2 hr⟩,
      fun hs => absurd hb (not_raisesBefore hs error)⟩
  · exact ⟨.inl (render_eq_error_iff.2 hr), fun _ => render_eq_error_iff.2 hr⟩

/-- A block and a literal are open at the end: the block is reported, at its brace behind a
character of two bytes, once the placeholder in it has a parameter that it accepts. -/
theorem render_openBlockAndLiteral :
    ¬WellFormed "é\x7b?d'?".toList ∧ FirstDefect "é\x7b?d'?".toList .unterminatedBlock 2 ∧
      (∀ e skip, render e "é\x7b?d'?" [.int 1] skip = .error (.malformed .unterminatedBlock 2)) ∧
      ∀ e params skip,
        render e "é\x7b?d'?" params skip = .error (.malformed .unterminatedBlock 2) ∨
          ∃ error, RaisesBefore params "é\x7b?d'?".toList .unterminatedBlock 2 error ∧
            render e "é\x7b?d'?" params skip = .error (.argument error) := by
  have h : ¬WellFormed "é\x7b?d'?".toList := fun hw => absurd hw.quotes (by decide)
  obtain ⟨defect, offset, hd, -, hrun⟩ := render_of_not_wellFormed h
  have hreport : ∀ e skip,
      render e "é\x7b?d'?" [.int 1] skip = .error (.malformed .unterminatedBlock 2) :=
    fun _ _ => rfl
  rcases (hrun .mysql [.int 1] .null).1 with hr | ⟨error, -, hr⟩
  · rw [hreport] at hr
    cases hr
    exact ⟨h, hd, hreport, fun e params skip => (hrun e params skip).1⟩
  · rw [hreport] at hr
    cases hr

/-- A run that fails because of its parameters has a well-formed template, unless a placeholder
before the first defect of a malformed template does not accept its parameter. The first one that
does not gives the error. -/
theorem wellFormed_of_argumentError_iff (e : Escaper) (template : String) (params : List Value)
    (skip : Value) :
    (((∃ error, render e template params skip = .error (.argument error)) →
        WellFormed template.toList) ↔
      ∀ defect offset before p, FirstDefect template.toList defect offset →
        AsksBefore template.toList defect offset before p → IsServed params before p) ∧
      ∀ defect offset error, FirstDefect template.toList defect offset →
        RaisesBefore params template.toList defect offset error →
        render e template params skip = .error (.argument error) := by
  refine ⟨⟨?_, ?_⟩, ?_⟩
  · intro hw defect offset before p hd ha
    rcases statement_run_of_firstDefect ⟨params, skip⟩ hd with ⟨error, hr, -⟩ | ⟨-, hs⟩
    · exact absurd (hw ⟨error, render_eq_error_iff.2 hr⟩) hd.not_wellFormed
    · exact hs before p ha
  · rintro hs ⟨error, hr⟩
    by_contra hw
    obtain ⟨defect, offset, hd⟩ := exists_firstDefect hw
    rcases statement_run_of_firstDefect ⟨params, skip⟩ hd with ⟨error', -, hb⟩ | ⟨hm, -⟩
    · exact not_raisesBefore (fun before p => hs defect offset before p hd) error' hb
    · rw [render_eq_error_iff.2 hm] at hr
      cases hr
  · intro defect offset error hd hb
    rcases statement_run_of_firstDefect ⟨params, skip⟩ hd with ⟨error', hr, hb'⟩ | ⟨-, hs⟩
    · rw [hb.unique hb']
      exact render_eq_error_iff.2 hr
    · exact absurd hb (not_raisesBefore hs error)

/-- A missing parameter hides the brace behind its placeholder that closes no block. -/
theorem render_missingBeforeUnmatchedClose :
    ¬∀ (e : Escaper) (template : String) (params : List Value) (skip : Value)
      (error : ArgumentError), render e template params skip = .error (.argument error) →
        WellFormed template.toList := by
  intro hall
  have hw : WellFormed "?\x7d".toList := hall .mysql "?\x7d" [] .null (.missing 0 0) rfl
  have hb : (live "?\x7d".toList).filter isBrace = ['\x7d'] := by decide
  obtain ⟨n, hn⟩ := hw.braces
  rw [hb] at hn
  cases n <;> simp at hn

end QueryTemplate.Template
