import QueryTemplate.Config.Expansion
import Mathlib.Data.List.Infix
import Mathlib.Tactic.Common

/-!
# References in a text

A text that is expanded consists of plain stretches, without the mark of a reference, and of
references to variables between them. The expansion puts the value of each variable in the place
of its reference and leaves all else as it is. A text with a reference that is not closed, has no
name or whose variable is not set has no expansion: the first such reference is reported, whatever
stands behind it.
-/

namespace QueryTemplate.Expansion

/-- A stretch of text without the mark at which a reference starts. -/
def IsPlain (cs : List Char) : Prop := ¬['$', '\x7b'] <:+: cs

instance (cs : List Char) : Decidable (IsPlain cs) :=
  inferInstanceAs (Decidable (¬_))

/-- A reference, with the plain text behind it up to the next reference. -/
structure Reference where
  name : List Char
  behind : List Char

/-- A reference as it is written. -/
def written (name : List Char) : List Char := '$' :: '\x7b' :: (name ++ ['\x7d'])

namespace Reference

def source (r : Reference) : List Char := written r.name ++ r.behind

/-- The value of the variable in place of the reference. -/
def expansion (env : Environment) (r : Reference) : List Char :=
  ((env (String.ofList r.name)).getD "").toList ++ r.behind

/-- A reference has a name of characters other than a closing brace, and the variable is set. -/
structure IsDefined (env : Environment) (r : Reference) : Prop where
  closed : '\x7d' ∉ r.name
  named : r.name ≠ []
  isSet : env (String.ofList r.name) ≠ none
  behind : IsPlain r.behind

end Reference

/-- A text of plain stretches and references to variables that are set, and its expansion. -/
def Expands (env : Environment) (cs out : List Char) : Prop :=
  ∃ (first : List Char) (refs : List Reference), IsPlain first ∧ (∀ r ∈ refs, r.IsDefined env) ∧
    cs = first ++ refs.flatMap Reference.source ∧
    out = first ++ refs.flatMap (Reference.expansion env)

/-- A reference without a value, the text behind it, and what is wrong. A reference that is not
closed takes all of the text. -/
inductive Faulty (env : Environment) : (reference rest : List Char) → Error → Prop where
  | unterminated {name : List Char} : '\x7d' ∉ name →
      Faulty env ('$' :: '\x7b' :: name) [] (.unterminated (String.ofList name))
  | empty {rest : List Char} : Faulty env (written []) rest .empty
  | unset {name rest : List Char} : '\x7d' ∉ name → name ≠ [] → env (String.ofList name) = none →
      Faulty env (written name) rest (.unset (String.ofList name))

/-- What stands behind the closing brace does not count. -/
lemma Faulty.of_written {env : Environment} {name rest : List Char} {e : Error}
    (h : Faulty env (written name) rest e) (behind : List Char) :
    Faulty env (written name) behind e := by
  generalize hfault : written name = fault at h ⊢
  cases h with
  | unterminated hopen =>
    obtain rfl := (List.cons.inj (List.cons.inj hfault).2).2
    exact absurd (by simp) hopen
  | empty => exact .empty
  | unset hname hne hunset => exact .unset hname hne hunset

variable {env : Environment} {cs out before fault rest name : List Char} {e : Error}

/-! ### Reading plain text and names -/

lemma expandFrom_cons {c : Char} (h : ¬['$', '\x7b'] <+: c :: cs) :
    expandFrom env none (c :: cs) = (expandFrom env none cs).map (c :: ·) := by
  rw [expandFrom]
  rintro cs' rfl rfl
  exact h (by simp)

lemma expandFrom_plain (h : IsPlain cs) (hrest : rest.head? ≠ some '\x7b') :
    expandFrom env none (cs ++ rest) = (expandFrom env none rest).map (cs ++ ·) := by
  induction cs with
  | nil => cases h : expandFrom env none rest <;> simp [h, Except.map]
  | cons c cs ih =>
    have hplain : IsPlain cs := fun hi => h (hi.trans (List.suffix_cons c cs).isInfix)
    have hhead : ¬['$', '\x7b'] <+: c :: (cs ++ rest) := by
      intro hp
      cases cs with
      | nil =>
        -- The mark would have its dollar sign here and its brace in what follows.
        obtain ⟨-, rest', hrest'⟩ := List.cons_prefix_cons.1 hp
        exact hrest (by rw [List.nil_append] at hrest'; rw [← hrest']; rfl)
      | cons d cs =>
        refine h (List.IsPrefix.isInfix ?_)
        simpa using hp
    rw [List.cons_append, expandFrom_cons hhead, ih hplain]
    cases expandFrom env none rest <;> rfl

/-- The characters up to a closing brace belong to the name of a reference. -/
lemma expandFrom_name (acc : List Char) (h : '\x7d' ∉ name) (rest : List Char) :
    expandFrom env (some acc) (name ++ rest) = expandFrom env (some (name.reverse ++ acc)) rest := by
  induction name generalizing acc with
  | nil => rfl
  | cons c name ih =>
    rw [List.mem_cons, not_or] at h
    rw [List.cons_append, expandFrom, if_neg (Ne.symm h.1), ih _ h.2, List.reverse_cons,
      List.append_assoc]
    rfl

lemma expandFrom_unterminated (h : '\x7d' ∉ name) :
    expandFrom env none ('$' :: '\x7b' :: name) =
      .error (.unterminated (String.ofList name)) := by
  have hname : expandFrom env (some []) name = expandFrom env (some name.reverse) [] := by
    simpa using expandFrom_name [] h []
  rw [expandFrom, hname, expandFrom, List.reverse_reverse]

lemma expandFrom_written (h : '\x7d' ∉ name) (rest : List Char) :
    expandFrom env none (written name ++ rest) =
      (lookup env name).bind fun value => (expandFrom env none rest).map (value ++ ·) := by
  have hname : expandFrom env (some []) (name ++ '\x7d' :: rest) =
      expandFrom env (some name.reverse) ('\x7d' :: rest) := by
    simpa using expandFrom_name [] h ('\x7d' :: rest)
  rw [written, List.cons_append, List.cons_append, List.append_assoc, List.singleton_append,
    expandFrom, hname, expandFrom, if_pos rfl, List.reverse_reverse]
  rfl

/-! ### The expansion -/

lemma Reference.IsDefined.lookup_eq {r : Reference} (h : r.IsDefined env) :
    lookup env r.name = .ok ((env (String.ofList r.name)).getD "").toList := by
  rw [lookup, if_neg (by simpa using h.named)]
  cases hvalue : env (String.ofList r.name) with
  | none => exact absurd hvalue h.isSet
  | some value => rfl

lemma head?_source_append (refs : List Reference) (hrest : rest.head? ≠ some '\x7b') :
    (refs.flatMap Reference.source ++ rest).head? ≠ some '\x7b' := by
  cases refs with
  | nil => exact hrest
  | cons r refs => simp [Reference.source, written]

lemma expandFrom_references {refs : List Reference} (h : ∀ r ∈ refs, r.IsDefined env)
    (hrest : rest.head? ≠ some '\x7b') :
    expandFrom env none (refs.flatMap Reference.source ++ rest) =
      (expandFrom env none rest).map (refs.flatMap (Reference.expansion env) ++ ·) := by
  induction refs with
  | nil => cases he : expandFrom env none rest <;> simp [he, Except.map]
  | cons r refs ih =>
    obtain ⟨hr, hrefs⟩ := List.forall_mem_cons.1 h
    rw [List.flatMap_cons, Reference.source, List.append_assoc, List.append_assoc,
      expandFrom_written hr.closed, hr.lookup_eq,
      expandFrom_plain hr.behind (head?_source_append refs hrest), ih hrefs]
    cases expandFrom env none rest <;>
      simp [Except.map, Except.bind, Reference.expansion]

/-- What is expanded at the head of a text does not count for the rest, unless the two meet in the
middle of a mark. -/
lemma Expands.expandFrom_append (h : Expands env cs out) (hrest : rest.head? ≠ some '\x7b') :
    expandFrom env none (cs ++ rest) = (expandFrom env none rest).map (out ++ ·) := by
  obtain ⟨first, refs, hfirst, hrefs, rfl, rfl⟩ := h
  rw [List.append_assoc, expandFrom_plain hfirst (head?_source_append refs hrest),
    expandFrom_references hrefs hrest]
  cases expandFrom env none rest <;> simp [Except.map]

lemma Expands.expandFrom_eq (h : Expands env cs out) : expandFrom env none cs = .ok out := by
  have hend : ([] : List Char).head? ≠ some '\x7b' := by simp
  have happend := h.expandFrom_append hend
  rw [List.append_nil, expandFrom, Except.map, List.append_nil] at happend
  exact happend

lemma Faulty.expandFrom_eq (h : Faulty env fault rest e) :
    expandFrom env none (fault ++ rest) = .error e := by
  cases h with
  | unterminated hname => simpa using expandFrom_unterminated hname
  | empty => exact expandFrom_written List.not_mem_nil rest
  | unset hname hne hunset =>
    rw [expandFrom_written hname, lookup, if_neg (by simpa using hne), hunset]
    rfl

lemma Faulty.head?_ne (h : Faulty env fault rest e) : (fault ++ rest).head? ≠ some '\x7b' := by
  cases h <;> simp [written]

lemma Expands.expandFrom_faulty (h : Expands env before out) (hf : Faulty env fault rest e) :
    expandFrom env none (before ++ (fault ++ rest)) = .error e := by
  rw [h.expandFrom_append hf.head?_ne, hf.expandFrom_eq]
  rfl

/-! ### Every text is expanded or has a first fault -/

/-- A text is plain, or there is a first mark with plain text in front of it. -/
lemma isPlain_or_exists_mark (cs : List Char) :
    IsPlain cs ∨ ∃ first rest, IsPlain first ∧ cs = first ++ '$' :: '\x7b' :: rest := by
  induction cs with
  | nil => exact .inl (by simp [IsPlain])
  | cons c cs ih =>
    by_cases hp : ['$', '\x7b'] <+: c :: cs
    · obtain ⟨rest, hrest⟩ := hp
      exact .inr ⟨[], rest, by simp [IsPlain], hrest.symm⟩
    · rcases ih with hplain | ⟨first, rest, hfirst, rfl⟩
      · exact .inl fun hi => (List.infix_cons_iff.1 hi).elim hp hplain
      · refine .inr ⟨c :: first, rest, fun hi => ?_, rfl⟩
        refine (List.infix_cons_iff.1 hi).elim (fun h => hp (h.trans ?_)) hfirst
        exact List.prefix_append (c :: first) _

/-- A text behind the mark of a reference is an open name, or a name, its closing brace and the
text behind it. -/
lemma notMem_or_exists_closing (cs : List Char) :
    '\x7d' ∉ cs ∨ ∃ name rest, '\x7d' ∉ name ∧ cs = name ++ '\x7d' :: rest := by
  by_cases h : '\x7d' ∈ cs
  · exact .inr (List.eq_append_cons_of_mem h |>.imp fun name h => h.imp fun rest h => ⟨h.2, h.1⟩)
  · exact .inl h

lemma Expands.of_isPlain (h : IsPlain cs) : Expands env cs cs :=
  ⟨cs, [], h, fun _ hr => (by cases hr), by simp, by simp⟩

lemma Expands.behind_reference {first : List Char} {value : String} (h : Expands env cs out)
    (hfirst : IsPlain first) (hname : '\x7d' ∉ name) (hne : name ≠ [])
    (hvalue : env (String.ofList name) = some value) :
    Expands env (first ++ (written name ++ cs)) (first ++ (value.toList ++ out)) := by
  obtain ⟨behind, refs, hbehind, hrefs, rfl, rfl⟩ := h
  have hr : (Reference.mk name behind).IsDefined env :=
    ⟨hname, hne, fun h => by simp [hvalue] at h, hbehind⟩
  refine ⟨first, ⟨name, behind⟩ :: refs, hfirst, List.forall_mem_cons.2 ⟨hr, hrefs⟩, ?_, ?_⟩
  · simp [Reference.source]
  · simp [Reference.expansion, hvalue]

/-- A text has an expansion, or it has one up to the first reference without a value. -/
lemma exists_expands_or_faulty (env : Environment) (cs : List Char) :
    (∃ out, Expands env cs out) ∨ ∃ before out fault rest e, Expands env before out ∧
      Faulty env fault rest e ∧ cs = before ++ (fault ++ rest) := by
  rcases isPlain_or_exists_mark cs with hplain | ⟨first, inside, hfirst, hcs⟩
  · exact .inl ⟨cs, .of_isPlain hplain⟩
  · rcases notMem_or_exists_closing inside with hopen | ⟨name, rest, hname, rfl⟩
    · exact .inr ⟨first, first, _, [], _, .of_isPlain hfirst, .unterminated hopen, by simp [hcs]⟩
    · have hwritten : cs = first ++ (written name ++ rest) := by simp [hcs, written]
      -- The first reference is a fault, or it has a value and the text behind it decides.
      by_cases hne : name = []
      · subst hne
        exact .inr ⟨first, first, _, rest, _, .of_isPlain hfirst, .empty, hwritten⟩
      · cases hvalue : env (String.ofList name) with
        | none =>
          exact .inr ⟨first, first, _, rest, _, .of_isPlain hfirst, .unset hname hne hvalue,
            hwritten⟩
        | some value =>
          have hlt : rest.length < cs.length := by simp [hcs]; omega
          rcases exists_expands_or_faulty env rest with ⟨out, hout⟩ |
            ⟨before, out, fault, behind, e, hout, hfault, rfl⟩
          · rw [hwritten]
            exact .inl ⟨_, hout.behind_reference hfirst hname hne hvalue⟩
          · exact .inr ⟨_, _, fault, behind, e, hout.behind_reference hfirst hname hne hvalue,
              hfault, by simp [hwritten]⟩
termination_by cs.length

lemma expandFrom_eq_ok_iff : expandFrom env none cs = .ok out ↔ Expands env cs out := by
  constructor
  · intro h
    rcases exists_expands_or_faulty env cs with ⟨out', hout⟩ |
      ⟨before, out', fault, rest, e, hout, hfault, rfl⟩
    · obtain rfl : out = out' := Except.ok.inj (h.symm.trans hout.expandFrom_eq)
      exact hout
    · cases h.symm.trans (hout.expandFrom_faulty hfault)
  · exact Expands.expandFrom_eq

lemma expandFrom_eq_error_iff : expandFrom env none cs = .error e ↔
    ∃ before out fault rest, Expands env before out ∧ Faulty env fault rest e ∧
      cs = before ++ (fault ++ rest) := by
  constructor
  · intro h
    rcases exists_expands_or_faulty env cs with ⟨out', hout⟩ |
      ⟨before, out', fault, rest, e', hout, hfault, rfl⟩
    · cases h.symm.trans hout.expandFrom_eq
    · obtain rfl : e = e' := Except.error.inj (h.symm.trans (hout.expandFrom_faulty hfault))
      exact ⟨before, out', fault, rest, hout, hfault, rfl⟩
  · rintro ⟨before, out', fault, rest, hout, hfault, rfl⟩
    exact hout.expandFrom_faulty hfault

lemma expand_eq_ok_iff {text out : String} :
    expand env text = .ok out ↔ Expands env text.toList out.toList := by
  rw [← expandFrom_eq_ok_iff, expand]
  cases expandFrom env none text.toList <;> simp [Except.map, ← String.toList_inj]

lemma expand_eq_error_iff {text : String} : expand env text = .error e ↔
    ∃ before out fault rest, Expands env before out ∧ Faulty env fault rest e ∧
      text.toList = before ++ (fault ++ rest) := by
  rw [← expandFrom_eq_error_iff, expand]
  cases expandFrom env none text.toList <;> simp [Except.map]

/-- A text has an expansion exactly when it consists of plain stretches and references to variables
that are set; each value then stands in the place of its reference and is not read again, and a
text without references stays as it is. Otherwise the first reference that is not closed, has no
name or whose variable is not set is reported, whatever stands behind its closing brace. -/
theorem expand_iff (env : Environment) (text : String) :
    (∀ out, expand env text = .ok out ↔ Expands env text.toList out.toList) ∧
      (IsPlain text.toList → expand env text = .ok text) ∧
      (∀ e, expand env text = .error e ↔
        ∃ before out fault rest, Expands env before out ∧ Faulty env fault rest e ∧
          text.toList = before ++ (fault ++ rest)) ∧
      ∀ before out name rest e, Expands env before out → Faulty env (written name) rest e →
        ∀ behind, expand env (String.ofList (before ++ (written name ++ behind))) = .error e := by
  refine ⟨fun _ => expand_eq_ok_iff, fun hplain => expand_eq_ok_iff.2 (.of_isPlain hplain),
    fun _ => expand_eq_error_iff, ?_⟩
  intro before out name rest e hout hfault behind
  rw [expand, String.toList_ofList, hout.expandFrom_faulty (hfault.of_written behind)]
  rfl

/-- A value with the mark of a reference is not read again, and neither is a dollar sign in front of
a reference or a brace behind it part of one. A reference without a name is reported although the
next one is open. -/
theorem expand_valueWithMark :
    let env : Environment := fun name => if name = "X" then some "$\x7bY\x7d" else none
    expand env "$$\x7bX\x7d\x7d" = .ok "$$\x7bY\x7d\x7d" ∧ expand env "$X\x7d" = .ok "$X\x7d" ∧
      expand env "\x7b$\x7bX\x7d$\x7b\x7d$\x7bX" = .error .empty := by
  intro env
  have hvalue : env (String.ofList ['X']) = some "$\x7bY\x7d" := by decide
  have hfilled : ∀ first behind, IsPlain first → IsPlain behind →
      Expands env (first ++ (written ['X'] ++ behind))
        (first ++ ("$\x7bY\x7d".toList ++ behind)) := by
    intro first behind hfirst hbehind
    exact (Expands.of_isPlain hbehind).behind_reference hfirst (by decide) (by decide) hvalue
  refine ⟨?_, ?_, ?_⟩
  · exact ((expand_iff env _).1 _).2 (hfilled ['$'] ['\x7d'] (by decide) (by decide))
  · exact (expand_iff env _).2.1 (by decide)
  · exact (expand_iff env "").2.2.2 _ _ [] [] _
      (hfilled ['\x7b'] [] (by decide) (by decide)) .empty "$\x7bX".toList

end QueryTemplate.Expansion
