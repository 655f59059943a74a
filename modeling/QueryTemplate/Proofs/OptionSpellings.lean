import QueryTemplate.Proofs.CommandEntries

/-!
# The two spellings of an option

An option that is joined to its value by an equals sign is read like the option with what is left
of the value without the copies of both at its head. The two spellings of one value therefore give
the same answer, except where the value starts with such a copy and the answer depends on it.
-/

namespace QueryTemplate.Command

/-- The last of some arguments is an option that waits for its value, and all arguments before it
form entries. -/
def LeavesWaiting (tokens : List String) : Prop :=
  ∃ (us : List Entry) (flag : Flag), tokens = us.flatMap Entry.tokens ++ [flag.text]

lemma LeavesWaiting.behind {tokens : List String} (h : LeavesWaiting tokens) (u : Entry) :
    LeavesWaiting (u.tokens ++ tokens) := by
  obtain ⟨us, flag, rfl⟩ := h
  exact ⟨u :: us, flag, by rw [List.flatMap_cons, List.append_assoc]⟩

namespace Draft

/-- Arguments that leave no option waiting settle the answer, or they are read into a draft whatever
stands behind them. -/
lemma read_append (d : Draft) {tokens : List String} (h : ¬LeavesWaiting tokens) :
    (∃ answer, ∀ rest, d.read (tokens ++ rest) = answer) ∨
      ∃ d', ∀ rest, d.read (tokens ++ rest) = read d' rest := by
  match tokens with
  | [] => exact .inr ⟨d, fun rest => rfl⟩
  | text :: tokens =>
    simp only [List.cons_append]
    rcases Token.ofText_cases text with ⟨-, hhelp⟩ | ⟨flag, -, rfl⟩ | ⟨flag, value, -, rfl⟩ |
      ⟨hunknown, -⟩ | ⟨-, ht⟩
    · exact .inl ⟨_, fun rest => read_help hhelp _⟩
    · cases tokens with
      | nil => exact absurd ⟨[], flag, rfl⟩ h
      | cons value tokens =>
        have hbehind : ¬LeavesWaiting tokens := fun hw => h (hw.behind (.option flag .apart value))
        simp only [List.cons_append, read_apart]
        exact read_append _ hbehind
    · have hbehind : ¬LeavesWaiting tokens := fun hw => h (hw.behind (.option flag .joined value))
      simp only [read_joined]
      exact read_append _ hbehind
    · exact .inl ⟨_, fun rest => read_of_unknown hunknown _⟩
    · have hbehind : ¬LeavesWaiting tokens := fun hw => h (hw.behind (.template text ht))
      simp only [read_of_isTemplate ht]
      by_cases hinline : d.inline = none
      · simp only [if_pos hinline]
        exact read_append _ hbehind
      · exact .inl ⟨_, fun rest => if_neg hinline⟩

lemma assign_assign_self (d : Draft) (flag : Flag) (v w : String) :
    (d.assign flag v).assign flag w = d.assign flag w := by
  cases flag <;> rfl

lemma assign_comm (d : Draft) {flag other : Flag} (h : flag ≠ other) (v w : String) :
    (d.assign flag v).assign other w = (d.assign other w).assign flag v := by
  cases flag <;> cases other <;> first | rfl | exact absurd rfl h

lemma assign_inline (d : Draft) (flag : Flag) (v : String) (inline : Option String) :
    ({ d.assign flag v with inline } : Draft) = ({ d with inline } : Draft).assign flag v := by
  cases flag <;> rfl

@[simp] lemma inline_assign (d : Draft) (flag : Flag) (v : String) :
    (d.assign flag v).inline = d.inline := by
  cases flag <;> rfl

/-- All values of an option give one answer, or any two values give different ones. -/
def IsConstantOrInjective (answer : String → Except Error Command) : Prop :=
  (∀ v w, answer v = answer w) ∨ Function.Injective answer

lemma finish_assign (d : Draft) (flag : Flag) :
    IsConstantOrInjective fun v => (d.assign flag v).finish := by
  rcases d with ⟨config, file, inline, params, skip⟩
  cases inline with
  | some template =>
    cases flag with
    | file => exact .inl fun v w => rfl
    | _ => cases file <;> simp [IsConstantOrInjective, Function.Injective, finish, assign]
  | none =>
    cases flag with
    | file => simp [IsConstantOrInjective, Function.Injective, finish, assign]
    | _ => cases file <;> simp [IsConstantOrInjective, Function.Injective, finish, assign]

/-- A later value of the same option counts instead. -/
lemma isConstantOrInjective_assign {flag : Flag} {tokens : List String}
    (h : ∀ d : Draft, IsConstantOrInjective fun v => (d.assign flag v).read tokens) (d : Draft)
    (other : Flag) (w : String) :
    IsConstantOrInjective fun v => ((d.assign flag v).assign other w).read tokens := by
  by_cases he : flag = other
  · subst he
    simp only [assign_assign_self]
    exact .inl fun v w => rfl
  · simp only [assign_comm d he]
    exact h _

lemma read_assign (d : Draft) (flag : Flag) (tokens : List String) :
    IsConstantOrInjective fun v => (d.assign flag v).read tokens := by
  match tokens with
  | [] => exact finish_assign d flag
  | text :: tokens =>
    rcases Token.ofText_cases text with ⟨-, hhelp⟩ | ⟨other, htoken, rfl⟩ |
      ⟨other, w, -, rfl⟩ | ⟨hunknown, -⟩ | ⟨-, ht⟩
    · simp only [read_help hhelp]
      exact .inl fun v w => rfl
    · cases tokens with
      | nil =>
        simp only [read, htoken]
        exact .inl fun v w => rfl
      | cons w tokens =>
        simp only [read_apart]
        exact isConstantOrInjective_assign (fun d => read_assign d flag tokens) d other w
    · simp only [read_joined]
      exact isConstantOrInjective_assign (fun d => read_assign d flag tokens) d other _
    · simp only [read_of_unknown hunknown]
      exact .inl fun v w => rfl
    · simp only [read_of_isTemplate ht, inline_assign]
      by_cases hinline : d.inline = none
      · simp only [if_pos hinline, assign_inline]
        exact read_assign _ flag tokens
      · simp only [if_neg hinline]
        exact .inl fun v w => rfl

end Draft

/-- The option that is joined to its value by an equals sign is read like the option with the rest
of the value behind the copies of both at its head. So it gives the answer of the option and the
value in two arguments exactly when the value does not start with such a copy or the answer is the
same for every other value. -/
theorem ofArguments_joined (program : String) (flag : Flag) (value : String) {before : List String}
    (h : ¬LeavesWaiting before) (after : List String) :
    let answer := fun tokens => ofArguments (program :: "render" :: (before ++ tokens ++ after))
    (∃ taken, IsTaken flag value taken ∧
        answer [flag.text ++ "=" ++ value] = answer [flag.text, taken]) ∧
      (answer [flag.text ++ "=" ++ value] = answer [flag.text, value] ↔
        ¬(flag.text ++ "=").toList <+: value.toList ∨
          ∀ other, answer [flag.text, other] = answer [flag.text, value]) := by
  intro answer
  have hrender : ∀ tokens, ofArguments (program :: "render" :: tokens) = Draft.empty.read tokens :=
    fun tokens => rfl
  have hanswer : ∀ tokens, answer tokens = Draft.empty.read (before ++ (tokens ++ after)) := by
    intro tokens
    rw [← List.append_assoc, ← hrender]
  -- The arguments in front settle the answer, or both spellings are read from one draft.
  have htaken : answer [flag.mark ++ value] = answer [flag.text, flag.taken value] := by
    rw [hanswer, hanswer]
    rcases Draft.empty.read_append h with ⟨settled, hsettled⟩ | ⟨d, hread⟩
    · rw [hsettled, hsettled]
    · rw [hread, hread]
      exact (d.read_joined flag value after).trans (d.read_apart flag _ after).symm
  have hvalues : Draft.IsConstantOrInjective fun v => answer [flag.text, v] := by
    simp only [hanswer]
    rcases Draft.empty.read_append h with ⟨settled, hsettled⟩ | ⟨d, hread⟩
    · simp only [hsettled]
      exact .inl fun v w => rfl
    · simp only [hread]
      have happly : ∀ v, d.read ([flag.text, v] ++ after) = (d.assign flag v).read after :=
        fun v => d.read_apart flag v after
      simp only [happly]
      exact d.read_assign flag after
  refine ⟨⟨flag.taken value, isTaken_taken flag value, htaken⟩, ?_⟩
  change answer [flag.mark ++ value] = answer [flag.text, value] ↔ _
  rw [htaken, ← Flag.mark, ← Flag.taken_eq_self_iff]
  constructor
  · intro he
    rcases hvalues with hconstant | hinjective
    · exact .inr fun other => hconstant other value
    · exact .inl (hinjective he)
  · rintro (he | hconstant)
    · rw [he]
    · exact hconstant _

/-- The value of an option may look like another option, and the argument in front of it may look
like a call for help. -/
theorem ofArguments_joinedBehindValue :
    ¬LeavesWaiting ["select ?", "--params", "-h"] ∧
      ofArguments ["sqltmpl", "render", "select ?", "--params", "-h", "--skip=--file=q"] =
        .ok (.render ⟨"sqltmpl.toml", false, .inline "select ?", some "-h", some "--file=q"⟩) := by
  have h : ¬LeavesWaiting ["select ?", "--params", "-h"] := by
    rintro ⟨us, flag, he⟩
    have hlast := congrArg List.getLast? he
    rw [List.getLast?_concat] at hlast
    exact flag.text_ne.1 (Option.some.inj hlast).symm
  have hbare : ¬(Flag.text .skip ++ "=").toList <+: "--file=q".toList := by decide
  have hapart :
      ofArguments ["sqltmpl", "render", "select ?", "--params", "-h", "--skip", "--file=q"] =
        .ok (.render ⟨"sqltmpl.toml", false, .inline "select ?", some "-h", some "--file=q"⟩) :=
    rfl
  have hsame := (ofArguments_joined "sqltmpl" .skip "--file=q" h []).2.2 (.inl hbare)
  exact ⟨h, hsame.trans hapart⟩

/-- The two spellings of a value that starts with the option and an equals sign give different
answers. -/
theorem ofArguments_copiedOption :
    ¬∀ (program : String) (flag : Flag) (value : String) (before after : List String),
      ¬LeavesWaiting before →
        ofArguments (program :: "render" :: (before ++ [flag.text ++ "=" ++ value] ++ after)) =
          ofArguments (program :: "render" :: (before ++ [flag.text, value] ++ after)) := by
  intro hall
  have h : ¬LeavesWaiting [] := by
    rintro ⟨us, flag, he⟩
    cases us <;> simp at he
  have htaken : Flag.taken .file "--file=q" = "q" := by decide +kernel
  have hjoined : ofArguments ["sqltmpl", "render", Flag.mark .file ++ "--file=q"] =
      .ok (.render ⟨"sqltmpl.toml", false, .file "q", none, none⟩) := by
    rw [← htaken]
    exact Draft.empty.read_joined .file "--file=q" []
  have hapart : ofArguments ["sqltmpl", "render", "--file", "--file=q"] =
      .ok (.render ⟨"sqltmpl.toml", false, .file "--file=q", none, none⟩) :=
    Draft.empty.read_apart .file "--file=q" []
  have hcommands := hjoined.symm.trans ((hall "sqltmpl" .file "--file=q" [] [] h).trans hapart)
  simp at hcommands

end QueryTemplate.Command
