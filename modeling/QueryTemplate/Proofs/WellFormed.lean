import QueryTemplate.Proofs.Parts
import Mathlib.Algebra.Group.Nat.Even
import Mathlib.Tactic.Common

/-!
# Well-formed templates

A character of a template is live when an even number of quotes stands before it. A template is
well-formed when its quotes are even in number, no two neighbours are both live question marks,
and its live braces alternate. These are the templates that consist of parts.
-/

namespace QueryTemplate.Template

/-- What follows a text is live: the text has an even number of quotes. -/
def IsLive (before : List Char) : Prop := Even (before.count '\'')

instance (before : List Char) : Decidable (IsLive before) :=
  inferInstanceAs (Decidable (Even _))

/-- The live characters of a text that stands after `before`. -/
def liveAfter (before : List Char) : List Char → List Char
  | [] => []
  | c :: cs =>
    if IsLive before then c :: liveAfter (before ++ [c]) cs else liveAfter (before ++ [c]) cs

/-- The live characters of a template. -/
def live (cs : List Char) : List Char := liveAfter [] cs

def isBrace (c : Char) : Bool := c == '\x7b' || c == '\x7d'

/-- No two neighbours are both live question marks. -/
def QuestionsApart (cs : List Char) : Prop :=
  ∀ before after, cs = before ++ '?' :: '?' :: after → ¬(IsLive before ∧ IsLive (before ++ ['?']))

structure WellFormed (cs : List Char) : Prop where
  /-- The number of quotes is even. -/
  quotes : Even (cs.count '\'')
  questions : QuestionsApart cs
  /-- The live braces are pairs of an opening and a closing one. -/
  braces : ∃ n, (live cs).filter isBrace = pairs n

/-! ### Live characters -/

@[simp] lemma isLive_nil : IsLive [] := by simp [IsLive]

lemma isLive_append (cs ds : List Char) : IsLive (cs ++ ds) ↔ (IsLive cs ↔ IsLive ds) := by
  simp only [IsLive, List.count_append, Nat.even_add]

lemma isLive_cons (c : Char) (cs : List Char) :
    IsLive (c :: cs) ↔ if c = '\'' then ¬IsLive cs else IsLive cs := by
  by_cases h : c = '\''
  · subst h
    simp only [IsLive, List.count_cons_self, Nat.even_add_one, if_true]
  · simp only [IsLive, List.count_cons_of_ne h, if_neg h]

lemma isLive_of_notMem {cs : List Char} (h : '\'' ∉ cs) : IsLive cs := by
  simp [IsLive, List.count_eq_zero_of_not_mem h]

/-- A literal leaves what follows as live as it was. -/
lemma isLive_literal {content : List Char} (h : '\'' ∉ content) (cs : List Char) :
    IsLive ('\'' :: (content ++ '\'' :: cs)) ↔ IsLive cs := by
  have hc : IsLive content := isLive_of_notMem h
  simp only [isLive_cons, isLive_append, hc, if_true, true_iff, not_not]

/-- Which characters are live depends on what stands before them only by its quotes. -/
lemma liveAfter_congr {before before' : List Char} (h : IsLive before ↔ IsLive before')
    (cs : List Char) : liveAfter before cs = liveAfter before' cs := by
  induction cs generalizing before before' with
  | nil => rfl
  | cons c cs ih =>
    have hn : IsLive (before ++ [c]) ↔ IsLive (before' ++ [c]) := by
      simp only [isLive_append, h]
    simp only [liveAfter, h, ih hn]

lemma liveAfter_append (before cs ds : List Char) :
    liveAfter before (cs ++ ds) = liveAfter before cs ++ liveAfter (before ++ cs) ds := by
  induction cs generalizing before with
  | nil => simp [liveAfter]
  | cons c cs ih =>
    have he : before ++ c :: cs = before ++ [c] ++ cs := by simp
    simp only [List.cons_append, liveAfter, ih, he]
    split <;> rfl

/-- A text with an even number of quotes and the text after it have their live characters each
on its own. -/
lemma live_append {before : List Char} (h : IsLive before) (cs : List Char) :
    live (before ++ cs) = live before ++ live cs := by
  rw [live, live, live, liveAfter_append]
  exact congrArg _ (liveAfter_congr (by simp [h]) cs)

lemma liveAfter_of_not_isLive {before cs : List Char} (hb : ¬IsLive before) (h : '\'' ∉ cs) :
    liveAfter before cs = [] := by
  induction cs generalizing before with
  | nil => rfl
  | cons c cs ih =>
    have hc : c ≠ '\'' := fun he => h (he ▸ List.mem_cons_self)
    have hn : ¬IsLive (before ++ [c]) := by
      simp only [isLive_append, isLive_cons, if_neg hc, isLive_nil, iff_true, hb, not_false_eq_true]
    rw [liveAfter, if_neg hb, ih hn (fun hm => h (.tail _ hm))]

lemma live_cons {c : Char} (h : c ≠ '\'') (cs : List Char) : live (c :: cs) = c :: live cs := by
  have hc : IsLive [c] := by simp [isLive_cons, h]
  simpa [live, liveAfter] using live_append hc cs

lemma live_literal {content : List Char} (h : '\'' ∉ content) (cs : List Char) :
    live ('\'' :: (content ++ '\'' :: cs)) = '\'' :: live cs := by
  have hq : ¬IsLive ['\''] := by simp [isLive_cons]
  have hb : IsLive ('\'' :: (content ++ ['\''])) := (isLive_literal h []).2 isLive_nil
  have hl : liveAfter ['\''] content = [] := liveAfter_of_not_isLive hq h
  have hn : ¬IsLive ('\'' :: content) := by simp [isLive_cons, isLive_of_notMem h]
  have hs : '\'' :: (content ++ '\'' :: cs) = '\'' :: (content ++ ['\'']) ++ cs := by simp
  rw [hs, live_append hb]
  simp [live, liveAfter, liveAfter_append, hl, hn]

/-! ### The parts of a well-formed template -/

lemma isBrace_of_notMem {c : Char} (h : c ∉ marks) : isBrace c = false := by
  simp only [marks, List.mem_cons, List.not_mem_nil, or_false, not_or] at h
  simp [isBrace, h]

lemma isBrace_of_ofSuffix? {c : Char} {p : Placeholder} (h : Placeholder.ofSuffix? c = some p) :
    c ≠ '\'' ∧ isBrace c = false := by
  unfold Placeholder.ofSuffix? at h
  split at h <;> first | exact ⟨by decide, by decide⟩ | cases h

/-- A token has an even number of quotes, and the live braces of its text are those of the
token. -/
lemma Front.exists_text {cs cs' : List Char} {t : Token} (h : Front cs t cs') :
    ∃ text, cs = text ++ cs' ∧ IsLive text ∧ (live text).filter isBrace = t.brace?.toList := by
  cases h with
  | @literal content _ hq =>
    refine ⟨'\'' :: (content ++ ['\'']), by simp, (isLive_literal hq []).2 isLive_nil, ?_⟩
    rw [live_literal hq]
    rfl
  | @typed c p _ hp =>
    obtain ⟨hc, hcb⟩ := isBrace_of_ofSuffix? hp
    refine ⟨['?', c], rfl, by simp [isLive_cons, hc], ?_⟩
    rw [live_cons (by decide), live_cons hc, List.filter_cons_of_neg (by decide),
      List.filter_cons_of_neg (by simp [hcb])]
    rfl
  | bare hs => exact ⟨['?'], rfl, by decide, by decide⟩
  | opening => exact ⟨['\x7b'], rfl, by decide, by decide⟩
  | closing => exact ⟨['\x7d'], rfl, by decide, by decide⟩
  | @plain c _ hc =>
    have hq : c ≠ '\'' := fun he => hc (he ▸ by decide)
    refine ⟨[c], rfl, by simp [isLive_cons, hq], ?_⟩
    rw [live_cons hq, List.filter_cons_of_neg (by simp [isBrace_of_notMem hc])]
    rfl

/-- Tokens end where as many quotes have been read as they began, and the live braces of their
text are those of the tokens. -/
lemma Splits.exists_text {cs rest : List Char} {ts : List Token} (h : Splits cs ts rest) :
    ∃ text, cs = text ++ rest ∧ IsLive text ∧ (live text).filter isBrace = braces ts := by
  induction h with
  | done => exact ⟨[], rfl, isLive_nil, rfl⟩
  | @next cs t cs' ts rest hf h ih =>
    obtain ⟨first, rfl, hl, hb⟩ := hf.exists_text
    obtain ⟨text, rfl, hl', hb'⟩ := ih
    refine ⟨first ++ text, by simp, by simp [isLive_append, hl, hl'], ?_⟩
    rw [live_append hl, List.filter_append, hb, hb', braces_cons]

lemma questionsApart_iff (cs : List Char) :
    QuestionsApart cs ↔ ∀ before after, cs = before ++ '?' :: '?' :: after → ¬IsLive before := by
  have h : ∀ before, IsLive before ∧ IsLive (before ++ ['?']) ↔ IsLive before := by
    intro before
    simp [isLive_append, isLive_cons]
  simp only [QuestionsApart, h]

lemma questionsApart_cons {c : Char} {cs : List Char} (hc : c ≠ '\'')
    (hd : ∀ after, c :: cs ≠ '?' :: '?' :: after) (h : QuestionsApart cs) :
    QuestionsApart (c :: cs) := by
  rw [questionsApart_iff] at h ⊢
  intro before after he
  cases before with
  | nil => exact absurd he (hd after)
  | cons x before =>
    obtain ⟨rfl, ht⟩ := List.cons.inj he
    simpa [isLive_cons, hc] using h before after ht

lemma questionsApart_literal {content cs : List Char} (hq : '\'' ∉ content)
    (h : QuestionsApart cs) : QuestionsApart ('\'' :: (content ++ '\'' :: cs)) := by
  rw [questionsApart_iff] at h ⊢
  intro before after he
  cases before with
  | nil => exact absurd (List.cons.inj he).1 (by decide)
  | cons c before =>
    obtain ⟨rfl, ht⟩ := List.cons.inj he
    rcases List.append_eq_append_iff.1 ht with ⟨xs, rfl, hx⟩ | ⟨xs, rfl, hx⟩
    · cases xs with
      | nil => exact absurd (List.cons.inj hx).1 (by decide)
      | cons x xs =>
        obtain ⟨rfl, rfl⟩ := List.cons.inj hx
        rw [isLive_literal hq]
        exact h _ _ rfl
    -- both question marks stand in the literal
    · have hb : '\'' ∉ before := fun hm => hq (List.mem_append_left _ hm)
      simp [isLive_cons, isLive_of_notMem hb]

lemma Front.questionsApart {cs cs' : List Char} {t : Token} (hf : Front cs t cs')
    (h : QuestionsApart cs') : QuestionsApart cs := by
  cases hf with
  | literal hq => exact questionsApart_literal hq h
  | @typed c p _ hp =>
    have hc : c ≠ '?' := fun he => by rw [he] at hp; cases hp
    have hr : QuestionsApart (c :: cs') := questionsApart_cons (isBrace_of_ofSuffix? hp).1
      (fun after he => hc (List.cons.inj he).1) h
    exact questionsApart_cons (by decide)
      (fun after he => hc (List.cons.inj (List.cons.inj he).2).1) hr
  | bare hs =>
    refine questionsApart_cons (by decide) ?_ h
    intro after he
    rw [(List.cons.inj he).2] at hs
    exact hs.1 rfl
  | opening =>
    exact questionsApart_cons (by decide) (fun _ he => absurd (List.cons.inj he).1 (by decide)) h
  | closing =>
    exact questionsApart_cons (by decide) (fun _ he => absurd (List.cons.inj he).1 (by decide)) h
  | @plain c _ hc =>
    have hm : ∀ d ∈ marks, c ≠ d := fun d hd he => hc (he ▸ hd)
    exact questionsApart_cons (hm _ (by decide))
      (fun _ he => hm '?' (by decide) (List.cons.inj he).1) h

lemma Splits.questionsApart {cs rest : List Char} {ts : List Token} (h : Splits cs ts rest)
    (hr : QuestionsApart rest) : QuestionsApart cs := by
  induction h with
  | done => exact hr
  | next hf _ ih => exact hf.questionsApart (ih hr)

lemma questionsApart_nil : QuestionsApart [] := by
  intro before after he
  simp at he

/-- The well-formed templates are those that consist of parts. -/
theorem wellFormed_iff_exists_parts (template : String) :
    WellFormed template.toList ↔ ∃ parts, ConsistsOf template parts := by
  constructor
  · rintro ⟨hquotes, hquestions, n, hbraces⟩
    obtain ⟨ts, rest, hs, hr⟩ := exists_splits template.toList
    obtain ⟨text, he, hl, hb⟩ := hs.exists_text
    cases hr with
    | empty =>
      rw [List.append_nil] at he
      rw [he, hb] at hbraces
      obtain ⟨parts, rfl⟩ := exists_parts_of_braces hbraces
      exact ⟨parts, hs⟩
    | double =>
      have hnext : IsLive (text ++ ['?']) := by simpa [isLive_append, isLive_cons] using hl
      exact absurd ⟨hl, hnext⟩ (hquestions _ _ he)
    | @openLiteral content hq =>
      have hw : IsLive (text ++ '\'' :: content) := he ▸ hquotes
      simp [isLive_append, isLive_cons, hl, isLive_of_notMem hq] at hw
  · rintro ⟨parts, h⟩
    obtain ⟨text, he, hl, hb⟩ := Splits.exists_text h
    rw [List.append_nil] at he
    obtain ⟨n, hn⟩ := exists_braces_parts parts
    exact ⟨he ▸ hl, Splits.questionsApart h questionsApart_nil, n, by rw [he, hb, hn]⟩

end QueryTemplate.Template
