import QueryTemplate.Proofs.Defects
import QueryTemplate.Proofs.Statement

/-!
# The placeholders of a text

A placeholder of a text is known by what stands before its question mark, and its number counts
the live question marks there. The character behind the question mark completes the placeholder:
it is the suffix, or it shows that there is none.
-/

namespace QueryTemplate

/-- A defect that only the end of the template shows. -/
def Defect.IsAtEnd (defect : Defect) : Prop :=
  defect = .unterminatedBlock ∨ defect = .unterminatedString

namespace Template

/-- The number of the placeholder whose question mark stands behind a text. -/
def number (before : List Char) : Nat := (live before).count '?'

/-- The placeholder that a character behind a question mark completes. -/
def completedBy (c : Char) : Placeholder := (Placeholder.ofSuffix? c).getD .generic

/-- A text contains the placeholder whose question mark stands behind `before`, and the character
that completes it. -/
def Asks (cs before : List Char) (p : Placeholder) : Prop :=
  ∃ c after, cs = before ++ '?' :: c :: after ∧ IsLive before ∧ c ≠ '?' ∧ p = completedBy c

/-- The placeholder whose question mark stands behind `before` accepts its parameter. -/
def IsServed (params : List Value) (before : List Char) (p : Placeholder) : Prop :=
  ∃ v, params[number before]? = some v ∧ p.Accepts v

/-- The error of the placeholder whose question mark stands behind `before`. -/
def errorBehind? (params : List Value) (before : List Char) (p : Placeholder) :
    Option ArgumentError :=
  (Item.placeholder p).error? params (number before)

/-- The placeholder whose question mark stands behind `before` has an error, and those before it
accept their parameters. -/
def FailsFirst (params : List Value) (before : List Char) (p : Placeholder)
    (error : ArgumentError) : Prop :=
  errorBehind? params before p = some error ∧
    ∀ outside q, Asks before outside q → IsServed params outside q

/-- The first placeholder of a text that does not accept its parameter has the given error. -/
def Raises (params : List Value) (cs : List Char) (error : ArgumentError) : Prop :=
  ∃ before p, Asks cs before p ∧ FailsFirst params before p error

variable {params : List Value} {cs before : List Char}

lemma errorBehind?_eq_none_iff {p : Placeholder} :
    errorBehind? params before p = none ↔ IsServed params before p := by
  simp [errorBehind?, Item.error?_eq_none_iff, IsServed]

lemma IsServed.errorBehind?_ne {p : Placeholder} (h : IsServed params before p)
    (error : ArgumentError) : errorBehind? params before p ≠ some error := by
  simp [errorBehind?_eq_none_iff.2 h]

lemma number_concat (cs : List Char) (c : Char) :
    number (cs ++ [c]) = if IsLive cs ∧ c = '?' then number cs + 1 else number cs := by
  rw [number, live_concat, number]
  by_cases hl : IsLive cs
  · by_cases hc : c = '?' <;> simp [hl, hc, List.count_append]
  · simp [hl]

lemma Asks.append {p : Placeholder} (h : Asks cs before p) (ds : List Char) :
    Asks (cs ++ ds) before p := by
  obtain ⟨c, after, rfl, h⟩ := h
  exact ⟨c, after ++ ds, by simp, h⟩

lemma asks_concat {c : Char} {p : Placeholder} :
    Asks (cs ++ [c]) before p ↔
      Asks cs before p ∨ OpensPlaceholder before cs ∧ c ≠ '?' ∧ p = completedBy c := by
  constructor
  · rintro ⟨d, after, he, hl, hd⟩
    have hs : before ++ '?' :: d :: after = before ++ ['?'] ++ d :: after := by simp
    rcases concat_eq_append_cons (he.trans hs) with ⟨-, hb, rfl⟩ | ⟨after, -, rfl⟩
    · exact .inr ⟨⟨hb.symm, hl⟩, hd⟩
    · exact .inl ⟨d, after, by simp, hl, hd⟩
  · rintro (h | ⟨⟨rfl, hl⟩, hc, hp⟩)
    · exact h.append [c]
    · exact ⟨c, [], by simp, hl, hc, hp⟩

lemma Raises.append {error : ArgumentError} (h : Raises params cs error) (ds : List Char) :
    Raises params (cs ++ ds) error := by
  obtain ⟨before, p, ha, h⟩ := h
  exact ⟨before, p, ha.append ds, h⟩

lemma not_asks_nil {p : Placeholder} : ¬Asks [] before p := by
  rintro ⟨c, after, he, -⟩
  simp at he

/-! ### Placeholders before a defect -/

/-- A template asks for a placeholder whose question mark stands behind `before`, and before the
given defect at the given offset. A defect that only the end shows comes after all of them. -/
def AsksBefore (cs : List Char) (defect : Defect) (offset : Nat) (before : List Char)
    (p : Placeholder) : Prop :=
  Asks cs before p ∧ (defect.IsAtEnd ∨ Text.byteLength before < offset)

variable {p q : Placeholder} {defect : Defect} {offset : Nat} {outside : List Char}

/-- The placeholders that a defect and the text before it ask for. -/
lemma asks_concat_iff_asksBefore {c : Char} {after : List Char}
    (hd : DefectAt before c defect) :
    Asks (before ++ [c]) outside p ↔
      AsksBefore (before ++ c :: after) defect (Text.byteLength before) outside p := by
  have hend : ¬defect.IsAtEnd := by cases hd <;> simp [Defect.IsAtEnd]
  rw [AsksBefore, or_iff_right hend]
  constructor
  · intro ha
    refine ⟨by simpa using ha.append after, ?_⟩
    obtain ⟨d, rest, he, -⟩ := ha
    have hs : outside ++ '?' :: d :: rest = outside ++ ['?'] ++ d :: rest := by simp
    have hsplit : ∃ ds, before = outside ++ ['?'] ++ ds := by
      rcases concat_eq_append_cons (he.trans hs) with ⟨-, hb, -⟩ | ⟨ds, -, hb⟩
      · exact ⟨[], by rw [← hb, List.append_nil]⟩
      · exact ⟨d :: ds, hb⟩
    obtain ⟨ds, rfl⟩ := hsplit
    have hpos : 0 < '?'.utf8Size := Char.utf8Size_pos _
    simp only [Text.byteLength_append, Text.byteLength]
    omega
  · rintro ⟨⟨d, rest, he, hl, hq, rfl⟩, hlt⟩
    refine ⟨d, ?_⟩
    rcases List.append_eq_append_iff.1 he with ⟨xs, hx, -⟩ | ⟨xs, rfl, hx⟩
    · rw [hx, Text.byteLength_append] at hlt
      omega
    · cases xs with
      | nil => simp at hlt
      | cons x xs =>
        obtain ⟨rfl, hy⟩ : '?' = x ∧ d :: rest = xs ++ c :: after := List.cons.inj hx
        cases xs with
        | nil =>
          obtain ⟨rfl, -⟩ : d = c ∧ rest = after := List.cons.inj hy
          exact ⟨[], by simp, hl, hq, rfl⟩
        | cons y ys =>
          obtain ⟨rfl, -⟩ : d = y ∧ rest = ys ++ c :: after := List.cons.inj hy
          exact ⟨ys ++ [c], by simp, hl, hq, rfl⟩

/-- The first placeholder before a defect that does not accept its parameter has the given
error. -/
def RaisesBefore (params : List Value) (cs : List Char) (defect : Defect) (offset : Nat)
    (error : ArgumentError) : Prop :=
  ∃ before p, AsksBefore cs defect offset before p ∧ FailsFirst params before p error

lemma asks_or_eq_of_append {ds es fs : List Char} {c d : Char} (hl : IsLive before) (hc : c ≠ '?')
    (he : '?' :: c :: es = ds ++ '?' :: d :: fs) :
    Asks (before ++ ds) before (completedBy c) ∨ ds = [] ∧ c = d := by
  cases ds with
  | nil => exact .inr ⟨rfl, (List.cons.inj (List.cons.inj he).2).1⟩
  | cons x ds =>
    obtain ⟨rfl, ht⟩ : '?' = x ∧ c :: es = ds ++ '?' :: d :: fs := List.cons.inj he
    cases ds with
    | nil => exact absurd (List.cons.inj ht).1 hc
    | cons y ds =>
      obtain ⟨rfl, -⟩ : c = y ∧ es = ds ++ '?' :: d :: fs := List.cons.inj ht
      exact .inl ⟨c, ds, rfl, hl, hc, rfl⟩

/-- Of two placeholders of a text, one stands before the other. -/
lemma Asks.before_or_eq_or_after (h : Asks cs before p)
    (h' : Asks cs outside q) :
    Asks outside before p ∨ before = outside ∧ p = q ∨ Asks before outside q := by
  obtain ⟨c, rest, he, hl, hc, rfl⟩ := h
  obtain ⟨d, rest', he', hl', hd, rfl⟩ := h'
  rcases List.append_eq_append_iff.1 (he.symm.trans he') with ⟨ds, rfl, ht⟩ | ⟨ds, rfl, ht⟩
  · rcases asks_or_eq_of_append hl hc ht with ha | ⟨rfl, rfl⟩
    · exact .inl ha
    · exact .inr (.inl ⟨by simp, rfl⟩)
  · rcases asks_or_eq_of_append hl' hd ht with ha | ⟨rfl, rfl⟩
    · exact .inr (.inr ha)
    · exact .inr (.inl ⟨by simp, rfl⟩)

lemma not_raisesBefore (hs : ∀ before p, AsksBefore cs defect offset before p →
    IsServed params before p) (error : ArgumentError) :
    ¬RaisesBefore params cs defect offset error := by
  rintro ⟨before, p, ha, he, -⟩
  exact (hs before p ha).errorBehind?_ne error he

lemma RaisesBefore.unique {error error' : ArgumentError}
    (h : RaisesBefore params cs defect offset error)
    (h' : RaisesBefore params cs defect offset error') : error = error' := by
  obtain ⟨before, p, ha, he, hs⟩ := h
  obtain ⟨outside, q, ha', he', hs'⟩ := h'
  rcases ha.1.before_or_eq_or_after ha'.1 with hb | ⟨rfl, rfl⟩ | hb
  · exact absurd he ((hs' before p hb).errorBehind?_ne error)
  · exact Option.some.inj (he.symm.trans he')
  · exact absurd he' ((hs outside q hb).errorBehind?_ne error')

end Template

end QueryTemplate
