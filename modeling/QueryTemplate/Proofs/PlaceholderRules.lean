import QueryTemplate.Proofs.EscaperCalls
import QueryTemplate.Proofs.Rounding
import QueryTemplate.Proofs.WholeParts

/-!
# Which values a placeholder writes

A placeholder takes values of some shapes. A value of such a shape has parts, and the placeholder
writes it when it writes every part, or refuses it with the kind of the first part that it does
not write. A value of another shape is refused with its own kind.
-/

namespace QueryTemplate

/-! ### The text of a rendering -/

namespace Rendering

/-- The text that an escaper makes of a rendering, or the first refusal in it. -/
def write (e : Escaper) (r : Rendering) : Except Refusal String :=
  match r.refusal? with
  | some refusal => .error refusal
  | none => .ok (Piece.writeAll e r.pieces)

variable {e : Escaper} {r s : Rendering} {text : String} {refusal : Refusal}

lemma write_piece (e : Escaper) (p : Piece) : write e [.ok p] = .ok (p.write e) := by
  simp [write, refusal?, pieces, Piece.writeAll]

lemma write_eq_ok_iff :
    r.write e = .ok text ↔ r.refusal? = none ∧ Piece.writeAll e r.pieces = text := by
  unfold write
  cases r.refusal? <;> simp

lemma write_eq_error_iff : r.write e = .error refusal ↔ r.refusal? = some refusal := by
  unfold write
  cases r.refusal? <;> simp

lemma write_append {text' : String} (h : r.write e = .ok text) (h' : s.write e = .ok text') :
    (r ++ s).write e = .ok (text ++ text') := by
  rw [write_eq_ok_iff] at *
  rw [refusal?_append, h.1, Option.none_or, pieces_append_of_accepted s h.1,
    Piece.writeAll_append, h.2, h'.2]
  exact ⟨h'.1, rfl⟩

lemma write_append_of_refused (s : Rendering) (h : r.write e = .error refusal) :
    (r ++ s).write e = .error refusal := by
  rw [write_eq_error_iff] at *
  rw [refusal?_append, h, Option.some_or]

lemma write_append_of_accepted (h : r.write e = .ok text) (hs : s.write e = .error refusal) :
    (r ++ s).write e = .error refusal := by
  rw [write_eq_ok_iff] at h
  rw [write_eq_error_iff] at *
  rw [refusal?_append, h.1, Option.none_or, hs]

lemma commaSeparated_cons_of_ne_nil (r : Rendering) {rs : List Rendering} (h : rs ≠ []) :
    commaSeparated (r :: rs) = r ++ ([.ok (.text ", ")] ++ commaSeparated rs) := by
  cases rs with
  | nil => exact absurd rfl h
  | cons s rest => rfl

variable {α : Type} {g : α → Rendering} {t : α → String} {xs before after : List α} {x : α}

/-- Items that are all accepted are written with a comma and a space between two of them. -/
lemma write_commaSeparated (h : ∀ x ∈ xs, (g x).write e = .ok (t x)) :
    (commaSeparated (xs.map g)).write e = .ok (", ".intercalate (xs.map t)) := by
  induction xs with
  | nil => rfl
  | cons x xs ih =>
    have hx := h x List.mem_cons_self
    have hrest := ih fun y hy => h y (List.mem_cons_of_mem x hy)
    cases xs with
    | nil =>
      rw [List.map_singleton, List.map_singleton, String.intercalate_singleton]
      exact hx
    | cons y ys =>
      have hjoin : ", ".intercalate ((x :: y :: ys).map t) =
          t x ++ (", " ++ ", ".intercalate ((y :: ys).map t)) := by
        simp [String.append_assoc]
      rw [List.map_cons, commaSeparated_cons_of_ne_nil _ (by simp), hjoin]
      exact write_append hx (write_append (write_piece e (.text ", ")) hrest)

/-- The first item that is refused gives the refusal. -/
lemma write_commaSeparated_of_refused (hbefore : ∀ y ∈ before, ∃ a, (g y).write e = .ok a)
    (hx : (g x).write e = .error refusal) :
    (commaSeparated ((before ++ x :: after).map g)).write e = .error refusal := by
  induction before with
  | nil =>
    rw [List.nil_append, List.map_cons]
    cases after with
    | nil => exact hx
    | cons y ys =>
      rw [commaSeparated_cons_of_ne_nil _ (by simp)]
      exact write_append_of_refused _ hx
  | cons y before ih =>
    obtain ⟨text, hy⟩ := hbefore y List.mem_cons_self
    have hrest := ih fun z hz => hbefore z (List.mem_cons_of_mem y hz)
    rw [List.cons_append, List.map_cons, commaSeparated_cons_of_ne_nil _ (by simp)]
    apply write_append_of_accepted hy
    exact write_append_of_accepted (write_piece e (.text ", ")) hrest

end Rendering

/-! ### The rules -/

namespace Value

/-- A value has a literal form: it is a scalar, and finite if it is a number. -/
def IsLiteral (v : Value) : Prop := v.isScalar = true ∧ ∀ x, v = float x → x.isFinite = true

/-- The text of a value with a literal form. -/
def literalText (e : Escaper) : Value → String
  | null => "null"
  | bool b => if b then "1" else "0"
  | int n => toString n.toInt
  | float x => String.ofList x.plainText
  | string s => "'" ++ e.escape s ++ "'"
  | list _ => ""
  | map _ => ""

/-- The text of a value that is a name. -/
def nameText (e : Escaper) : Value → String
  | string s => e.quote s
  | _ => ""

/-- The text of an entry of a map. -/
def entryText (e : Escaper) (entry : String × Value) : String :=
  e.quote entry.1 ++ " = " ++ entry.2.literalText e

/-- The text of a scalar as an integer. -/
def integerText : Value → String
  | null => "null"
  | bool b => if b then "1" else "0"
  | int n => toString n.toInt
  | float x => toString (towardZero x.toRat)
  | string s => toString (intOfText s).toInt
  | list _ => ""
  | map _ => ""

/-- The text of a scalar as a number. -/
def numberText : Value → String
  | null => "null"
  | bool b => if b then "1" else "0"
  | int n => String.ofList (Double.ofInt n.toInt).plainText
  | float x => String.ofList x.plainText
  | string s => String.ofList (doubleOfText s).plainText
  | list _ => ""
  | map _ => ""

/-- Why a value has no literal form. -/
def literalReason : Value → Reason
  | float x => .noLiteral x
  | _ => .notScalar

end Value

namespace Placeholder

/-- The values that a placeholder writes. -/
def Admits : Placeholder → Value → Prop
  | generic, v => v.IsLiteral
  | int, v => v.isScalar = true ∧
      ∀ x, v = .float x → x.isFinite = true ∧ FitsInt64 (towardZero x.toRat)
  | float, v => v.isScalar = true ∧ (∀ x, v = .float x → x.isFinite = true) ∧
      ∀ s n, v = .string s → Numeral.ofText? s = some n → n.toDouble.isFinite = true
  | array, v => v.isScalar = false ∧ ∀ x ∈ v.elements, x.IsLiteral
  | identifier, v => (∃ s, v = .string s) ∨
      ∃ items, v.items? = some items ∧ ∀ x ∈ items, ∃ s, x = .string s

/-- The text of a value that a placeholder writes. -/
def written (e : Escaper) : Placeholder → Value → String
  | generic, v => v.literalText e
  | int, v => v.integerText
  | float, v => v.numberText
  | array, v =>
    match v.items?, v with
    | none, .map entries => ", ".intercalate (entries.map (Value.entryText e))
    | _, _ => ", ".intercalate (v.elements.map (Value.literalText e))
  | identifier, .string s => e.quote s
  | identifier, v => ", ".intercalate (v.elements.map (Value.nameText e))

/-- The shapes that a placeholder takes: scalars, lists and maps, or a name and the values with
items. -/
def Takes : Placeholder → Value → Prop
  | array, v => v.isScalar = false
  | identifier, v => v.string?.isSome = true ∨ v.isListLike = true
  | _, v => v.isScalar = true

/-- The parts of a value of such a shape: its elements or itself, and for a string that counts as a
number this number. -/
def parts : Placeholder → Value → List Value
  | float, .string s => [.float (doubleOfText s)]
  | array, v => v.elements
  | identifier, v => if v.isListLike then v.elements else [v]
  | _, v => [v]

/-- The parts that a placeholder writes. -/
def Writes : Placeholder → Value → Prop
  | int, v => ∀ x, v = .float x → x.isFinite = true ∧ FitsInt64 (towardZero x.toRat)
  | identifier, v => v.string?.isSome = true
  | _, v => v.IsLiteral

def shapeReason : Placeholder → Reason
  | array => .notCollection
  | identifier => .notNames
  | _ => .notScalar

def partReason : Placeholder → Value → Reason
  | int, .float x => .outOfRange x
  | identifier, _ => .itemNotName
  | _, v => v.literalReason

/-- The refusal of a value: for its shape, or for its first part that is not written. -/
inductive Blames (p : Placeholder) (v : Value) : Refusal → Prop where
  | shape : ¬p.Takes v → Blames p v ⟨p, v.kind, p.shapeReason⟩
  | part {before x after} : p.Takes v → p.parts v = before ++ x :: after →
      (∀ y ∈ before, p.Writes y) → ¬p.Writes x → Blames p v ⟨p, x.kind, p.partReason x⟩

/-- What a placeholder writes for a value, or why it refuses the value. -/
def write (e : Escaper) (p : Placeholder) (v : Value) : Except Refusal String :=
  (p.render v).write e

end Placeholder

/-! ### Scalars -/

namespace Value

variable {e : Escaper} {p : Placeholder} {v : Value}

lemma isLiteral_iff : v.IsLiteral ↔ v.isWritable = true := by
  cases v <;> simp [IsLiteral, isWritable, isScalar, kind]

lemma write_scalarStep (h : v.IsLiteral) :
    Rendering.write e [v.scalarStep p] = .ok (v.literalText e) := by
  rw [isLiteral_iff] at h
  have hstep : ∃ piece, v.scalarStep p = .ok piece ∧ piece.write e = v.literalText e := by
    cases v with
    | float x =>
      rw [isWritable] at h
      exact ⟨_, by rw [scalarStep, if_pos h], rfl⟩
    | list items => cases h
    | map entries => cases h
    | _ => exact ⟨_, rfl, rfl⟩
  obtain ⟨piece, hpiece, htext⟩ := hstep
  rw [hpiece, Rendering.write_piece, htext]

lemma write_scalarStep_of_not (h : ¬v.IsLiteral) :
    Rendering.write e [v.scalarStep p] = .error ⟨p, v.kind, v.literalReason⟩ := by
  rw [isLiteral_iff] at h
  cases v with
  | float x =>
    rw [isWritable] at h
    rw [scalarStep, if_neg h]
    rfl
  | list items => rfl
  | map entries => rfl
  | _ => exact absurd rfl h

lemma string?_isSome_iff : v.string?.isSome = true ↔ ∃ s, v = string s := by
  cases v <;> simp [string?]

lemma write_nameStep (s : String) : Rendering.write e [nameStep (string s)] = .ok (e.quote s) :=
  Rendering.write_piece e (.name s)

lemma write_nameStep_of_not (h : ¬v.string?.isSome = true) :
    Rendering.write e [nameStep v] = .error ⟨.identifier, v.kind, .itemNotName⟩ := by
  cases v with
  | string s => exact absurd rfl h
  | _ => rfl

/-- A double whose whole part 64 bits hold is written as this integer. -/
lemma write_coerceInt_float {x : Double} (h : x.isFinite = true ∧ FitsInt64 (towardZero x.toRat)) :
    Rendering.write e [(float x).coerceInt >>= scalarStep .int] =
      .ok (toString (towardZero x.toRat)) := by
  have hvalue := toInt_ofInt_of_fits h.2
  rw [coerceInt_float_of_inInt64Range (Double.inInt64Range_iff.2 h)]
  generalize Int64.ofInt (towardZero x.toRat) = i at hvalue ⊢
  rw [← hvalue]
  exact Rendering.write_piece e _

lemma write_coerceInt_float_of_not {x : Double}
    (h : ¬(x.isFinite = true ∧ FitsInt64 (towardZero x.toRat))) :
    Rendering.write e [(float x).coerceInt >>= scalarStep .int] =
      .error ⟨.int, .float, .outOfRange x⟩ := by
  rw [← Double.inInt64Range_iff] at h
  rw [coerceInt_float_of_not_inInt64Range h]
  rfl

end Value

namespace Placeholder

variable {e : Escaper} {p : Placeholder} {v : Value} {r : Refusal}

/-! ### Accepted values -/

lemma write_int_of_admits (h : int.Admits v) : int.write e v = .ok (int.written e v) := by
  obtain ⟨hscalar, hfits⟩ := h
  cases v with
  | float x => exact Value.write_coerceInt_float (hfits x rfl)
  | bool b => cases b <;> rfl
  | list items => cases hscalar
  | map entries => cases hscalar
  | _ => exact Rendering.write_piece e _

lemma write_float_of_isFinite {x : Double} (hv : v.coerceFloat = .ok (.float x))
    (h : x.isFinite = true) : float.write e v = .ok (String.ofList x.plainText) := by
  have hliteral : (Value.float x).IsLiteral := ⟨rfl, fun y hy => by cases hy; exact h⟩
  rw [write, render, hv]
  exact Value.write_scalarStep hliteral

lemma isFinite_doubleOfText_iff {s : String} : (doubleOfText s).isFinite = true ↔
    ∀ n, Numeral.ofText? s = some n → n.toDouble.isFinite = true := by
  unfold doubleOfText
  cases Numeral.ofText? s with
  | none => simp [Double.isFinite, Double.zero, Double.infinityMagnitude]
  | some n => simp

lemma write_float_of_admits (h : float.Admits v) : float.write e v = .ok (float.written e v) := by
  obtain ⟨hscalar, hfinite, htext⟩ := h
  cases v with
  | null => rfl
  | bool b =>
    have hplain : String.ofList (Double.ofNat b.toNat).plainText = if b then "1" else "0" := by
      cases b <;> decide +kernel
    have hnat : b.toNat ≤ Double.int64Span := b.toNat_le.trans (by decide)
    rw [write_float_of_isFinite rfl (Double.isFinite_ofRatio_one false hnat)]
    exact congrArg Except.ok hplain
  | int i => rw [write_float_of_isFinite rfl (Double.isFinite_ofInt i), written, Value.numberText]
  | float x => rw [write_float_of_isFinite rfl (hfinite x rfl), written, Value.numberText]
  | string s =>
    have hnumber : (doubleOfText s).isFinite = true := by
      rw [isFinite_doubleOfText_iff]
      intro n hn
      exact htext s n rfl hn
    rw [write_float_of_isFinite rfl hnumber, written, Value.numberText]
  | list items => cases hscalar
  | map entries => cases hscalar

lemma write_assignment {entry : String × Value} (h : entry.2.IsLiteral) :
    Rendering.write e (Value.assignment entry) = .ok (Value.entryText e entry) := by
  rw [Value.entryText, String.append_assoc]
  exact Rendering.write_append (Rendering.write_piece e (.name entry.1))
    (Rendering.write_append (Rendering.write_piece e (.text " = ")) (Value.write_scalarStep h))

lemma written_array_of_items? {items : List Value} (h : v.items? = some items) :
    array.written e v = ", ".intercalate (items.map (Value.literalText e)) := by
  simp only [written, h, Value.elements_of_items? h]

lemma written_array_map {entries : List (String × Value)} (h : (Value.map entries).items? = none) :
    array.written e (.map entries) = ", ".intercalate (entries.map (Value.entryText e)) := by
  simp only [written, h]

lemma write_array_of_admits (h : array.Admits v) : array.write e v = .ok (array.written e v) := by
  obtain ⟨hcollection, hliteral⟩ := h
  rw [write, render]
  rcases Value.arraySteps_cases v with ⟨items, hi, hsteps⟩ | ⟨entries, rfl, hi, hsteps⟩ | ⟨hs, -⟩
  · rw [hsteps, written_array_of_items? hi]
    rw [Value.elements_of_items? hi] at hliteral
    exact Rendering.write_commaSeparated fun x hx => Value.write_scalarStep (hliteral x hx)
  · rw [hsteps, written_array_map hi]
    apply Rendering.write_commaSeparated
    intro entry hentry
    exact write_assignment (hliteral _ (List.mem_map_of_mem hentry))
  · rw [hcollection] at hs
    cases hs

lemma write_identifier_of_admits (h : identifier.Admits v) :
    identifier.write e v = .ok (identifier.written e v) := by
  rw [write, render]
  rcases h with ⟨s, rfl⟩ | ⟨items, hi, hnames⟩
  · exact Rendering.write_piece e (.name s)
  · rcases Value.identifierSteps_cases v with ⟨s, rfl, -⟩ | ⟨items', hi', hs, hsteps⟩ | ⟨hi', -, -⟩
    · cases hi
    · rw [hi, Option.some.injEq] at hi'
      subst hi'
      have hwritten : identifier.written e v =
          ", ".intercalate (items.map (Value.nameText e)) := by
        rw [← Value.elements_of_items? hi]
        cases v with
        | string s => cases hs
        | _ => rfl
      rw [hsteps, hwritten]
      apply Rendering.write_commaSeparated
      intro x hx
      obtain ⟨s, rfl⟩ := hnames x hx
      exact Value.write_nameStep s
    · rw [hi] at hi'
      cases hi'

lemma write_of_admits (h : p.Admits v) : p.write e v = .ok (p.written e v) := by
  cases p with
  | generic => exact Value.write_scalarStep h
  | int => exact write_int_of_admits h
  | float => exact write_float_of_admits h
  | array => exact write_array_of_admits h
  | identifier => exact write_identifier_of_admits h

/-! ### Refused values -/

lemma write_of_not_takes (h : ¬p.Takes v) :
    p.write e v = .error ⟨p, v.kind, p.shapeReason⟩ := by
  cases p with
  | identifier =>
    rcases Value.identifierSteps_cases v with ⟨s, rfl, -⟩ | ⟨items, hi, -⟩ | ⟨-, -, hsteps⟩
    · exact absurd (.inl rfl) h
    · exact absurd (.inr (by rw [Value.isListLike, hi]; rfl)) h
    · rw [write, render, hsteps]
      rfl
  | _ => cases v <;> first | rfl | exact absurd rfl h

lemma eq_of_singleton_eq {α : Type} {v x : α} {before after : List α}
    (h : [v] = before ++ x :: after) : before = [] ∧ x = v := by
  cases before with
  | nil => exact ⟨rfl, (List.cons.inj h).1.symm⟩
  | cons y before => simp at h

lemma write_generic_of_not (h : ¬generic.Writes v) :
    generic.write e v = .error ⟨generic, v.kind, generic.partReason v⟩ :=
  Value.write_scalarStep_of_not h

lemma write_int_of_not (h : ¬int.Writes v) :
    int.write e v = .error ⟨int, v.kind, int.partReason v⟩ := by
  cases v with
  | float x =>
    apply Value.write_coerceInt_float_of_not
    intro hfits
    apply h
    intro y hy
    cases hy
    exact hfits
  | _ => exact absurd (fun x hx => by cases hx) h

section Parts

variable {before after : List Value} {x : Value}

lemma write_float_of_not (ht : float.Takes v) (hparts : float.parts v = before ++ x :: after)
    (hx : ¬float.Writes x) : float.write e v = .error ⟨float, x.kind, float.partReason x⟩ := by
  cases v with
  | float y =>
    obtain ⟨-, rfl⟩ := eq_of_singleton_eq hparts
    exact Value.write_scalarStep_of_not hx
  | string s =>
    obtain ⟨-, rfl⟩ := eq_of_singleton_eq hparts
    exact Value.write_scalarStep_of_not hx
  | list items => cases ht
  | map entries => cases ht
  | _ =>
    obtain ⟨-, rfl⟩ := eq_of_singleton_eq hparts
    exact absurd (Value.isLiteral_iff.2 rfl) hx

lemma write_assignment_of_not {entry : String × Value} (h : ¬entry.2.IsLiteral) :
    Rendering.write e (Value.assignment entry) =
      .error ⟨array, entry.2.kind, entry.2.literalReason⟩ :=
  Rendering.write_append_of_accepted (Rendering.write_piece e (.name entry.1))
    (Rendering.write_append_of_accepted (Rendering.write_piece e (.text " = "))
      (Value.write_scalarStep_of_not h))

lemma write_array_of_not (hparts : v.elements = before ++ x :: after)
    (hbefore : ∀ y ∈ before, y.IsLiteral) (hx : ¬x.IsLiteral) :
    array.write e v = .error ⟨array, x.kind, x.literalReason⟩ := by
  rw [write, render]
  rcases Value.arraySteps_cases v with ⟨items, hi, hsteps⟩ | ⟨entries, rfl, -, hsteps⟩ | ⟨hs, -⟩
  · rw [Value.elements_of_items? hi] at hparts
    subst hparts
    rw [hsteps]
    refine Rendering.write_commaSeparated_of_refused ?_ (Value.write_scalarStep_of_not hx)
    intro y hy
    exact ⟨_, Value.write_scalarStep (hbefore y hy)⟩
  · rw [Value.elements, List.map_eq_append_iff] at hparts
    obtain ⟨first, rest, rfl, rfl, hrest⟩ := hparts
    obtain ⟨entry, last, rfl, rfl, -⟩ := List.map_eq_cons_iff.1 hrest
    rw [hsteps]
    refine Rendering.write_commaSeparated_of_refused ?_ (write_assignment_of_not hx)
    intro entry' hentry
    exact ⟨_, write_assignment (hbefore _ (List.mem_map_of_mem hentry))⟩
  · rw [Value.elements_of_isScalar hs] at hparts
    simp at hparts

lemma write_identifier_of_not (ht : identifier.Takes v)
    (hparts : identifier.parts v = before ++ x :: after)
    (hbefore : ∀ y ∈ before, identifier.Writes y) (hx : ¬identifier.Writes x) :
    identifier.write e v = .error ⟨identifier, x.kind, .itemNotName⟩ := by
  rw [parts] at hparts
  rw [write, render]
  rcases Value.identifierSteps_cases v with ⟨s, rfl, -⟩ | ⟨items, hi, -, hsteps⟩ | ⟨hi, hs, -⟩
  · obtain ⟨-, rfl⟩ := eq_of_singleton_eq hparts
    exact absurd rfl hx
  · rw [Value.isListLike, hi, Option.isSome_some, if_pos rfl, Value.elements_of_items? hi] at hparts
    subst hparts
    rw [hsteps]
    refine Rendering.write_commaSeparated_of_refused ?_ (Value.write_nameStep_of_not hx)
    intro y hy
    obtain ⟨s, rfl⟩ := Value.string?_isSome_iff.1 (hbefore y hy)
    exact ⟨_, Value.write_nameStep s⟩
  · rw [Takes, hs, Value.isListLike, hi] at ht
    simp at ht

end Parts

lemma write_of_blames (h : p.Blames v r) : p.write e v = .error r := by
  cases h with
  | shape ht => exact write_of_not_takes ht
  | part ht hparts hbefore hx =>
    cases p with
    | generic =>
      obtain ⟨-, rfl⟩ := eq_of_singleton_eq hparts
      exact write_generic_of_not hx
    | int =>
      obtain ⟨-, rfl⟩ := eq_of_singleton_eq hparts
      exact write_int_of_not hx
    | float => exact write_float_of_not ht hparts hx
    | array => exact write_array_of_not hparts hbefore hx
    | identifier => exact write_identifier_of_not ht hparts hbefore hx

/-! ### Every value is accepted or refused -/

lemma admits_of_writes (ht : p.Takes v) (hw : ∀ x ∈ p.parts v, p.Writes x) : p.Admits v := by
  cases p with
  | generic => exact hw v (List.mem_singleton_self v)
  | int => exact ⟨ht, hw v (List.mem_singleton_self v)⟩
  | float =>
    refine ⟨ht, ?_, ?_⟩
    · rintro x rfl
      exact (hw _ (List.mem_singleton_self _)).2 x rfl
    · rintro s n rfl hn
      have hnumber := (hw _ (List.mem_singleton_self _)).2 _ rfl
      exact isFinite_doubleOfText_iff.1 hnumber n hn
  | array => exact ⟨ht, hw⟩
  | identifier =>
    rw [parts] at hw
    cases hi : v.items? with
    | some items =>
      rw [Value.isListLike, hi, Option.isSome_some, if_pos rfl, Value.elements_of_items? hi] at hw
      exact .inr ⟨items, hi, fun x hx => Value.string?_isSome_iff.1 (hw x hx)⟩
    | none =>
      rw [Takes, Value.isListLike, hi] at ht
      exact .inl (Value.string?_isSome_iff.1 (ht.resolve_right (by simp)))

/-- Either all elements of a list have a property, or there is a first one without it. -/
lemma forall_or_exists_first {α : Type} (P : α → Prop) (xs : List α) :
    (∀ x ∈ xs, P x) ∨
      ∃ before x after, xs = before ++ x :: after ∧ (∀ y ∈ before, P y) ∧ ¬P x := by
  induction xs with
  | nil => exact .inl fun x hx => by cases hx
  | cons x xs ih =>
    by_cases hx : P x
    · rcases ih with hall | ⟨before, y, after, rfl, hbefore, hy⟩
      · exact .inl (List.forall_mem_cons.2 ⟨hx, hall⟩)
      · exact .inr ⟨x :: before, y, after, rfl, List.forall_mem_cons.2 ⟨hx, hbefore⟩, hy⟩
    · exact .inr ⟨[], x, xs, rfl, List.forall_mem_nil _, hx⟩

lemma admits_or_exists_blames (p : Placeholder) (v : Value) :
    p.Admits v ∨ ∃ r, p.Blames v r := by
  by_cases ht : p.Takes v
  · rcases forall_or_exists_first p.Writes (p.parts v) with hall | ⟨before, x, after, h, hb, hx⟩
    · exact .inl (admits_of_writes ht hall)
    · exact .inr ⟨_, .part ht h hb hx⟩
  · exact .inr ⟨_, .shape ht⟩

/-- A value without a refusal has the text of its pieces. -/
lemma writeAll_pieces_render (e : Escaper) (h : (p.render v).refusal? = none) :
    Piece.writeAll e (p.render v).pieces = p.written e v := by
  rcases admits_or_exists_blames p v with ha | ⟨r, hb⟩
  · exact (Rendering.write_eq_ok_iff.1 (write_of_admits ha)).2
  · have hr := Rendering.write_eq_error_iff.1 (write_of_blames (e := e) hb)
    rw [h] at hr
    cases hr

end Placeholder

end QueryTemplate
