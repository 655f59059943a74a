import QueryTemplate.Rendering
import Mathlib.Data.List.Basic

/-!
# What a placeholder writes

The strings and the names that a placeholder hands to the escaper are read off its value, and all
other text that it writes is made of numbers, `null` and separators. When the strings are blanked
in the value, they are blanked in the steps of its rendering and nothing else changes.
-/

namespace QueryTemplate

/-! ### Numbers -/

/-- A character of a number in positional notation. -/
def IsNumeric (c : Char) : Prop := c.isDigit = true ∨ c = '-' ∨ c = '.'

lemma isNumeric_of_mem_toDigits {c : Char} {n : Nat} (h : c ∈ Nat.toDigits 10 n) : IsNumeric c :=
  .inl (Nat.isDigit_of_mem_toDigits (by decide) (by decide) h)

lemma isNumeric_of_mem_replicate {c : Char} {n : Nat} (h : c ∈ List.replicate n '0') :
    IsNumeric c := by
  rw [List.eq_of_mem_replicate h]
  exact .inl rfl

lemma isNumeric_of_mem_toString {c : Char} {n : Int} (h : c ∈ (toString n).toList) :
    IsNumeric c := by
  rw [Int.toString_eq_repr, Int.repr_eq_if] at h
  split at h
  · rw [Nat.toList_repr] at h
    exact isNumeric_of_mem_toDigits h
  · rw [String.toList_append, List.mem_append, Nat.toList_repr] at h
    rcases h with h | h
    · exact .inr (.inl (List.mem_singleton.1 h))
    · exact isNumeric_of_mem_toDigits h

lemma Decimal.isNumeric_of_mem_positional {c : Char} {d : Decimal} (h : c ∈ d.positional []) :
    IsNumeric c := by
  have htext : ∀ c ∈ d.text, IsNumeric c := fun c hc => isNumeric_of_mem_toDigits hc
  have hpoint : IsNumeric '.' := .inr (.inr rfl)
  unfold positional at h
  split at h
  · rw [List.append_nil, List.mem_append] at h
    exact h.elim (htext c) isNumeric_of_mem_replicate
  · dsimp only at h
    split at h
    · rw [List.mem_append, List.mem_cons] at h
      rcases h with h | rfl | h
      · exact htext c (List.mem_of_mem_take h)
      · exact hpoint
      · exact htext c (List.mem_of_mem_drop h)
    · rw [List.mem_cons, List.mem_cons, List.mem_append] at h
      rcases h with rfl | rfl | h | h
      · exact .inl rfl
      · exact hpoint
      · exact isNumeric_of_mem_replicate h
      · exact htext c h

lemma Double.isNumeric_of_mem_plainText {c : Char} {x : Double} (h : c ∈ x.plainText) :
    IsNumeric c := by
  rw [plainText, List.mem_append] at h
  rcases h with h | h
  · unfold signText at h
    split at h
    · exact .inr (.inl (List.mem_singleton.1 h))
    · cases h
  · exact Decimal.isNumeric_of_mem_positional h

lemma quote_not_mem_of_isNumeric {cs : List Char} (h : ∀ c ∈ cs, IsNumeric c) : '\'' ∉ cs := by
  intro hq
  rcases h _ hq with hd | hd | hd
  all_goals revert hd; decide

/-! ### Strings and names of a value -/

namespace Value

def string? : Value → Option String
  | string s => some s
  | _ => none

def elements : Value → List Value
  | list items => items
  | map entries => entries.map (·.2)
  | _ => []

/-- A value with its string replaced by the empty one. -/
def blanked : Value → Value
  | string _ => string ""
  | v => v

end Value

namespace Placeholder

/-- The strings that a placeholder writes as literals, in their order. -/
def strings : Placeholder → Value → List String
  | generic, v => v.string?.toList
  | array, v => v.elements.filterMap Value.string?
  | _, _ => []

/-- The names that a placeholder quotes: those it asks for, or the keys of assignments. -/
def names : Placeholder → Value → List String
  | identifier, v => v.string?.toList ++ (v.items?.getD []).filterMap Value.string?
  | array, .map entries => if (Value.map entries).isListLike then [] else entries.map (·.1)
  | _, _ => []

/-- A value with the strings that a placeholder writes as literals replaced by empty ones. -/
def blanked : Placeholder → Value → Value
  | generic, v => v.blanked
  | array, .list items => .list (items.map Value.blanked)
  | array, .map entries => .map (entries.map fun entry => (entry.1, entry.2.blanked))
  | _, v => v

end Placeholder

/-! ### Steps one after the other -/

namespace Piece

def literal? : Piece → Option String
  | literal raw => some raw
  | _ => none

def name? : Piece → Option String
  | name raw => some raw
  | _ => none

/-- A piece that a placeholder can write: a literal, a name, or a text without quotes. -/
def IsWritten : Piece → Prop
  | source _ => False
  | text s => '\'' ∉ s.toList
  | _ => True

instance : DecidablePred IsWritten
  | source _ => inferInstanceAs (Decidable False)
  | text s => inferInstanceAs (Decidable ('\'' ∉ s.toList))
  | literal _ => inferInstanceAs (Decidable True)
  | name _ => inferInstanceAs (Decidable True)

/-- A piece with the content of a literal replaced by the empty one. -/
def blanked : Piece → Piece
  | literal _ => literal ""
  | p => p

end Piece

namespace Rendering

/-- The steps with the contents of their literals replaced by empty ones. -/
def blanked (r : Rendering) : Rendering := r.map (Except.map Piece.blanked)

lemma refusal?_blanked (r : Rendering) : r.blanked.refusal? = r.refusal? := by
  induction r with
  | nil => rfl
  | cons step r ih =>
    cases step with
    | ok p => exact ih
    | error e => rfl

lemma pieces_blanked (r : Rendering) : r.blanked.pieces = r.pieces.map Piece.blanked := by
  induction r with
  | nil => rfl
  | cons step r ih =>
    cases step with
    | ok p => exact congrArg (p.blanked :: ·) ih
    | error e => rfl

lemma mem_of_mem_pieces {r : Rendering} {p : Piece} (h : p ∈ r.pieces) : .ok p ∈ r := by
  induction r with
  | nil => cases h
  | cons step r ih =>
    cases step with
    | ok q =>
      rcases List.mem_cons.1 h with rfl | h
      · exact List.mem_cons_self
      · exact List.mem_cons_of_mem _ (ih h)
    | error e => cases h

lemma filterMap_pieces_of_accepted {β : Type} (f : Piece → Option β) {r : Rendering}
    (h : r.refusal? = none) :
    r.pieces.filterMap f = r.filterMap fun step => step.toOption.bind f := by
  induction r with
  | nil => rfl
  | cons step r ih =>
    cases step with
    | ok p =>
      rw [pieces, List.filterMap_cons, List.filterMap_cons, ih h]
      rfl
    | error e => cases h

lemma blanked_commaSeparated (rs : List Rendering) :
    (commaSeparated rs).blanked = commaSeparated (rs.map blanked) := by
  fun_induction commaSeparated rs with
  | case1 => rfl
  | case2 r => rfl
  | case3 r s rest ih =>
    rw [List.map_cons, List.map_cons, commaSeparated, ← List.map_cons, ← ih]
    simp [blanked, Piece.blanked, Except.map]

lemma mem_commaSeparated {rs : List Rendering} {step : Except Refusal Piece}
    (h : step ∈ commaSeparated rs) : step = .ok (.text ", ") ∨ ∃ r ∈ rs, step ∈ r := by
  fun_induction commaSeparated rs with
  | case1 => cases h
  | case2 r => exact .inr ⟨r, List.mem_singleton_self r, h⟩
  | case3 r s rest ih =>
    rw [List.mem_append, List.mem_cons] at h
    rcases h with h | h | h
    · exact .inr ⟨r, List.mem_cons_self, h⟩
    · exact .inl h
    · exact (ih h).imp_right fun ⟨t, ht, hstep⟩ => ⟨t, List.mem_cons_of_mem _ ht, hstep⟩

lemma filterMap_commaSeparated {β : Type} {f : Except Refusal Piece → Option β}
    (hf : f (.ok (.text ", ")) = none) (rs : List Rendering) :
    (commaSeparated rs).filterMap f = rs.flatMap (·.filterMap f) := by
  fun_induction commaSeparated rs with
  | case1 => rfl
  | case2 r => simp
  | case3 r s rest ih =>
    rw [List.filterMap_append, List.filterMap_cons, hf, List.flatMap_cons, ih]

lemma filterMap_commaSeparated_steps {α β : Type} {f : Except Refusal Piece → Option β}
    (hf : f (.ok (.text ", ")) = none) (g : α → Except Refusal Piece) (xs : List α) :
    (commaSeparated (xs.map fun x => [g x])).filterMap f = xs.filterMap fun x => f (g x) := by
  rw [filterMap_commaSeparated hf, List.flatMap_map, List.filterMap_eq_flatMap_toList]
  refine List.flatMap_congr fun x _ => ?_
  rw [List.filterMap_eq_flatMap_toList, List.flatMap_singleton]

end Rendering

/-! ### Renderings of a value -/

/-- A step that hands a literal to the escaper. -/
abbrev literalOf (step : Except Refusal Piece) : Option String := step.toOption.bind Piece.literal?

/-- A step that hands a name to the escaper. -/
abbrev nameOf (step : Except Refusal Piece) : Option String := step.toOption.bind Piece.name?

lemma Rendering.blanked_of_filterMap_literalOf {r : Rendering} (h : r.filterMap literalOf = []) :
    r.blanked = r := by
  refine (List.map_congr_left fun step hstep => ?_).trans (List.map_id r)
  have hnone : literalOf step = none := List.filterMap_eq_nil_iff.1 h step hstep
  rcases step with _ | _ | _ | _ | _
  all_goals first | rfl | cases hnone

namespace Value

lemma elements_of_items? {v : Value} {items : List Value} (h : v.items? = some items) :
    v.elements = items := by
  cases v with
  | list _ => exact Option.some.inj h
  | map entries =>
    rw [Value.items?] at h
    split at h
    · exact Option.some.inj h
    · cases h
  | _ => cases h

lemma literalOf_scalarStep (p : Placeholder) (v : Value) :
    literalOf (v.scalarStep p) = v.string? := by
  cases v with
  | float x =>
    rw [scalarStep]
    split <;> rfl
  | _ => rfl

lemma nameOf_scalarStep (p : Placeholder) (v : Value) : nameOf (v.scalarStep p) = none := by
  cases v with
  | float x =>
    rw [scalarStep]
    split <;> rfl
  | _ => rfl

lemma scalarStep_blanked (p : Placeholder) (v : Value) :
    v.blanked.scalarStep p = (v.scalarStep p).map Piece.blanked := by
  cases v with
  | float x =>
    rw [blanked, scalarStep]
    · split <;> rfl
    · rintro s ⟨⟩
  | _ => rfl

lemma string?_of_coerceInt {v w : Value} (h : v.coerceInt = .ok w) : w.string? = none := by
  cases v with
  | float x =>
    rw [coerceInt] at h
    split at h <;> cases h
    rfl
  | _ => cases h <;> rfl

lemma string?_of_coerceFloat {v w : Value} (h : v.coerceFloat = .ok w) : w.string? = none := by
  cases v <;> cases h <;> rfl

lemma arraySteps_of_items? {v : Value} {items : List Value} (h : v.items? = some items) :
    v.arraySteps = Rendering.commaSeparated (items.map fun item => [scalarStep .array item]) := by
  simp only [arraySteps, h]

lemma arraySteps_map {entries : List (String × Value)} (h : (map entries).items? = none) :
    (map entries).arraySteps = Rendering.commaSeparated (entries.map assignment) := by
  simp only [arraySteps, h]

/-- A value has items, or it is a map of assignments, or it is no collection. -/
lemma arraySteps_cases (v : Value) :
    (∃ items, v.items? = some items ∧
      v.arraySteps = Rendering.commaSeparated (items.map fun item => [scalarStep .array item])) ∨
    (∃ entries, v = map entries ∧ (map entries).items? = none ∧
      v.arraySteps = Rendering.commaSeparated (entries.map assignment)) ∨
    (v.isScalar = true ∧ v.arraySteps = [.error ⟨.array, v.kind, .notCollection⟩]) := by
  cases hi : v.items? with
  | some items => exact .inl ⟨items, rfl, arraySteps_of_items? hi⟩
  | none =>
    cases v with
    | map entries => exact .inr (.inl ⟨entries, rfl, hi, arraySteps_map hi⟩)
    | list items => cases hi
    | _ => exact .inr (.inr ⟨rfl, rfl⟩)

/-- A value is a name, or it has items, or it gives no names. -/
lemma identifierSteps_cases (v : Value) :
    (∃ s, v = string s ∧ v.identifierSteps = [.ok (.name s)]) ∨
    (∃ items, v.items? = some items ∧ v.string? = none ∧
      v.identifierSteps = Rendering.commaSeparated (items.map fun item => [nameStep item])) ∨
    (v.items? = none ∧ v.string? = none ∧
      v.identifierSteps = [.error ⟨.identifier, v.kind, .notNames⟩]) := by
  cases v with
  | string s => exact .inl ⟨s, rfl, rfl⟩
  | list items => exact .inr (.inl ⟨items, rfl, rfl, rfl⟩)
  | map entries =>
    cases hi : (map entries).items? with
    | some items => exact .inr (.inl ⟨items, rfl, rfl, by simp only [identifierSteps, hi]⟩)
    | none => exact .inr (.inr ⟨rfl, rfl, by simp only [identifierSteps, hi]⟩)
  | _ => exact .inr (.inr ⟨rfl, rfl, rfl⟩)

lemma elements_of_isScalar {v : Value} (h : v.isScalar = true) : v.elements = [] := by
  cases v <;> first | rfl | cases h

lemma nameOf_nameStep (v : Value) : nameOf (nameStep v) = v.string? := by
  cases v <;> rfl

lemma literalOf_nameStep (v : Value) : literalOf (nameStep v) = none := by
  cases v <;> rfl

lemma filterMap_literalOf_assignment (entry : String × Value) :
    (assignment entry).filterMap literalOf = entry.2.string?.toList := by
  rw [← literalOf_scalarStep .array entry.2, List.filterMap_eq_flatMap_toList]
  simp only [assignment, List.flatMap_cons, List.flatMap_nil, List.append_nil]
  rfl

lemma filterMap_nameOf_assignment (entry : String × Value) :
    (assignment entry).filterMap nameOf = [entry.1] := by
  rw [assignment, List.filterMap_cons, List.filterMap_cons, List.filterMap_cons,
    nameOf_scalarStep]
  rfl

lemma isWritten_of_scalarStep {p : Placeholder} {v : Value} {piece : Piece}
    (h : v.scalarStep p = .ok piece) : piece.IsWritten := by
  cases v with
  | null => cases h; decide
  | bool b => cases h; cases b <;> decide
  | int n =>
    cases h
    exact quote_not_mem_of_isNumeric fun c hc => isNumeric_of_mem_toString hc
  | float x =>
    rw [scalarStep] at h
    split at h
    · cases h
      refine quote_not_mem_of_isNumeric fun c hc => ?_
      rw [String.toList_ofList] at hc
      exact Double.isNumeric_of_mem_plainText hc
    · cases h
  | string s => cases h; trivial
  | list items => cases h
  | map entries => cases h

lemma isWritten_of_mem_assignment {entry : String × Value} {piece : Piece}
    (h : .ok piece ∈ assignment entry) : piece.IsWritten := by
  rw [assignment, List.mem_cons, List.mem_cons, List.mem_singleton] at h
  rcases h with h | h | h
  · cases h; trivial
  · cases h; decide
  · exact isWritten_of_scalarStep h.symm

lemma isWritten_of_nameStep {v : Value} {piece : Piece} (h : nameStep v = .ok piece) :
    piece.IsWritten := by
  cases v <;> cases h
  trivial

lemma keysCountFrom_blanked (n : Nat) (entries : List (String × Value)) :
    keysCountFrom n (entries.map fun entry => (entry.1, entry.2.blanked)) =
      keysCountFrom n entries := by
  induction entries generalizing n with
  | nil => rfl
  | cons entry entries ih => exact congrArg (entry.1 == toString n && ·) (ih (n + 1))

lemma items?_map_blanked (entries : List (String × Value)) :
    (map (entries.map fun entry => (entry.1, entry.2.blanked))).items? =
      (map entries).items?.map (List.map blanked) := by
  rw [items?, items?, keysCountFrom_blanked]
  split
  · rw [Option.map_some, List.map_map, List.map_map]
    rfl
  · rfl

lemma assignment_blanked (entry : String × Value) :
    assignment (entry.1, entry.2.blanked) = (assignment entry).blanked := by
  simp [assignment, Rendering.blanked, scalarStep_blanked, Except.map, Piece.blanked]

end Value

namespace Placeholder

open Rendering Value

/-- A numeric placeholder refuses a value or writes a scalar that is not a string. -/
lemma render_numeric {p : Placeholder} (hp : p = int ∨ p = float) (v : Value) :
    (∃ r, p.render v = [.error r]) ∨
      ∃ w : Value, w.string? = none ∧ p.render v = [w.scalarStep p] := by
  rcases hp with rfl | rfl
  · cases h : v.coerceInt with
    | error r => exact .inl ⟨r, by rw [render, h]; rfl⟩
    | ok w => exact .inr ⟨w, string?_of_coerceInt h, by rw [render, h]; rfl⟩
  · cases h : v.coerceFloat with
    | error r => exact .inl ⟨r, by rw [render, h]; rfl⟩
    | ok w => exact .inr ⟨w, string?_of_coerceFloat h, by rw [render, h]; rfl⟩

/-- The literals that a placeholder writes are the strings of its value. -/
theorem filterMap_literalOf_render (p : Placeholder) (v : Value) :
    (p.render v).filterMap literalOf = p.strings v := by
  cases p with
  | generic =>
    rw [render, List.filterMap_eq_flatMap_toList, List.flatMap_singleton, literalOf_scalarStep]
    rfl
  | int =>
    rcases render_numeric (p := int) (.inl rfl) v with ⟨r, h⟩ | ⟨w, hw, h⟩
    · rw [h]; rfl
    · rw [h, List.filterMap_cons, literalOf_scalarStep, hw]; rfl
  | float =>
    rcases render_numeric (p := float) (.inr rfl) v with ⟨r, h⟩ | ⟨w, hw, h⟩
    · rw [h]; rfl
    · rw [h, List.filterMap_cons, literalOf_scalarStep, hw]; rfl
  | array =>
    rw [render, strings]
    rcases arraySteps_cases v with ⟨items, hi, h⟩ | ⟨entries, rfl, -, h⟩ | ⟨hs, h⟩
    · rw [h, filterMap_commaSeparated_steps rfl, elements_of_items? hi]
      simp only [literalOf_scalarStep]
    · rw [h, filterMap_commaSeparated rfl, elements, List.filterMap_map,
        List.filterMap_eq_flatMap_toList, List.flatMap_map]
      exact List.flatMap_congr fun entry _ => filterMap_literalOf_assignment entry
    · rw [h, elements_of_isScalar hs]
      rfl
  | identifier =>
    change v.identifierSteps.filterMap literalOf = []
    rcases identifierSteps_cases v with ⟨s, -, h⟩ | ⟨items, -, -, h⟩ | ⟨-, -, h⟩
    · rw [h]; rfl
    · rw [h, filterMap_commaSeparated_steps rfl]
      simp only [literalOf_nameStep]
      exact List.filterMap_none items
    · rw [h]; rfl

/-- The names that a placeholder quotes are the names of its value. -/
theorem filterMap_nameOf_render (p : Placeholder) (v : Value) :
    (p.render v).filterMap nameOf = p.names v := by
  cases p with
  | generic =>
    rw [render, List.filterMap_cons, nameOf_scalarStep]
    rfl
  | int =>
    rcases render_numeric (p := int) (.inl rfl) v with ⟨r, h⟩ | ⟨w, -, h⟩
    · rw [h]; rfl
    · rw [h, List.filterMap_cons, nameOf_scalarStep]; rfl
  | float =>
    rcases render_numeric (p := float) (.inr rfl) v with ⟨r, h⟩ | ⟨w, -, h⟩
    · rw [h]; rfl
    · rw [h, List.filterMap_cons, nameOf_scalarStep]; rfl
  | array =>
    rw [render]
    rcases arraySteps_cases v with ⟨items, hi, h⟩ | ⟨entries, rfl, hi, h⟩ | ⟨hs, h⟩
    · rw [h, filterMap_commaSeparated_steps rfl]
      simp only [nameOf_scalarStep]
      rw [List.filterMap_none]
      cases v with
      | map entries => rw [names, isListLike, hi]; rfl
      | _ => rfl
    · rw [h, filterMap_commaSeparated rfl, names, isListLike, hi, List.flatMap_map,
        List.map_eq_flatMap]
      exact List.flatMap_congr fun entry _ => filterMap_nameOf_assignment entry
    · rw [h]
      cases v with
      | map entries => cases hs
      | _ => rfl
  | identifier =>
    rw [render, names]
    rcases identifierSteps_cases v with ⟨s, rfl, h⟩ | ⟨items, hi, hs, h⟩ | ⟨hi, hs, h⟩
    · rw [h]; rfl
    · rw [h, filterMap_commaSeparated_steps rfl, hi, hs]
      simp only [nameOf_nameStep]
      rfl
    · rw [h, hi, hs]; rfl

lemma isWritten_of_mem_commaSeparated {rs : List Rendering} {piece : Piece}
    (hrs : ∀ r ∈ rs, .ok piece ∈ r → piece.IsWritten) (h : .ok piece ∈ commaSeparated rs) :
    piece.IsWritten := by
  rcases mem_commaSeparated h with h | ⟨r, hr, h⟩
  · cases h; decide
  · exact hrs r hr h

/-- What a placeholder writes apart from literals and names has no quotes. -/
theorem isWritten_of_mem_render {p : Placeholder} {v : Value} {piece : Piece}
    (h : .ok piece ∈ p.render v) : piece.IsWritten := by
  cases p with
  | generic => exact isWritten_of_scalarStep (List.mem_singleton.1 h).symm
  | int =>
    rcases render_numeric (p := int) (.inl rfl) v with ⟨r, hr⟩ | ⟨w, -, hw⟩
    · rw [hr] at h; cases List.mem_singleton.1 h
    · rw [hw] at h; exact isWritten_of_scalarStep (List.mem_singleton.1 h).symm
  | float =>
    rcases render_numeric (p := float) (.inr rfl) v with ⟨r, hr⟩ | ⟨w, -, hw⟩
    · rw [hr] at h; cases List.mem_singleton.1 h
    · rw [hw] at h; exact isWritten_of_scalarStep (List.mem_singleton.1 h).symm
  | array =>
    rw [render] at h
    rcases arraySteps_cases v with ⟨items, -, ha⟩ | ⟨entries, -, -, ha⟩ | ⟨-, ha⟩
    · rw [ha] at h
      refine isWritten_of_mem_commaSeparated (List.forall_mem_map.2 fun item _ hitem => ?_) h
      exact isWritten_of_scalarStep (List.mem_singleton.1 hitem).symm
    · rw [ha] at h
      exact isWritten_of_mem_commaSeparated
        (List.forall_mem_map.2 fun entry _ => isWritten_of_mem_assignment) h
    · rw [ha] at h
      cases List.mem_singleton.1 h
  | identifier =>
    rw [render] at h
    rcases identifierSteps_cases v with ⟨s, -, hn⟩ | ⟨items, -, -, hn⟩ | ⟨-, -, hn⟩
    · rw [hn] at h
      cases List.mem_singleton.1 h
      trivial
    · rw [hn] at h
      refine isWritten_of_mem_commaSeparated (List.forall_mem_map.2 fun item _ hitem => ?_) h
      exact isWritten_of_nameStep (List.mem_singleton.1 hitem).symm
    · rw [hn] at h
      cases List.mem_singleton.1 h

/-- Blanking the strings of a value blanks the literals of its rendering. -/
theorem render_blanked (p : Placeholder) (v : Value) :
    p.render (p.blanked v) = (p.render v).blanked := by
  cases p with
  | generic => exact congrArg (fun step => [step]) (scalarStep_blanked generic v)
  | int => exact (blanked_of_filterMap_literalOf (filterMap_literalOf_render int v)).symm
  | float => exact (blanked_of_filterMap_literalOf (filterMap_literalOf_render float v)).symm
  | identifier =>
    exact (blanked_of_filterMap_literalOf (filterMap_literalOf_render identifier v)).symm
  | array =>
    have hitems (items : List Value) :
        commaSeparated ((items.map Value.blanked).map fun item => [scalarStep array item]) =
          (commaSeparated (items.map fun item => [scalarStep array item])).blanked := by
      rw [blanked_commaSeparated, List.map_map, List.map_map]
      refine congrArg commaSeparated (List.map_congr_left fun item _ => ?_)
      exact congrArg (fun step => [step]) (scalarStep_blanked array item)
    cases v with
    | list items => exact hitems items
    | map entries =>
      have hblanked := items?_map_blanked entries
      cases hi : (Value.map entries).items? with
      | some items =>
        rw [hi, Option.map_some] at hblanked
        rw [render, render, blanked, arraySteps_of_items? hi, arraySteps_of_items? hblanked]
        exact hitems items
      | none =>
        rw [hi, Option.map_none] at hblanked
        rw [render, render, blanked, arraySteps_map hi, arraySteps_map hblanked,
          blanked_commaSeparated, List.map_map, List.map_map]
        exact congrArg commaSeparated (List.map_congr_left fun entry _ => assignment_blanked entry)
    | _ => rfl

/-! ### Pieces of accepted values -/

lemma filterMap_literal?_of_accepted {p : Placeholder} {v : Value}
    (h : (p.render v).refusal? = none) :
    (p.render v).pieces.filterMap Piece.literal? = p.strings v := by
  rw [filterMap_pieces_of_accepted _ h]
  exact filterMap_literalOf_render p v

lemma mem_names_of_mem_pieces {p : Placeholder} {v : Value} {raw : String}
    (h : .name raw ∈ (p.render v).pieces) : raw ∈ p.names v := by
  rw [← filterMap_nameOf_render]
  exact List.mem_filterMap.2 ⟨_, mem_of_mem_pieces h, rfl⟩

lemma names_blanked (p : Placeholder) (v : Value) : p.names (p.blanked v) = p.names v := by
  rw [← filterMap_nameOf_render, ← filterMap_nameOf_render, render_blanked, Rendering.blanked,
    List.filterMap_map]
  refine List.filterMap_congr fun step _ => ?_
  rcases step with _ | _ | _ | _ | _ <;> rfl

section Replacement

variable {p : Placeholder} {v w : Value} (h : p.blanked w = p.blanked v)
include h

lemma refusal?_render_of_blanked_eq : (p.render w).refusal? = (p.render v).refusal? := by
  rw [← refusal?_blanked, ← render_blanked, h, render_blanked, refusal?_blanked]

lemma pieces_render_of_blanked_eq :
    (p.render w).pieces.map Piece.blanked = (p.render v).pieces.map Piece.blanked := by
  rw [← pieces_blanked, ← render_blanked, h, render_blanked, pieces_blanked]

lemma names_of_blanked_eq : p.names w = p.names v := by
  rw [← names_blanked, h, names_blanked]

end Replacement

end Placeholder

end QueryTemplate
