import QueryTemplate.Proofs.WrittenValues

/-!
# Calls of the escaper

What a placeholder asks of the escaper is read off its value: one call for each string that it
writes and one for each name, in the order of the items, up to the first item that it refuses.
-/

namespace QueryTemplate

/-- The elements of a list up to the first without a property, and this one. -/
def takeThrough {α : Type} (f : α → Bool) : List α → List α
  | [] => []
  | x :: xs => if f x then x :: takeThrough f xs else [x]

lemma takeThrough_map {α β : Type} (f : β → Bool) (g : α → β) (xs : List α) :
    takeThrough f (xs.map g) = (takeThrough (f ∘ g) xs).map g := by
  induction xs with
  | nil => rfl
  | cons x xs ih =>
    rw [List.map_cons, takeThrough, takeThrough, ih, Function.comp_apply]
    split <;> rfl

namespace Value

/-- Whether a value has a literal form as an item: a scalar, and finite if it is a number. -/
def isWritable : Value → Bool
  | float x => x.isFinite
  | list _ => false
  | map _ => false
  | _ => true

def literalCalls (v : Value) : List Call := v.string?.toList.map .escape

def nameCalls (v : Value) : List Call := v.string?.toList.map .quote

/-- The key of an assignment comes right before its value. -/
def assignmentCalls (entry : String × Value) : List Call :=
  .quote entry.1 :: entry.2.literalCalls

end Value

/-- The calls of the escaper for a value, in their order. An item that is refused is the last one
that is looked at. -/
def Placeholder.calls (p : Placeholder) (v : Value) : List Call :=
  match p with
  | generic => v.literalCalls
  | int => []
  | float => []
  | array =>
    match v.items?, v with
    | some items, _ => (takeThrough Value.isWritable items).flatMap Value.literalCalls
    | none, .map entries =>
      (takeThrough (·.2.isWritable) entries).flatMap Value.assignmentCalls
    | none, _ => []
  | identifier =>
    match v.items? with
    | some items => (takeThrough (·.string?.isSome) items).flatMap Value.nameCalls
    | none => v.nameCalls

namespace Rendering

/-- The calls of the escaper that the steps of a rendering make. -/
def calls (r : Rendering) : List Call := r.pieces.filterMap Piece.call?

lemma calls_append (r s : Rendering) :
    (r ++ s).calls = if r.refusal?.isNone then r.calls ++ s.calls else r.calls := by
  cases h : r.refusal? with
  | none => simp [calls, pieces_append_of_accepted s h]
  | some refusal => simp [calls, pieces_append_of_refused s h]

lemma calls_commaSeparated (rs : List Rendering) :
    (commaSeparated rs).calls = (takeThrough (·.refusal?.isNone) rs).flatMap calls := by
  fun_induction commaSeparated rs with
  | case1 => rfl
  | case2 r =>
    rw [takeThrough, takeThrough]
    split <;> simp
  | case3 r s rest ih =>
    have hcomma : calls (.ok (.text ", ") :: commaSeparated (s :: rest)) =
        (commaSeparated (s :: rest)).calls := rfl
    rw [calls_append, hcomma, ih]
    conv_rhs => rw [takeThrough]
    split
    · rw [List.flatMap_cons]
    · rw [List.flatMap_singleton]

/-- The calls of items that are written one after the other. -/
lemma calls_commaSeparated_map {α : Type} (g : α → Rendering) (xs : List α) :
    (commaSeparated (xs.map g)).calls =
      (takeThrough (fun x => (g x).refusal?.isNone) xs).flatMap fun x => (g x).calls := by
  rw [calls_commaSeparated, takeThrough_map, List.flatMap_map]
  rfl

end Rendering

namespace Value

open Rendering

lemma calls_scalarStep (p : Placeholder) (v : Value) :
    calls [v.scalarStep p] = v.literalCalls := by
  cases v with
  | float x =>
    rw [scalarStep]
    split <;> rfl
  | _ => rfl

lemma isNone_refusal?_scalarStep (p : Placeholder) (v : Value) :
    (refusal? [v.scalarStep p]).isNone = v.isWritable := by
  cases v with
  | float x =>
    rw [scalarStep, isWritable]
    cases x.isFinite <;> rfl
  | _ => rfl

lemma calls_nameStep (v : Value) : calls [nameStep v] = v.nameCalls := by
  cases v <;> rfl

lemma isNone_refusal?_nameStep (v : Value) :
    (refusal? [nameStep v]).isNone = v.string?.isSome := by
  cases v <;> rfl

lemma calls_assignment (entry : String × Value) :
    (assignment entry).calls = assignmentCalls entry := by
  have hkey : (assignment entry).calls = .quote entry.1 :: calls [scalarStep .array entry.2] := rfl
  rw [hkey, calls_scalarStep, assignmentCalls]

lemma isNone_refusal?_assignment (entry : String × Value) :
    (assignment entry).refusal?.isNone = entry.2.isWritable :=
  isNone_refusal?_scalarStep .array entry.2

lemma nameCalls_of_string?_eq_none {v : Value} (h : v.string? = none) : v.nameCalls = [] := by
  rw [nameCalls, h]
  rfl

end Value

namespace Placeholder

open Rendering Value

/-- The steps of a rendering make the calls of its placeholder. -/
theorem calls_render (p : Placeholder) (v : Value) : (p.render v).calls = p.calls v := by
  have hnumeric : ∀ {q : Placeholder}, q = int ∨ q = float → (q.render v).calls = [] := by
    intro q hq
    rcases render_numeric hq v with ⟨r, h⟩ | ⟨w, hw, h⟩
    · rw [h]
      rfl
    · rw [h, calls_scalarStep, literalCalls, hw]
      rfl
  cases p with
  | generic => exact calls_scalarStep generic v
  | int => exact hnumeric (.inl rfl)
  | float => exact hnumeric (.inr rfl)
  | array =>
    rw [render]
    rcases arraySteps_cases v with ⟨items, hi, h⟩ | ⟨entries, rfl, hi, h⟩ | ⟨hs, h⟩
    · rw [h, calls_commaSeparated_map]
      simp only [calls, hi, isNone_refusal?_scalarStep]
      exact List.flatMap_congr fun item _ => calls_scalarStep array item
    · rw [h, calls_commaSeparated_map]
      simp only [calls, hi, isNone_refusal?_assignment]
      exact List.flatMap_congr fun entry _ => calls_assignment entry
    · rw [h]
      cases v <;> first | rfl | cases hs
  | identifier =>
    rw [render]
    rcases identifierSteps_cases v with ⟨s, rfl, h⟩ | ⟨items, hi, -, h⟩ | ⟨hi, hs, h⟩
    · rw [h]
      rfl
    · rw [h, calls_commaSeparated_map]
      simp only [calls, hi, isNone_refusal?_nameStep]
      exact List.flatMap_congr fun item _ => calls_nameStep item
    · rw [h]
      simp only [calls, hi, nameCalls_of_string?_eq_none hs]
      rfl

end Placeholder

end QueryTemplate
