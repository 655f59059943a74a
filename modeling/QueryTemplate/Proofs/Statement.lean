import QueryTemplate.Proofs.Parts
import QueryTemplate.Proofs.PlaceholderRules
import Mathlib.Algebra.GroupWithZero.Nat

/-!
# The statement of a list of parts

Placeholders are numbered in textual order, inside blocks and outside, and the placeholder with
number `i` takes the parameter with index `i`. The statement of a list of parts is composed of
the texts of its items; those of a block count only when no value bound in the block equals the
skip value. Its pieces are those of the same items.
-/

namespace QueryTemplate

/-- A placeholder writes a value. -/
def Placeholder.Accepts (p : Placeholder) (v : Value) : Prop := (p.render v).refusal? = none

instance (p : Placeholder) (v : Value) : Decidable (p.Accepts v) :=
  inferInstanceAs (Decidable (_ = none))

namespace Template

/-- The elements of a list, each with the sizes of those before it summed from `n`. -/
def numbered {α : Type} (size : α → Nat) : Nat → List α → List (Nat × α)
  | _, [] => []
  | n, x :: xs => (n, x) :: numbered size (n + size x) xs

lemma numbered_append {α : Type} (size : α → Nat) (n : Nat) (xs ys : List α) :
    numbered size n (xs ++ ys) =
      numbered size n xs ++ numbered size (n + (xs.map size).sum) ys := by
  induction xs generalizing n with
  | nil => simp [numbered]
  | cons x xs ih => simp [numbered, ih, Nat.add_assoc]

namespace Item

def arity : Item → Nat
  | placeholder _ => 1
  | _ => 0

def placeholder? : Item → Option Placeholder
  | placeholder p => some p
  | _ => none

/-- The value bound to an item, by its number. -/
def value? (params : List Value) (n : Nat) : Item → Option Value
  | placeholder _ => params[n]?
  | _ => none

/-- The pieces of an item, by its number. -/
def pieces (params : List Value) (n : Nat) : Item → List Piece
  | literal content => ('\'' :: (content ++ ['\''])).map .source
  | placeholder p => (params[n]?.map fun v => (p.render v).pieces).getD []
  | plain c => [.source c]

/-- The text of an item, by its number: a placeholder stands for its value as it is written, and
all else for itself. -/
def written (e : Escaper) (params : List Value) (n : Nat) : Item → String
  | literal content => String.ofList ('\'' :: (content ++ ['\'']))
  | placeholder p => (params[n]?.map (p.written e)).getD ""
  | plain c => String.singleton c

/-- Why an item has no text: its parameter is missing or refused. -/
def error? (params : List Value) (n : Nat) : Item → Option ArgumentError
  | placeholder p =>
    match params[n]? with
    | none => some (.missing n params.length)
    | some v => (p.render v).refusal?.map .refused
  | _ => none

end Item

def Part.arity (part : Part) : Nat := (part.items.map Item.arity).sum

def arity (parts : List Part) : Nat := (parts.map Part.arity).sum

/-- The placeholders of parts in textual order, inside blocks and outside. -/
def placeholders (parts : List Part) : List Placeholder :=
  (parts.flatMap Part.items).filterMap Item.placeholder?

/-- Each placeholder of parts accepts the parameter at its own place. -/
def AcceptsAll (parts : List Part) (params : List Value) : Prop :=
  ∀ (i : Nat) (p : Placeholder), (placeholders parts)[i]? = some p →
    ∃ v, params[i]? = some v ∧ p.Accepts v

/-- The values bound to items that are numbered from `n`. -/
def values (params : List Value) (n : Nat) (items : List Item) : List Value :=
  (numbered Item.arity n items).filterMap fun x => x.2.value? params x.1

/-- The pieces of items that are numbered from `n`. -/
def itemPieces (params : List Value) (n : Nat) (items : List Item) : List Piece :=
  (numbered Item.arity n items).flatMap fun x => x.2.pieces params x.1

/-- The first of the errors of items that are numbered from `n`. -/
def firstError? (params : List Value) (n : Nat) (items : List Item) : Option ArgumentError :=
  (numbered Item.arity n items).findSome? fun x => x.2.error? params x.1

/-- Whether a part stays: it is an item, or no value bound in it equals the skip value. -/
def Part.isKept (b : Binding) (n : Nat) : Part → Bool
  | item _ => true
  | block items => !(values b.params n items).any (·.same b.skip)

/-- The pieces of a part whose items are numbered from `n`. -/
def Part.pieces (b : Binding) (n : Nat) (part : Part) : List Piece :=
  if part.isKept b n then itemPieces b.params n part.items else []

/-- The pieces of parts that are numbered from `n`. -/
def partPieces (b : Binding) (n : Nat) (parts : List Part) : List Piece :=
  (numbered Part.arity n parts).flatMap fun x => x.2.pieces b x.1

/-- The numbered parts that stay. -/
def keptParts (b : Binding) (n : Nat) (parts : List Part) : List (Nat × Part) :=
  (numbered Part.arity n parts).filter fun x => x.2.isKept b x.1

/-- The numbered items of the parts that stay. -/
def keptItems (b : Binding) (n : Nat) (parts : List Part) : List (Nat × Item) :=
  (keptParts b n parts).flatMap fun x => numbered Item.arity x.1 x.2.items

/-- The texts of numbered items one after the other. -/
def joined (e : Escaper) (params : List Value) (items : List (Nat × Item)) : String :=
  String.join (items.map fun x => x.2.written e params x.1)

/-- The text that parts numbered from `n` compose. -/
def composed (e : Escaper) (b : Binding) (n : Nat) (parts : List Part) : String :=
  joined e b.params (keptItems b n parts)

/-! ### Lists of items -/

section Items

variable (params : List Value) (n : Nat)

@[simp] lemma values_nil : values params n [] = [] := rfl

@[simp] lemma itemPieces_nil : itemPieces params n [] = [] := rfl

lemma values_cons (i : Item) (items : List Item) : values params n (i :: items) =
    (i.value? params n).toList ++ values params (n + i.arity) items := by
  cases h : i.value? params n <;> simp [values, numbered, h]

lemma itemPieces_cons (i : Item) (items : List Item) : itemPieces params n (i :: items) =
    i.pieces params n ++ itemPieces params (n + i.arity) items := rfl

lemma firstError?_cons (i : Item) (items : List Item) : firstError? params n (i :: items) =
    (i.error? params n).or (firstError? params (n + i.arity) items) := by
  cases h : i.error? params n <;> simp [firstError?, numbered, h]

lemma firstError?_append (items items' : List Item) : firstError? params n (items ++ items') =
    (firstError? params n items).or
      (firstError? params (n + (items.map Item.arity).sum) items') := by
  simp [firstError?, numbered_append, List.findSome?_append]

end Items

lemma arity_cons (part : Part) (parts : List Part) :
    arity (part :: parts) = part.arity + arity parts := rfl

lemma partPieces_nil (b : Binding) (n : Nat) : partPieces b n [] = [] := rfl

lemma partPieces_cons (b : Binding) (n : Nat) (part : Part) (parts : List Part) :
    partPieces b n (part :: parts) = part.pieces b n ++ partPieces b (n + part.arity) parts := rfl

lemma partPieces_eq_keptItems (b : Binding) (n : Nat) (parts : List Part) :
    partPieces b n parts = (keptItems b n parts).flatMap fun x => x.2.pieces b.params x.1 := by
  induction parts generalizing n with
  | nil => rfl
  | cons part parts ih =>
    rw [partPieces_cons, ih, Part.pieces]
    cases hk : part.isKept b n <;> simp [keptItems, keptParts, numbered, hk, itemPieces]

lemma keptItems_cons (b : Binding) (n : Nat) (part : Part) (parts : List Part) :
    keptItems b n (part :: parts) =
      (if part.isKept b n then numbered Item.arity n part.items else []) ++
        keptItems b (n + part.arity) parts := by
  cases hk : part.isKept b n <;> simp [keptItems, keptParts, numbered, hk]

lemma keptItems_append (b : Binding) (n : Nat) (parts parts' : List Part) :
    keptItems b n (parts ++ parts') =
      keptItems b n parts ++ keptItems b (n + arity parts) parts' := by
  simp only [keptItems, keptParts, numbered_append, List.filter_append, List.flatMap_append]
  rfl

lemma joined_append (e : Escaper) (params : List Value) (xs ys : List (Nat × Item)) :
    joined e params (xs ++ ys) = joined e params xs ++ joined e params ys := by
  apply String.ext
  simp [joined]

lemma composed_append (e : Escaper) (b : Binding) (n : Nat) (parts parts' : List Part) :
    composed e b n (parts ++ parts') =
      composed e b n parts ++ composed e b (n + arity parts) parts' := by
  rw [composed, keptItems_append, joined_append]
  rfl

/-- A block in which a value equals the skip value composes no text. -/
lemma composed_block_of_skipped (e : Escaper) {b : Binding} {n : Nat} {items : List Item}
    (h : (values b.params n items).any (·.same b.skip) = true) (parts : List Part) :
    composed e b n (.block items :: parts) = composed e b (n + (Part.block items).arity) parts := by
  rw [composed, keptItems_cons, Part.isKept, h]
  rfl

/-! ### Errors of items -/

/-- An item without an error is bound to as many values as it takes parameters. -/
lemma Item.length_value?_of_accepted {params : List Value} {n : Nat} {i : Item}
    (h : i.error? params n = none) : (i.value? params n).toList.length = i.arity := by
  cases i with
  | placeholder p =>
    cases hv : params[n]? with
    | none => simp [error?, hv] at h
    | some v => simp [value?, arity, hv]
  | literal _ => rfl
  | plain _ => rfl

lemma Item.error?_eq_none_iff (params : List Value) (n : Nat) (i : Item) :
    i.error? params n = none ↔
      ∀ p, i = .placeholder p → ∃ v, params[n]? = some v ∧ p.Accepts v := by
  cases i with
  | placeholder p =>
    cases hv : params[n]? with
    | none => simp [error?, hv]
    | some v => simp [error?, hv, Placeholder.Accepts]
  | literal _ => simp [error?]
  | plain _ => simp [error?]

/-- The numbers of items count their placeholders. -/
lemma placeholder_mem_numbered_iff (i n : Nat) (p : Placeholder) (items : List Item) :
    (i, Item.placeholder p) ∈ numbered Item.arity n items ↔
      n ≤ i ∧ (items.filterMap Item.placeholder?)[i - n]? = some p := by
  induction items generalizing n with
  | nil => simp [numbered]
  | cons item items ih =>
    cases item with
    | placeholder q =>
      simp only [numbered, List.mem_cons, Prod.mk.injEq, Item.placeholder.injEq, ih, Item.arity,
        List.filterMap_cons, Item.placeholder?]
      rcases Nat.lt_trichotomy i n with h | rfl | h
      · simp [Nat.not_le.2 h, Nat.ne_of_lt h, show ¬n + 1 ≤ i by omega]
      · have hnot : ¬i + 1 ≤ i := Nat.not_succ_le_self i
        simp [eq_comm, hnot]
      · have hi : i - n = (i - (n + 1)) + 1 := by omega
        simp [Nat.ne_of_gt h, Nat.le_of_lt h, hi, Nat.succ_le_of_lt h]
    | literal _ => simp [numbered, ih, Item.arity, Item.placeholder?, List.filterMap_cons]
    | plain _ => simp [numbered, ih, Item.arity, Item.placeholder?, List.filterMap_cons]

lemma numbered_flatMap_items (n : Nat) (parts : List Part) :
    ((numbered Part.arity n parts).flatMap fun x => numbered Item.arity x.1 x.2.items) =
      numbered Item.arity n (parts.flatMap Part.items) := by
  induction parts generalizing n with
  | nil => rfl
  | cons part parts ih =>
    rw [numbered, List.flatMap_cons, ih, List.flatMap_cons, numbered_append]
    rfl

lemma mem_numbered_of_mem_keptItems {b : Binding} {n : Nat} {parts : List Part} {x : Nat × Item}
    (h : x ∈ keptItems b n parts) : x ∈ numbered Item.arity n (parts.flatMap Part.items) := by
  obtain ⟨y, hy, hx⟩ := List.mem_flatMap.1 h
  rw [← numbered_flatMap_items]
  exact List.mem_flatMap.2 ⟨y, List.mem_of_mem_filter hy, hx⟩

lemma mem_of_mem_numbered {α : Type} {size : α → Nat} {n : Nat} {xs : List α} {x : Nat × α}
    (h : x ∈ numbered size n xs) : x.2 ∈ xs := by
  induction xs generalizing n with
  | nil => cases h
  | cons y ys ih =>
    rcases List.mem_cons.1 h with rfl | h
    · exact List.mem_cons_self
    · exact List.mem_cons_of_mem _ (ih h)

/-- No item has an error when each placeholder accepts its parameter. -/
lemma firstError?_eq_none_iff (params : List Value) (parts : List Part) :
    firstError? params 0 (parts.flatMap Part.items) = none ↔ AcceptsAll parts params := by
  simp only [AcceptsAll, firstError?, List.findSome?_eq_none_iff, Item.error?_eq_none_iff]
  constructor
  · intro h i p hp
    exact h (i, .placeholder p) ((placeholder_mem_numbered_iff ..).2 ⟨Nat.zero_le i, hp⟩) p rfl
  · rintro h ⟨i, x⟩ hm p rfl
    exact h i p ((placeholder_mem_numbered_iff ..).1 hm).2

/-! ### Texts of items -/

/-- An item without an error has the text of its pieces. -/
lemma Item.written_eq_writeAll (e : Escaper) {params : List Value} {n : Nat} {i : Item}
    (h : i.error? params n = none) : i.written e params n = Piece.writeAll e (i.pieces params n) := by
  cases i with
  | placeholder p =>
    obtain ⟨v, hv, ha⟩ := (Item.error?_eq_none_iff params n (.placeholder p)).1 h p rfl
    rw [written, pieces, hv, Option.map_some, Option.map_some, Option.getD_some, Option.getD_some]
    exact (p.writeAll_pieces_render e ha).symm
  | literal content =>
    apply String.ext
    simp [written, pieces, Piece.toList_writeAll, List.flatMap_map]
  | plain c => simp [written, pieces, Piece.writeAll]

lemma joined_eq_writeAll (e : Escaper) {params : List Value} {xs : List (Nat × Item)}
    (h : ∀ x ∈ xs, x.2.error? params x.1 = none) :
    joined e params xs = Piece.writeAll e (xs.flatMap fun x => x.2.pieces params x.1) := by
  induction xs with
  | nil => rfl
  | cons x xs ih =>
    have hx := Item.written_eq_writeAll e (h x List.mem_cons_self)
    have hxs := ih fun y hy => h y (List.mem_cons_of_mem x hy)
    rw [List.flatMap_cons, Piece.writeAll_append, ← hx, ← hxs]
    simp [joined]

/-- Parts without errors compose the text of their pieces. -/
lemma composed_eq_writeAll (e : Escaper) {b : Binding} {n : Nat} {parts : List Part}
    (h : firstError? b.params n (parts.flatMap Part.items) = none) :
    composed e b n parts = Piece.writeAll e (partPieces b n parts) := by
  rw [firstError?, List.findSome?_eq_none_iff] at h
  rw [partPieces_eq_keptItems]
  exact joined_eq_writeAll e fun x hx => h x (mem_numbered_of_mem_keptItems hx)

/-! ### The first error -/

/-- The first placeholder that refuses its parameter gives the error of the items. -/
lemma firstError?_eq_refused {params : List Value} {n k : Nat} {items : List Item}
    {p : Placeholder} {v : Value} {r : Refusal}
    (hp : (items.filterMap Item.placeholder?)[k]? = some p) (hv : params[n + k]? = some v)
    (hr : (p.render v).refusal? = some r)
    (hbefore : ∀ j q, j < k → (items.filterMap Item.placeholder?)[j]? = some q →
      ∃ w, params[n + j]? = some w ∧ q.Accepts w) :
    firstError? params n items = some (.refused r) := by
  induction items generalizing n k with
  | nil => simp at hp
  | cons item items ih =>
    rw [firstError?_cons]
    cases item with
    | placeholder q =>
      simp only [List.filterMap_cons, Item.placeholder?] at hp hbefore
      cases k with
      | zero =>
        rw [List.getElem?_cons_zero, Option.some.injEq] at hp
        subst hp
        rw [Nat.add_zero] at hv
        simp [Item.error?, hv, hr]
      | succ k =>
        obtain ⟨w, hw, hq⟩ := hbefore 0 q (Nat.succ_pos k) rfl
        have hitem : (Item.placeholder q).error? params n = none :=
          (Item.error?_eq_none_iff params n _).2 fun q' he => by cases he; exact ⟨w, hw, hq⟩
        rw [hitem, Option.none_or]
        refine ih hp (by rw [← hv]; congr 1; simp only [Item.arity]; omega) ?_
        intro j q' hj hq'
        obtain ⟨w', hw', hq''⟩ := hbefore (j + 1) q' (Nat.succ_lt_succ hj) hq'
        exact ⟨w', by rw [← hw']; congr 1; simp only [Item.arity]; omega, hq''⟩
    | literal _ => exact ih hp hv hbefore
    | plain _ => exact ih hp hv hbefore

end Template

end QueryTemplate
