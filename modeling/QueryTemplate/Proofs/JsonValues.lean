import QueryTemplate.Json.Parameter
import QueryTemplate.Proofs.IntegerText
import QueryTemplate.Proofs.Rounding
import QueryTemplate.Proofs.SkipSentinel
import QueryTemplate.Proofs.StrictEquality

/-!
# Values from JSON

A JSON value and the value that it becomes have the same shape at every depth. Integers of 64 bits
stay integers and all other numbers become finite doubles, so there is no NaN in the value, it
equals itself, and as a skip value it leaves out the blocks that it is bound in.
-/

namespace QueryTemplate

namespace Json

/-- The integer that a number is stored as. -/
def Number.integer? : Number → Option Int
  | natural n => some n.toNat
  | negative n => some n.toInt
  | real _ _ => none

/-- A value has the shape of a JSON value. A number that is stored as an integer beyond 64 bits with
a sign is rounded to a double. -/
inductive Denotes : Json → Value → Prop where
  | null : Denotes .null .null
  | bool (b : Bool) : Denotes (.bool b) (.bool b)
  | string (s : String) : Denotes (.string s) (.string s)
  | int {n : Number} {i : Int64} : n.integer? = some i.toInt → Denotes (.number n) (.int i)
  | rounded {n : Number} {z : Int} {x : Double} : n.integer? = some z → ¬FitsInt64 z →
      x.isFinite = true → x.IsNearest z → Denotes (.number n) (.float x)
  | real {x : Double} (h : x.isFinite = true) : Denotes (.number (.real x h)) (.float x)
  | array {items : List Json} {values : List Value} :
      List.Forall₂ Denotes items values → Denotes (.array items) (.list values)
  | object {members : List (String × Json)} {entries : List (String × Value)} :
      members.map (·.1) = entries.map (·.1) →
      List.Forall₂ Denotes (members.map (·.2)) (entries.map (·.2)) →
      Denotes (.object members) (.map entries)

/-- The values directly in an array or an object. -/
def elements : Json → List Json
  | array items => items
  | object members => members.map (·.2)
  | _ => []

/-- The part of a value at a path of positions. -/
def at? : Json → List Nat → Option Json
  | j, [] => some j
  | j, i :: path => j.elements[i]?.bind fun k => k.at? path

end Json

/-- The part of a value at a path of positions. -/
def Value.at? : Value → List Nat → Option Value
  | v, [] => some v
  | v, i :: path => v.elements[i]?.bind fun w => w.at? path

/-- A NaN in a value stands at a path. -/
lemma Value.HoldsNaN.exists_at? {v : Value} (h : v.HoldsNaN) :
    ∃ path x, v.at? path = some (.float x) ∧ x.isNaN = true := by
  induction h with
  | here hx => exact ⟨[], _, rfl, hx⟩
  | inside hw _ ih =>
    obtain ⟨path, x, hpath, hx⟩ := ih
    obtain ⟨i, hi⟩ := List.mem_iff_getElem?.1 hw
    exact ⟨i :: path, x, by rw [at?, hi]; exact hpath, hx⟩

namespace Json

lemma keys_toEntries (members : List (String × Json)) :
    members.map (·.1) = (toEntries members).map (·.1) := by
  rw [toEntries_eq_map, List.map_map]
  rfl

lemma Number.denotes_toValue (n : Number) : Denotes (.number n) n.toValue := by
  have hmin : Int64.minValue.toInt = -9223372036854775808 := by decide
  have hmax : Int64.maxValue.toInt = 9223372036854775807 := by decide
  have hspan : Double.int64Span = 9223372036854775808 := rfl
  cases n with
  | natural n =>
    rw [toValue.eq_def]
    dsimp only
    split
    · have hfits : FitsInt64 n.toNat := by
        unfold FitsInt64
        omega
      refine .int ?_
      rw [← Int64.ofInt_eq_ofNat, toInt_ofInt_of_fits hfits]
      rfl
    · have hlt : n.toNat < 2 * Double.int64Span := n.toNat_lt
      have hnot : ¬FitsInt64 n.toNat := by
        unfold FitsInt64
        omega
      refine .rounded rfl hnot (Double.isFinite_ofRatio_of_lt false hlt) ?_
      have hnearest := Double.isNearest_ofRatio false n.toNat one_pos
      simpa [Double.ofNat, Double.signum] using hnearest
  | negative n => exact .int rfl
  | real x h => exact .real h

mutual

lemma denotes_toValue : (j : Json) → j.Denotes j.toValue
  | null => .null
  | bool b => .bool b
  | number n => n.denotes_toValue
  | string s => .string s
  | array items => .array (forall₂_toValues items)
  | object members => .object (keys_toEntries members) (forall₂_toEntries members)

lemma forall₂_toValues : (items : List Json) → List.Forall₂ Denotes items (toValues items)
  | [] => .nil
  | j :: items => .cons (denotes_toValue j) (forall₂_toValues items)

lemma forall₂_toEntries : (members : List (String × Json)) →
    List.Forall₂ Denotes (members.map (·.2)) ((toEntries members).map (·.2))
  | [] => .nil
  | (_, j) :: members => .cons (denotes_toValue j) (forall₂_toEntries members)

end

/-! ### Parts of a value -/

lemma elements_toValue (j : Json) : j.toValue.elements = j.elements.map toValue := by
  cases j with
  | number n =>
    cases n with
    | natural n =>
      rw [toValue, Number.toValue]
      split <;> rfl
    | _ => rfl
  | array items => exact toValues_eq_map items
  | object members =>
    rw [toValue, Value.elements, toEntries_eq_map, elements, List.map_map, List.map_map]
    rfl
  | _ => rfl

/-- The parts of the value are the values of the parts. -/
lemma at?_toValue (j : Json) (path : List Nat) :
    j.toValue.at? path = (j.at? path).map toValue := by
  induction path generalizing j with
  | nil => rfl
  | cons i path ih =>
    rw [Value.at?, at?, elements_toValue, List.getElem?_map]
    cases j.elements[i]? with
    | none => rfl
    | some k => exact ih k

lemma toValue_eq_null_iff {j : Json} : j.toValue = .null ↔ j = .null := by
  constructor
  · intro h
    have hj := j.denotes_toValue
    rw [h] at hj
    cases hj
    rfl
  · rintro rfl
    rfl

lemma isFinite_of_toValue {j : Json} {x : Double} (h : j.toValue = .float x) :
    x.isFinite = true := by
  have hj := j.denotes_toValue
  rw [h] at hj
  cases hj with
  | rounded _ _ hx _ => exact hx
  | real hx => exact hx

lemma isFinite_of_at? {j : Json} {path : List Nat} {x : Double}
    (h : j.toValue.at? path = some (.float x)) : x.isFinite = true := by
  rw [at?_toValue] at h
  obtain ⟨k, -, hk⟩ := Option.map_eq_some_iff.1 h
  exact isFinite_of_toValue hk

lemma not_holdsNaN_toValue (j : Json) : ¬j.toValue.HoldsNaN := by
  intro h
  obtain ⟨path, x, hpath, hx⟩ := h.exists_at?
  have hfinite := isFinite_of_at? hpath
  rw [Double.isFinite, decide_eq_true_eq] at hfinite
  rw [Double.isNaN, decide_eq_true_eq] at hx
  exact Nat.lt_asymm hfinite hx

lemma paramsOfJson_eq_ok_iff {parse : String → Option Json} {text : String}
    {params : List Value} :
    paramsOfJson parse text = .ok params ↔ Value.ofJson? parse text = some (.list params) := by
  rw [paramsOfJson, Value.ofJson?]
  cases hj : parse text with
  | none => simp
  | some j =>
    cases j with
    | array items => simp [toValue]
    | number n => cases n <;> simp [toValue, Number.toValue]; split <;> simp
    | _ => simp [toValue]

open Template

/-- A JSON value becomes a value of the same shape, without a null or a NaN that the JSON value does
not have. It equals itself, so that a block in which it is bound is left out when it is the skip
value too. Whatever the parser, a text denotes parameters exactly when it denotes a list, and they
are its items. -/
theorem toValue_keepsShape (j : Json) :
    j.Denotes j.toValue ∧
      (∀ path, j.toValue.at? path = some .null ↔ j.at? path = some .null) ∧
      (∀ path x, j.toValue.at? path = some (.float x) → x.isFinite = true) ∧
      j.toValue.same j.toValue = true ∧
      (∀ e template before items after params,
        ConsistsOf template (before ++ .block items :: after) →
        AcceptsAll (before ++ .block items :: after) params →
        j.toValue ∈ values params (arity before) items →
        render e template params j.toValue =
          .ok (composed e ⟨params, j.toValue⟩ 0 before ++
            composed e ⟨params, j.toValue⟩ (arity before + (Part.block items).arity) after)) ∧
      ∀ parse text params, paramsOfJson parse text = .ok params ↔
        Value.ofJson? parse text = some (.list params) := by
  have hsame : j.toValue.same j.toValue = true := Value.same_self_iff.2 j.not_holdsNaN_toValue
  refine ⟨j.denotes_toValue, fun path => ?_, fun path x h => isFinite_of_at? h, hsame, ?_,
    fun parse text params => paramsOfJson_eq_ok_iff⟩
  · rw [at?_toValue, Option.map_eq_some_iff]
    simp only [toValue_eq_null_iff, exists_eq_right]
  · intro e template before items after params hparts haccepts hbound
    have hskipped : (values params (arity before) items).any (·.same j.toValue) = true :=
      List.any_eq_true.2 ⟨_, hbound, hsame⟩
    refine (render_eq_ok_iff_acceptsAll hparts).2 ⟨haccepts, ?_⟩
    rw [composed_append, Nat.zero_add]
    exact (congrArg _ (composed_block_of_skipped e hskipped after)).symm

/-- A list with an integer beyond 64 bits is left out when the skip value is the same list. -/
theorem toValue_keepsShapeOfBound :
    ConsistsOf "a\x7b?a\x7db" [.item (.plain 'a'), .block [.placeholder .array],
        .item (.plain 'b')] ∧
      AcceptsAll [.item (.plain 'a'), .block [.placeholder .array], .item (.plain 'b')]
        [(array [null, number (.natural 9223372036854775808)]).toValue] ∧
      render .mysql "a\x7b?a\x7db" [(array [null, number (.natural 9223372036854775808)]).toValue]
        (array [null, number (.natural 9223372036854775808)]).toValue = .ok "ab" := by
  have hparts : ConsistsOf "a\x7b?a\x7db" [.item (.plain 'a'), .block [.placeholder .array],
      .item (.plain 'b')] :=
    .next (.plain (by decide)) (.next .opening (.next (.typed rfl) (.next .closing
      (.next (.plain (by decide)) .done))))
  have haccepts : AcceptsAll [.item (.plain 'a'), .block [.placeholder .array], .item (.plain 'b')]
      [(array [null, number (.natural 9223372036854775808)]).toValue] := by
    intro i p hp
    match i with
    | 0 =>
      cases hp
      exact ⟨_, rfl, by decide +kernel⟩
    | i + 1 => cases hp
  obtain ⟨-, -, -, -, hleft, -⟩ :=
    (array [null, number (.natural 9223372036854775808)]).toValue_keepsShape
  refine ⟨hparts, haccepts, ?_⟩
  exact hleft .mysql _ [.item (.plain 'a')] _ [.item (.plain 'b')] _ hparts haccepts
    List.mem_cons_self

end Json

end QueryTemplate
