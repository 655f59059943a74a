import QueryTemplate.Proofs.Interchange
import QueryTemplate.Proofs.PlaceholderRules

/-!
# Maps whose keys count their entries

A map whose keys are the decimal numbers of its entries, from zero and in order, has items. A run
that binds a list to a placeholder for items or names is the same with the list made such a map.
Any other map has assignments in place of items and gives no names.
-/

namespace QueryTemplate

namespace Value

/-- The map of a list: the key of an item is the decimal text of its position. -/
def countedMap (xs : List Value) : Value := map (xs.mapIdx fun i x => (toString i, x))

variable {v : Value} {items xs : List Value} {entries : List (String × Value)}

lemma keysCountFrom_iff (n : Nat) (entries : List (String × Value)) :
    keysCountFrom n entries = true ↔
      entries.map (·.1) = (List.range' n entries.length).map toString := by
  induction entries generalizing n with
  | nil => simp [keysCountFrom]
  | cons entry entries ih =>
    rw [keysCountFrom, Bool.and_eq_true, beq_iff_eq, ih, List.length_cons, List.range'_succ,
      List.map_cons, List.map_cons, List.cons.injEq]

lemma isListLike_map_iff : (map entries).isListLike = true ↔
    entries.map (·.1) = (List.range entries.length).map toString := by
  rw [List.range_eq_range', ← keysCountFrom_iff, isListLike, items?]
  cases keysCountFrom 0 entries <;> simp

lemma items?_countedMap (xs : List Value) : (countedMap xs).items? = some xs := by
  have hkeys : (xs.mapIdx fun i x => (toString i, x)).map (·.1) =
      (List.range' 0 (xs.mapIdx fun i x => (toString i, x)).length).map toString := by
    apply List.ext_getElem
    · simp
    · intro i hi hi'
      simp
  have hitems : (xs.mapIdx fun i x => (toString i, x)).map (·.2) = xs := by
    apply List.ext_getElem
    · simp
    · intro i hi hi'
      simp
  rw [countedMap, items?, if_pos ((keysCountFrom_iff 0 _).2 hkeys), hitems]

lemma identifierSteps_of_items? (h : v.items? = some items) :
    v.identifierSteps = Rendering.commaSeparated (items.map fun item => [nameStep item]) := by
  rcases v.identifierSteps_cases with ⟨s, rfl, -⟩ | ⟨items', hi, -, hsteps⟩ | ⟨hi, -, -⟩
  · cases h
  · rw [h, Option.some.injEq] at hi
    rw [hsteps, hi]
  · rw [h] at hi
    cases hi

end Value

/-- For items and names, values with the same items are written alike. -/
lemma Placeholder.render_congr_items {p : Placeholder} {v w : Value} {items : List Value}
    (hp : p = .array ∨ p = .identifier) (hv : v.items? = some items)
    (hw : w.items? = some items) : p.render v = p.render w := by
  rcases hp with rfl | rfl
  · rw [render, render, Value.arraySteps_of_items? hv, Value.arraySteps_of_items? hw]
  · rw [render, render, Value.identifierSteps_of_items? hv, Value.identifierSteps_of_items? hw]

namespace Template

open Value

/-- The placeholder with number `i` asks for items or names, if it is resolved. -/
def TakesItems (params : List Value) (cs : List Char) (i : Nat) : Prop :=
  ∀ before p, IsResolved params cs before p → number before = i → p = .array ∨ p = .identifier

variable {template : String} {params : List Value} {skip : Value} {i : Nat} {xs : List Value}

lemma agreesOn_countedMap (hparam : params[i]? = some (.list xs))
    (htakes : TakesItems params template.toList i) (hlist : (Value.list xs).same skip = false)
    (hmap : (countedMap xs).same skip = false) :
    Binding.AgreesOn template.toList ⟨params, skip⟩ ⟨params.set i (countedMap xs), skip⟩ := by
  refine ⟨List.length_set, ?_⟩
  intro before p hresolved v hv
  by_cases hi : number before = i
  · have hp := htakes before p hresolved hi
    rw [hi, hparam, Option.some.injEq] at hv
    subst hv
    refine ⟨countedMap xs, ?_, ?_, hmap.trans hlist.symm⟩
    · rw [hi, List.getElem?_set_self (List.getElem?_eq_some_iff.1 hparam).1]
    · exact Placeholder.render_congr_items hp (items?_countedMap xs) rfl
  · refine ⟨v, ?_, rfl, rfl⟩
    rw [List.getElem?_set_ne (Ne.symm hi)]
    exact hv

/-- A list that is bound to a placeholder for items or names can be replaced by the map that counts
its items, unless one of the two equals the skip value: the run is the same, whether it ends in a
statement or not. A map with other keys gives no names, and as items all its entries are written
with their keys. -/
theorem render_countedMap (e : Escaper) :
    (∀ (template : String) (params : List Value) (skip : Value) (i : Nat) (xs : List Value),
      params[i]? = some (.list xs) → TakesItems params template.toList i →
      (Value.list xs).same skip = false → (countedMap xs).same skip = false →
      run ⟨params.set i (countedMap xs), skip⟩ template = run ⟨params, skip⟩ template ∧
        render e template (params.set i (countedMap xs)) skip = render e template params skip) ∧
      ∀ entries : List (String × Value),
        entries.map (·.1) ≠ (List.range entries.length).map toString →
        Placeholder.identifier.write e (.map entries) = .error ⟨.identifier, .map, .notNames⟩ ∧
          ((∀ entry ∈ entries, entry.2.IsLiteral) →
            Placeholder.array.write e (.map entries) =
              .ok (", ".intercalate (entries.map fun entry =>
                e.quote entry.1 ++ " = " ++ entry.2.literalText e))) := by
  constructor
  · intro template params skip i xs hparam htakes hlist hmap
    have hrun := (agreesOn_countedMap hparam htakes hlist hmap).run_eq
    refine ⟨hrun, ?_⟩
    rw [render_eq, render_eq, hrun]
  · intro entries hkeys
    have hitems : (Value.map entries).items? = none := by
      rw [← Option.not_isSome_iff_eq_none]
      exact mt isListLike_map_iff.1 hkeys
    constructor
    · apply Placeholder.write_of_not_takes
      rintro (h | h)
      · cases h
      · exact hkeys (isListLike_map_iff.1 h)
    · intro hliteral
      have hadmits : Placeholder.array.Admits (.map entries) :=
        ⟨rfl, List.forall_mem_map.2 hliteral⟩
      rw [Placeholder.write_of_admits hadmits, Placeholder.written_array_map hitems]
      rfl

/-- Keys that count from one, or with leading zeros, are names and no positions. -/
theorem render_countedMapOfTwo :
    render .mysql "?a" [.list [.int 1, .string "x"]] .null = .ok "1, 'x'" ∧
      render .mysql "?a" [.map [("0", .int 1), ("1", .string "x")]] .null = .ok "1, 'x'" ∧
      Placeholder.identifier.write .mysql (.map [("1", .string "x")]) =
        .error ⟨.identifier, .map, .notNames⟩ ∧
      Placeholder.array.write .mysql (.map [("00", .int 1)]) = .ok "`00` = 1" := by
  obtain ⟨hreplace, hkeys⟩ := render_countedMap .mysql
  have htakes : TakesItems [.list [.int 1, .string "x"]] "?a".toList 0 := by
    rintro before p ⟨⟨⟨c, after, he, -, -, rfl⟩, -⟩ | ⟨-, ho, -⟩, -⟩ -
    · cases before with
      | nil =>
        obtain ⟨rfl, -⟩ := List.cons.inj (List.cons.inj he).2
        exact .inl rfl
      | cons d before =>
        have hlength := congrArg List.length (List.cons.inj he).2
        simp at hlength
        omega
    · have hlast := congrArg List.getLast? ho.1
      simp at hlast
  have hlist : render .mysql "?a" [.list [.int 1, .string "x"]] .null = .ok "1, 'x'" := by
    decide +kernel
  have hmap := (hreplace "?a" [.list [.int 1, .string "x"]] .null 0 [.int 1, .string "x"] rfl
    htakes rfl rfl).2
  refine ⟨hlist, hmap.trans hlist, (hkeys [("1", .string "x")] (by decide)).1, ?_⟩
  have hwritten := (hkeys [("00", .int 1)] (by decide)).2 (by
    intro entry hentry
    rw [List.mem_singleton] at hentry
    subst hentry
    exact ⟨rfl, fun x hx => by cases hx⟩)
  rw [hwritten]
  decide +kernel

end Template

end QueryTemplate
