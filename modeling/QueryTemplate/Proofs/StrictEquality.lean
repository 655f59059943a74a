import QueryTemplate.Proofs.Events
import QueryTemplate.Proofs.Interchange
import Mathlib.Data.List.Forall2

/-!
# Strict equality and the skip value

Strict equality is symmetric and transitive on values of any depth, and it is reflexive at the
values that hold no NaN. A run compares parameters with its skip value and does nothing else with
it, so skip values that are equal give the same run, and one that holds a NaN leaves out no block.
-/

namespace QueryTemplate

namespace Double

lemma same_iff {x y : Double} : x.same y = true ↔
    x.isNaN = false ∧ y.isNaN = false ∧ (x.magnitude = 0 ∧ y.magnitude = 0 ∨ x = y) := by
  simp [same, isZero, and_assoc]

lemma same_comm (x y : Double) : x.same y = y.same x := by
  rw [Bool.eq_iff_iff, same_iff, same_iff]
  constructor
  · rintro ⟨hx, hy, h⟩
    exact ⟨hy, hx, h.imp And.symm Eq.symm⟩
  · rintro ⟨hy, hx, h⟩
    exact ⟨hx, hy, h.imp And.symm Eq.symm⟩

lemma same_trans {x y z : Double} (hxy : x.same y = true) (hyz : y.same z = true) :
    x.same z = true := by
  rw [same_iff] at *
  obtain ⟨hx, -, hxy⟩ := hxy
  obtain ⟨-, hz, hyz⟩ := hyz
  refine ⟨hx, hz, ?_⟩
  rcases hxy with ⟨hx, hy⟩ | rfl
  · rcases hyz with ⟨-, hz⟩ | rfl
    · exact .inl ⟨hx, hz⟩
    · exact .inl ⟨hx, hy⟩
  · exact hyz

lemma same_self (x : Double) : x.same x = !x.isNaN := by
  simp [same]

end Double

namespace Value

lemma sizeOf_lt_of_mem_elements {v w : Value} (h : w ∈ v.elements) : sizeOf w < sizeOf v := by
  cases v with
  | list items =>
    have hlt : sizeOf w < sizeOf items := List.sizeOf_lt_of_mem h
    simp only [list.sizeOf_spec]
    omega
  | map entries =>
    obtain ⟨entry, hentry, rfl⟩ := List.mem_map.1 h
    have hlt : sizeOf entry < sizeOf entries := List.sizeOf_lt_of_mem hentry
    have hentry : sizeOf entry = 1 + sizeOf entry.1 + sizeOf entry.2 := rfl
    simp only [map.sizeOf_spec]
    omega
  | _ => cases h

/-- Induction on the depth of a value. -/
theorem induction_elements {motive : Value → Prop}
    (step : ∀ v, (∀ w ∈ v.elements, motive w) → motive v) (v : Value) : motive v :=
  step v fun w _ => induction_elements step w
termination_by sizeOf v
decreasing_by exact sizeOf_lt_of_mem_elements ‹_›

/-- A NaN stands in a value, at some depth. -/
inductive HoldsNaN : Value → Prop where
  | here {x : Double} : x.isNaN = true → HoldsNaN (float x)
  | inside {v w : Value} : w ∈ v.elements → HoldsNaN w → HoldsNaN v

/-- Two values are strictly equal. -/
def Same (v w : Value) : Prop := v.same w = true

lemma sameItems_iff {as bs : List Value} : sameItems as bs = true ↔ List.Forall₂ Same as bs := by
  induction as generalizing bs with
  | nil => cases bs <;> simp [sameItems]
  | cons a as ih => cases bs <;> simp [sameItems, ih, Same]

lemma sameEntries_iff {as bs : List (String × Value)} : sameEntries as bs = true ↔
    as.map (·.1) = bs.map (·.1) ∧ List.Forall₂ Same (as.map (·.2)) (bs.map (·.2)) := by
  induction as generalizing bs with
  | nil => cases bs <;> simp [sameEntries]
  | cons a as ih => cases bs <;> simp [sameEntries, ih, Same, and_assoc, and_left_comm]

lemma float_same_iff {x : Double} {w : Value} :
    (float x).Same w ↔ ∃ y, w = float y ∧ x.same y = true := by
  cases w <;> simp [Same, same]

lemma list_same_iff {as : List Value} {w : Value} :
    (list as).Same w ↔ ∃ bs, w = list bs ∧ List.Forall₂ Same as bs := by
  cases w <;> simp [Same, same, sameItems_iff]

lemma map_same_iff {as : List (String × Value)} {w : Value} :
    (map as).Same w ↔ ∃ bs, w = map bs ∧ as.map (·.1) = bs.map (·.1) ∧
      List.Forall₂ Same (as.map (·.2)) (bs.map (·.2)) := by
  cases w <;> simp [Same, same, sameEntries_iff]

/-- Values that are strictly equal are the same one, or numbers, lists or maps. -/
lemma Same.cases {v w : Value} (h : v.Same w) : v = w ∨ (∃ x, v = float x) ∨
    (∃ as, v = list as) ∨ ∃ as, v = map as := by
  cases v with
  | float x => exact .inr (.inl ⟨x, rfl⟩)
  | list as => exact .inr (.inr (.inl ⟨as, rfl⟩))
  | map as => exact .inr (.inr (.inr ⟨as, rfl⟩))
  | _ => cases w <;> simp_all [Same, same]

lemma forall₂_symm {as bs : List Value} (ih : ∀ a ∈ as, ∀ b, a.Same b → b.Same a)
    (h : List.Forall₂ Same as bs) : List.Forall₂ Same bs as := by
  induction h with
  | nil => exact .nil
  | cons hab _ ihs =>
    exact .cons (ih _ List.mem_cons_self _ hab) (ihs fun a ha => ih a (List.mem_cons_of_mem _ ha))

lemma forall₂_trans {as bs cs : List Value}
    (ih : ∀ a ∈ as, ∀ b c, a.Same b → b.Same c → a.Same c)
    (h : List.Forall₂ Same as bs) (h' : List.Forall₂ Same bs cs) : List.Forall₂ Same as cs := by
  induction h generalizing cs with
  | nil => exact h'
  | cons hab _ ihs =>
    cases h' with
    | cons hbc h' =>
      exact .cons (ih _ List.mem_cons_self _ _ hab hbc)
        (ihs (fun a ha => ih a (List.mem_cons_of_mem _ ha)) h')

theorem Same.symm {v w : Value} (h : v.Same w) : w.Same v := by
  induction v using induction_elements generalizing w with
  | step v ih =>
    rcases h.cases with rfl | ⟨x, rfl⟩ | ⟨as, rfl⟩ | ⟨as, rfl⟩
    · exact h
    · obtain ⟨y, rfl, hxy⟩ := float_same_iff.1 h
      rw [Same, same, Double.same_comm]
      exact hxy
    · obtain ⟨bs, rfl, hs⟩ := list_same_iff.1 h
      exact list_same_iff.2 ⟨as, rfl, forall₂_symm (fun a ha b => ih a ha) hs⟩
    · obtain ⟨bs, rfl, hkeys, hs⟩ := map_same_iff.1 h
      exact map_same_iff.2 ⟨as, rfl, hkeys.symm, forall₂_symm (fun a ha b => ih a ha) hs⟩

theorem Same.trans {u v w : Value} (h : u.Same v) (h' : v.Same w) : u.Same w := by
  induction u using induction_elements generalizing v w with
  | step u ih =>
    rcases h.cases with rfl | ⟨x, rfl⟩ | ⟨as, rfl⟩ | ⟨as, rfl⟩
    · exact h'
    · obtain ⟨y, rfl, hxy⟩ := float_same_iff.1 h
      obtain ⟨z, rfl, hyz⟩ := float_same_iff.1 h'
      exact float_same_iff.2 ⟨z, rfl, Double.same_trans hxy hyz⟩
    · obtain ⟨bs, rfl, hs⟩ := list_same_iff.1 h
      obtain ⟨cs, rfl, hs'⟩ := list_same_iff.1 h'
      exact list_same_iff.2 ⟨cs, rfl, forall₂_trans (fun a ha b c => ih a ha) hs hs'⟩
    · obtain ⟨bs, rfl, hkeys, hs⟩ := map_same_iff.1 h
      obtain ⟨cs, rfl, hkeys', hs'⟩ := map_same_iff.1 h'
      exact map_same_iff.2
        ⟨cs, rfl, hkeys.trans hkeys', forall₂_trans (fun a ha b c => ih a ha) hs hs'⟩

lemma holdsNaN_iff {v : Value} : v.HoldsNaN ↔
    (∃ x, v = float x ∧ x.isNaN = true) ∨ ∃ w ∈ v.elements, w.HoldsNaN := by
  constructor
  · intro h
    cases h with
    | here hx => exact .inl ⟨_, rfl, hx⟩
    | inside hw h => exact .inr ⟨_, hw, h⟩
  · rintro (⟨x, rfl, hx⟩ | ⟨w, hw, h⟩)
    · exact .here hx
    · exact .inside hw h

lemma same_self_iff_elements {v : Value} : v.Same v ↔
    (∀ x, v = float x → x.isNaN = false) ∧ ∀ w ∈ v.elements, w.Same w := by
  cases v with
  | float x => simp [float_same_iff, Double.same_self, elements]
  | list as => simp [list_same_iff, elements, List.forall₂_same]
  | map as =>
    have hself : (map as).Same (map as) ↔ ∀ w ∈ (map as).elements, w.Same w := by
      simp only [map_same_iff, map.injEq, exists_eq_left', true_and, List.forall₂_same]
      rfl
    simp [hself]
  | _ => simp [Same, same, elements]

theorem same_self_iff {v : Value} : v.Same v ↔ ¬v.HoldsNaN := by
  induction v using induction_elements with
  | step v ih =>
    rw [same_self_iff_elements, holdsNaN_iff, not_or]
    refine and_congr (by simp) ?_
    simp only [not_exists, not_and]
    exact forall₂_congr ih

/-- Values that are equal are equal to the same values. -/
lemma Same.same_eq {v w : Value} (h : v.Same w) (u : Value) : u.same w = u.same v := by
  rw [Bool.eq_iff_iff]
  constructor
  · intro hu
    exact Same.trans hu h.symm
  · intro hu
    exact Same.trans hu h

/-- No value equals one that holds a NaN. -/
lemma HoldsNaN.not_same {v : Value} (h : v.HoldsNaN) (u : Value) : ¬u.Same v := by
  intro hu
  exact same_self_iff.1 (hu.symm.trans hu) h

end Value

namespace Template

variable {template : String} {params : List Value} {skip : Value}

lemma drops_run_of_holdsNaN (h : skip.HoldsNaN) (template : String) (params : List Value) :
    (run ⟨params, skip⟩ template).drops = [] := by
  rw [List.eq_nil_iff_forall_not_mem]
  intro d hd
  rw [drops_run] at hd
  obtain ⟨outside, before, ⟨-, i, v, -, -, -, hv⟩, -⟩ :=
    ((Scan.records_read ⟨params, skip⟩ template.toList).mem d).1 hd
  exact h.not_same v hv

lemma keptItems_of_holdsNaN (h : skip.HoldsNaN) (n : Nat) (parts : List Part) :
    keptItems ⟨params, skip⟩ n parts = numbered Item.arity n (parts.flatMap Part.items) := by
  have hkept : ∀ x ∈ numbered Part.arity n parts, x.2.isKept ⟨params, skip⟩ x.1 = true := by
    rintro ⟨k, part⟩ -
    cases part with
    | item i => rfl
    | block items =>
      rw [Part.isKept, Bool.not_eq_true', List.any_eq_false]
      intro v _
      exact h.not_same v
  rw [keptItems, keptParts, List.filter_eq_self.2 hkept, numbered_flatMap_items]

/-- Strict equality is symmetric and transitive, and reflexive at the values without a NaN. Skip
values that are strictly equal give the same run of every template, and a skip value that holds a
NaN leaves out no block, so a statement is made of all items of its template. -/
theorem run_sameSkip (e : Escaper) (template : String) (params : List Value) :
    (∀ v w : Value, v.same w = w.same v) ∧
      (∀ u v w : Value, u.same v = true → v.same w = true → u.same w = true) ∧
      (∀ v : Value, v.same v = true ↔ ¬v.HoldsNaN) ∧
      (∀ skip skip' : Value, skip.same skip' = true →
        run ⟨params, skip'⟩ template = run ⟨params, skip⟩ template ∧
          render e template params skip' = render e template params skip) ∧
      ∀ skip : Value, skip.HoldsNaN → (run ⟨params, skip⟩ template).drops = [] ∧
        ∀ parts sql, ConsistsOf template parts → render e template params skip = .ok sql →
          sql = joined e params (numbered Item.arity 0 (parts.flatMap Part.items)) := by
  refine ⟨?_, ?_, ?_, ?_, ?_⟩
  · intro v w
    rw [Bool.eq_iff_iff]
    exact ⟨Value.Same.symm, Value.Same.symm⟩
  · intro u v w huv hvw
    exact Value.Same.trans huv hvw
  · intro v
    exact Value.same_self_iff
  · intro skip skip' hskip
    have hagrees : Binding.AgreesOn template.toList ⟨params, skip⟩ ⟨params, skip'⟩ := by
      refine ⟨rfl, ?_⟩
      intro before p _ v hv
      exact ⟨v, hv, rfl, Value.Same.same_eq hskip v⟩
    have hrun := hagrees.run_eq
    refine ⟨hrun, ?_⟩
    rw [render_eq, render_eq, hrun]
  · intro skip hskip
    refine ⟨drops_run_of_holdsNaN hskip template params, ?_⟩
    intro parts sql hparts hsql
    rw [((render_eq_ok_iff_acceptsAll hparts).1 hsql).2, composed, keptItems_of_holdsNaN hskip]

/-- The zeros in a list count as equal, and a list with a NaN leaves out no block, also when it is
bound in the block. -/
theorem run_sameSkipOfZeros :
    render .mysql "a\x7b?a\x7db" [.list [.float (.zero true)]] (.list [.float (.zero false)]) =
        .ok "ab" ∧
      render .mysql "a\x7b?a\x7db" [.list [.float (.zero true)]] (.list [.float (.zero true)]) =
        .ok "ab" ∧
      (Value.list [.float (Double.ofBits 0x7FF8000000000000)]).HoldsNaN ∧
      (run ⟨[.list [.float (Double.ofBits 0x7FF8000000000000)]],
        .list [.float (Double.ofBits 0x7FF8000000000000)]⟩ "a\x7b?a\x7db").drops = [] := by
  have hzero : render .mysql "a\x7b?a\x7db" [.list [.float (.zero true)]]
      (.list [.float (.zero false)]) = .ok "ab" := by decide +kernel
  have hnan : (Value.list [.float (Double.ofBits 0x7FF8000000000000)]).HoldsNaN :=
    .inside (List.mem_singleton_self _) (.here (by decide))
  obtain ⟨-, -, -, hsame, -⟩ :=
    run_sameSkip .mysql "a\x7b?a\x7db" [.list [.float (.zero true)]]
  obtain ⟨-, -, -, -, hdrops⟩ := run_sameSkip .mysql "a\x7b?a\x7db"
    [.list [.float (Double.ofBits 0x7FF8000000000000)]]
  have hskip := (hsame (.list [.float (.zero false)]) (.list [.float (.zero true)])
    (by decide +kernel)).2
  exact ⟨hzero, hskip.trans hzero, hnan, (hdrops _ hnan).1⟩

end Template

end QueryTemplate
