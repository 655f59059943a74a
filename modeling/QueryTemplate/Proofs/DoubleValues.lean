import Mathlib.Algebra.Order.Field.Power
import Mathlib.Data.Rat.Floor
import Mathlib.Tactic.FieldSimp
import Mathlib.Tactic.Linarith
import QueryTemplate.Double.Round

/-!
# The values of doubles

The value of a double is a rational number: its units of `2 ^ (-1074)` with its sign. An infinity
counts as the number that would follow the largest finite one, `2 ^ 1024`. Values grow with the
magnitude, so the doubles lie in order like the integers.
-/

namespace QueryTemplate.Double

/-! ### The numbers that magnitudes stand for -/

/-- The units of a magnitude, with no limit on the exponent. -/
def unitsAt (m : Nat) : Nat :=
  (m - (m / exponentUnit - 1) * exponentUnit) <<< (m / exponentUnit - 1)

lemma units_eq (x : Double) : x.units = unitsAt x.magnitude := rfl

/-- A magnitude as binary places over a significand. The significand may be `2 ^ 53`, which is
the least one with one place more. -/
lemma unitsAt_places {p r : Nat} (hle : r ≤ 2 * exponentUnit) (hge : p = 0 ∨ exponentUnit ≤ r) :
    unitsAt (p * exponentUnit + r) = r * 2 ^ p := by
  unfold unitsAt
  rw [Nat.shiftLeft_eq]
  unfold exponentUnit at *
  rcases Nat.lt_or_ge r 0x20000000000000 with hlt | hcarry
  · have hshift : (p * 0x10000000000000 + r) / 0x10000000000000 - 1 = p := by omega
    rw [hshift, Nat.add_sub_cancel_left]
  · have hshift : (p * 0x10000000000000 + r) / 0x10000000000000 - 1 = p + 1 := by omega
    have hsignificand : p * 0x10000000000000 + r - (p + 1) * 0x10000000000000 =
        0x10000000000000 := by omega
    have hr : r = 0x10000000000000 * 2 := by omega
    rw [hshift, hsignificand, hr, pow_succ, mul_assoc, mul_comm 2]

lemma exists_places (m : Nat) : ∃ p r, m = p * exponentUnit + r ∧ r < 2 * exponentUnit ∧
    (p = 0 ∨ exponentUnit ≤ r) := by
  refine ⟨m / exponentUnit - 1, m - (m / exponentUnit - 1) * exponentUnit, ?_⟩
  unfold exponentUnit
  omega

lemma unitsAt_strictMono : StrictMono unitsAt := by
  apply strictMono_nat_of_lt_succ
  intro m
  obtain ⟨p, r, rfl, hlt, hge⟩ := exists_places m
  rw [unitsAt_places hlt.le hge, add_assoc, unitsAt_places (by omega) (by omega)]
  exact Nat.mul_lt_mul_of_pos_right (Nat.lt_succ_self r) (Nat.two_pow_pos p)

/-- The next magnitude has at most twice as many units. -/
lemma unitsAt_succ_le {m : Nat} (h : 0 < m) : unitsAt (m + 1) ≤ 2 * unitsAt m := by
  obtain ⟨p, r, rfl, hlt, hge⟩ := exists_places m
  have hr : 0 < r := by
    unfold exponentUnit at h hge
    omega
  rw [unitsAt_places hlt.le hge, add_assoc, unitsAt_places (by omega) (by omega), ← mul_assoc]
  exact Nat.mul_le_mul_right _ (by omega)

/-- From `2 ^ (52 + p)` units on, the numbers of units are multiples of `2 ^ p`. -/
lemma two_pow_dvd_unitsAt {p m : Nat} (h : 2 ^ (52 + p) ≤ unitsAt m) : 2 ^ p ∣ unitsAt m := by
  obtain ⟨p', r, rfl, hlt, hge⟩ := exists_places m
  rw [unitsAt_places hlt.le hge] at h ⊢
  have hunit : 2 * exponentUnit = 2 ^ 53 := by decide
  have hbelow : r * 2 ^ p' < 2 ^ (53 + p') := by
    rw [pow_add, ← hunit]
    exact Nat.mul_lt_mul_of_pos_right hlt (Nat.two_pow_pos p')
  have hplaces : 52 + p < 53 + p' :=
    (Nat.pow_lt_pow_iff_right (by decide)).1 (Nat.lt_of_le_of_lt h hbelow)
  exact Dvd.dvd.mul_left (Nat.pow_dvd_pow 2 (by omega)) r

lemma unitsPerOne_eq : unitsPerOne = 2 ^ 1074 := by
  have h : ∀ k : Nat, 1 <<< k = 2 ^ k := Nat.one_shiftLeft
  exact h 1074

lemma unitsPerOne_pos : (0 : ℚ) < unitsPerOne := by
  rw [unitsPerOne_eq]
  positivity

lemma unitsAt_infinityMagnitude : unitsAt infinityMagnitude = 2 ^ 1024 * unitsPerOne := by
  have hplaces : infinityMagnitude = 2046 * exponentUnit + exponentUnit := by decide
  have hunit : exponentUnit = 2 ^ 52 := by decide
  rw [hplaces, unitsAt_places (by decide) (.inr le_rfl), hunit, unitsPerOne_eq, ← pow_add,
    ← pow_add]

/-! ### Values -/

/-- The sign as a factor. -/
def signum (negative : Bool) : ℚ := if negative then -1 else 1

/-- The exact value of a number; an infinity counts as `2 ^ 1024` with its sign. -/
def toRat (x : Double) : ℚ := signum x.negative * (x.units / unitsPerOne)

lemma isNaN_eq_false_iff {x : Double} : x.isNaN = false ↔ x.magnitude ≤ infinityMagnitude := by
  rw [isNaN, decide_eq_false_iff_not, Nat.not_lt]

lemma isNaN_of_isFinite {x : Double} (h : x.isFinite = true) : x.isNaN = false :=
  isNaN_eq_false_iff.2 (of_decide_eq_true h).le

lemma magnitude_of_not_isFinite {x : Double} (hn : x.isNaN = false) (hx : ¬x.isFinite = true) :
    x.magnitude = infinityMagnitude := by
  rw [isFinite, decide_eq_true_eq, Nat.not_lt] at hx
  exact le_antisymm (isNaN_eq_false_iff.1 hn) hx

lemma toRat_zero (negative : Bool) : (zero negative).toRat = 0 := by
  have hunits : (zero negative).units = unitsAt 0 := rfl
  have hzero : unitsAt 0 = 0 := rfl
  rw [toRat, hunits, hzero, Nat.cast_zero, zero_div, mul_zero]

/-! ### The order of doubles -/

/-- The magnitude with its sign: the doubles in the order of their values. -/
def rank (x : Double) : Int := if x.negative then -(x.magnitude : Int) else x.magnitude

lemma natAbs_rank (x : Double) : x.rank.natAbs = x.magnitude := by
  unfold rank
  split <;> simp

def ofRank (k : Int) (h : k.natAbs ≤ infinityMagnitude) : Double :=
  ⟨decide (k < 0), k.natAbs, Nat.lt_of_le_of_lt h infinityMagnitude_lt⟩

lemma rank_ofRank {k : Int} (h : k.natAbs ≤ infinityMagnitude) : (ofRank k h).rank = k := by
  unfold rank ofRank
  dsimp only
  split
  · rename_i hneg
    have := of_decide_eq_true hneg
    omega
  · rename_i hneg
    have := of_decide_eq_false (Bool.eq_false_of_not_eq_true hneg)
    omega

lemma toRat_strictMono_rank {x y : Double} (h : x.rank < y.rank) : x.toRat < y.toRat := by
  have hpos := unitsPerOne_pos
  have hunits : ∀ m k : Nat, m < k → (unitsAt m : ℚ) / unitsPerOne < unitsAt k / unitsPerOne :=
    fun m k hlt => div_lt_div_of_pos_right (by exact_mod_cast unitsAt_strictMono hlt) hpos
  have hnonneg : ∀ m : Nat, (0 : ℚ) ≤ unitsAt m / unitsPerOne :=
    fun m => div_nonneg (Nat.cast_nonneg _) hpos.le
  have hx := hnonneg x.magnitude
  have hy := hnonneg y.magnitude
  rw [toRat, toRat, units_eq, units_eq]
  unfold rank at h
  cases hxn : x.negative <;> cases hyn : y.negative <;>
    simp only [hxn, hyn, signum, if_true, Bool.false_eq_true, if_false] at h ⊢
  · have hlt := hunits x.magnitude y.magnitude (by omega)
    linarith
  · omega
  · rcases Nat.eq_zero_or_pos x.magnitude with hzero | hpositive
    · have hlt := hunits x.magnitude y.magnitude (by omega)
      linarith
    · have hlt := hunits 0 x.magnitude hpositive
      have hzero := hnonneg 0
      linarith
  · have hlt := hunits y.magnitude x.magnitude (by omega)
    linarith

lemma toRat_eq_of_rank_eq {x y : Double} (h : x.rank = y.rank) : x.toRat = y.toRat := by
  have hmagnitude : x.magnitude = y.magnitude := by rw [← natAbs_rank, h, natAbs_rank]
  rw [toRat, toRat, units_eq, units_eq, hmagnitude]
  by_cases hzero : y.magnitude = 0
  · have hunits : unitsAt 0 = 0 := rfl
    rw [hzero, hunits, Nat.cast_zero, zero_div, mul_zero, mul_zero]
  · have hsign : x.negative = y.negative := by
      unfold rank at h
      cases hx : x.negative <;> cases hy : y.negative <;> simp_all
    rw [hsign]

/-- Two doubles of one sign and one value are the same. -/
lemma eq_of_toRat_eq {x y : Double} (hsign : x.negative = y.negative) (h : x.toRat = y.toRat) :
    x = y := by
  have hne : signum y.negative ≠ 0 := by
    cases y.negative <;> simp [signum]
  rw [toRat, toRat, hsign, units_eq, units_eq] at h
  have hunits : (unitsAt x.magnitude : ℚ) = unitsAt y.magnitude :=
    (div_left_inj' unitsPerOne_pos.ne').1 (mul_left_cancel₀ hne h)
  have hmagnitude : x.magnitude = y.magnitude :=
    unitsAt_strictMono.injective (by exact_mod_cast hunits)
  cases x
  cases y
  simp_all

/-- Two doubles with even significands are no neighbours. -/
lemma exists_between {x y : Double} (hx : x.isNaN = false) (hy : y.isNaN = false)
    (hxeven : 2 ∣ x.magnitude) (hyeven : 2 ∣ y.magnitude) (hlt : x.toRat < y.toRat) :
    ∃ z : Double, z.isNaN = false ∧ x.toRat < z.toRat ∧ z.toRat < y.toRat := by
  rw [isNaN_eq_false_iff] at hx hy
  have hrank : x.rank < y.rank := by
    by_contra hnot
    rcases (not_lt.1 hnot).lt_or_eq with h | h
    · exact absurd (toRat_strictMono_rank h) hlt.asymm
    · exact hlt.ne (toRat_eq_of_rank_eq h.symm)
  have hbounds : (x.rank + 1).natAbs ≤ infinityMagnitude ∧ x.rank + 1 < y.rank := by
    rw [← natAbs_rank] at hx hy hxeven hyeven
    omega
  refine ⟨ofRank (x.rank + 1) hbounds.1, isNaN_eq_false_iff.2 hbounds.1, ?_, ?_⟩
  · apply toRat_strictMono_rank
    rw [rank_ofRank]
    omega
  · apply toRat_strictMono_rank
    rw [rank_ofRank]
    exact hbounds.2

/-! ### Integers -/

/-- The integers of at most 53 bits, and `2 ^ 53`, are the values of magnitudes. -/
lemma exists_unitsAt_eq {k : Nat} (hk : k ≤ 2 * exponentUnit) :
    ∃ m < infinityMagnitude, unitsAt m = k * unitsPerOne := by
  have hunit : exponentUnit = 2 ^ 52 := by decide
  have hinfinity : infinityMagnitude = 2047 * exponentUnit := by decide
  rcases Nat.eq_zero_or_pos k with rfl | hpos
  · exact ⟨0, by decide, by rw [zero_mul]; rfl⟩
  · rcases hk.lt_or_eq with hlt | rfl
    · have hlog : Nat.log2 k ≤ 52 := by
        have h : Nat.log2 k < 53 := (Nat.log2_lt hpos.ne').2 (by omega)
        omega
      have hlow : exponentUnit ≤ k * 2 ^ (52 - Nat.log2 k) := by
        calc exponentUnit = 2 ^ Nat.log2 k * 2 ^ (52 - Nat.log2 k) := by
              rw [hunit, ← pow_add, Nat.add_sub_cancel' hlog]
          _ ≤ k * 2 ^ (52 - Nat.log2 k) := Nat.mul_le_mul_right _ (Nat.log2_self_le hpos.ne')
      have hhigh : k * 2 ^ (52 - Nat.log2 k) ≤ 2 * exponentUnit := by
        calc k * 2 ^ (52 - Nat.log2 k) ≤ 2 ^ (Nat.log2 k + 1) * 2 ^ (52 - Nat.log2 k) :=
              Nat.mul_le_mul_right _ Nat.lt_log2_self.le
          _ = 2 * exponentUnit := by
              rw [hunit, ← pow_add, ← pow_succ']
              congr 1
              omega
      refine ⟨(1022 + Nat.log2 k) * exponentUnit + k * 2 ^ (52 - Nat.log2 k), ?_, ?_⟩
      · rw [hinfinity]
        generalize k * 2 ^ (52 - Nat.log2 k) = r at hhigh ⊢
        unfold exponentUnit at *
        omega
      · rw [unitsAt_places hhigh (.inr hlow), unitsPerOne_eq, mul_assoc, ← pow_add]
        congr 2
        omega
    · refine ⟨1074 * exponentUnit + 2 * exponentUnit, by decide, ?_⟩
      rw [unitsAt_places le_rfl (.inr (by decide)), unitsPerOne_eq]

/-- The integers of at most 53 bits, and `2 ^ 53` with both signs, are doubles. -/
lemma exists_toRat_eq_intCast {z : Int} (hz : z.natAbs ≤ 2 * exponentUnit) :
    ∃ x : Double, x.isFinite ∧ x.toRat = z := by
  obtain ⟨m, hm, hunits⟩ := exists_unitsAt_eq hz
  refine ⟨⟨decide (z < 0), m, hm.trans infinityMagnitude_lt⟩, decide_eq_true hm, ?_⟩
  rw [toRat, units_eq, hunits, Nat.cast_mul, mul_div_cancel_right₀ _ unitsPerOne_pos.ne',
    Nat.cast_natAbs]
  rcases lt_or_ge z 0 with hneg | hnonneg
  · simp [signum, hneg, abs_of_neg hneg]
  · simp [signum, hnonneg, abs_of_nonneg hnonneg]

end QueryTemplate.Double
