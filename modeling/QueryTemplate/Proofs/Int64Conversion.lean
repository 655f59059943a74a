import QueryTemplate.Coercion
import QueryTemplate.Proofs.Rounding
import QueryTemplate.Proofs.WholeParts

/-!
# Doubles as 64-bit integers

A double counts as an integer if its whole part fits in 64 bits, and then it counts as this whole
part. The range is that of a comparison with the doubles nearest to its bounds, although the upper
bound is no double and `2 ^ 63` takes its place. The whole part is a double again, so a conversion
that clamps it to the range leaves it as it is.
-/

namespace QueryTemplate

namespace Double

/-- The number rounded toward zero, as a double. -/
def whole (x : Double) : Double := ofRatio x.negative (x.units / unitsPerOne) 1

/-- Whether a number is finite and lies between the doubles nearest to the bounds of 64 bits, the
lower one included. -/
def InNearestBounds (x : Double) : Prop :=
  x.isFinite = true ∧ (ofInt Int64.minValue.toInt).toRat ≤ x.toRat ∧
    x.toRat < (ofInt Int64.maxValue.toInt).toRat

/-! ### The bounds -/

lemma toRat_ofInt_minValue : (ofInt Int64.minValue.toInt).toRat = -int64Span := by
  have hunits : (ofInt Int64.minValue.toInt).units = int64Span * unitsPerOne := by decide +kernel
  have hnegative : (ofInt Int64.minValue.toInt).negative = true := by decide
  rw [toRat, hunits, hnegative, Nat.cast_mul, mul_div_cancel_right₀ _ unitsPerOne_pos.ne', signum,
    if_pos rfl, neg_one_mul]

/-- The greatest integer of 64 bits is rounded up. -/
lemma toRat_ofInt_maxValue : (ofInt Int64.maxValue.toInt).toRat = int64Span := by
  have hunits : (ofInt Int64.maxValue.toInt).units = int64Span * unitsPerOne := by decide +kernel
  have hnegative : (ofInt Int64.maxValue.toInt).negative = false := by decide
  rw [toRat, hunits, hnegative, Nat.cast_mul, mul_div_cancel_right₀ _ unitsPerOne_pos.ne', signum,
    if_neg Bool.false_ne_true, one_mul]

lemma inNearestBounds_iff {x : Double} : x.InNearestBounds ↔ x.inInt64Range = true := by
  have hpos := unitsPerOne_pos
  have hspan : (0 : ℚ) < int64Span := by exact_mod_cast (by decide : 0 < int64Span)
  have hunits : (0 : ℚ) ≤ x.units / unitsPerOne := div_nonneg (Nat.cast_nonneg _) hpos.le
  rw [InNearestBounds, toRat_ofInt_minValue, toRat_ofInt_maxValue, inInt64Range, Bool.and_eq_true]
  apply and_congr_right
  intro _
  rw [toRat]
  by_cases hnegative : x.negative
  · have hle : x.units ≤ int64Span * unitsPerOne ↔ (x.units : ℚ) / unitsPerOne ≤ int64Span := by
      rw [div_le_iff₀ hpos]
      exact_mod_cast Iff.rfl
    rw [if_pos hnegative, decide_eq_true_iff, hle, hnegative, signum, if_pos rfl, neg_one_mul,
      neg_le_neg_iff, and_iff_left]
    linarith
  · have hlt : x.units < int64Span * unitsPerOne ↔ (x.units : ℚ) / unitsPerOne < int64Span := by
      rw [div_lt_iff₀ hpos]
      exact_mod_cast Iff.rfl
    rw [if_neg hnegative, decide_eq_true_iff, hlt, signum, if_neg hnegative, one_mul,
      and_iff_right]
    linarith

/-! ### The whole part -/

lemma truncate_eq_signum (x : Double) :
    (x.truncate : ℚ) = signum x.negative * (x.units / unitsPerOne : Nat) := by
  rw [truncate, signum]
  generalize x.units / unitsPerOne = n
  split <;> simp

lemma natAbs_truncate (x : Double) : x.truncate.natAbs = x.units / unitsPerOne := by
  rw [truncate]
  split
  · rw [Int.natAbs_neg, Int.natAbs_natCast]
  · rw [Int.natAbs_natCast]

/-- The whole part of a finite number is a double: it has at most 53 bits, or else the number has
no fraction. -/
lemma exists_toRat_eq_truncate {x : Double} (h : x.isFinite = true) :
    ∃ y : Double, y.isNaN = false ∧ y.toRat = x.truncate := by
  have hpos : 0 < unitsPerOne := by exact_mod_cast unitsPerOne_pos
  rcases Nat.lt_or_ge (2 * exponentUnit) (x.units / unitsPerOne) with hlarge | hsmall
  · have hunit : exponentUnit = 2 ^ 52 := by decide
    have hunits : 2 ^ (52 + 1074) ≤ x.units := by
      calc 2 ^ (52 + 1074) = exponentUnit * unitsPerOne := by rw [hunit, unitsPerOne_eq, pow_add]
        _ ≤ x.units / unitsPerOne * unitsPerOne :=
          Nat.mul_le_mul_right _ ((Nat.le_mul_of_pos_left _ Nat.two_pos).trans hlarge.le)
        _ ≤ x.units := Nat.div_mul_le_self _ _
    obtain ⟨n, hn⟩ : unitsPerOne ∣ x.units := by
      rw [unitsPerOne_eq, units_eq]
      exact two_pow_dvd_unitsAt hunits
    refine ⟨x, isNaN_of_isFinite h, ?_⟩
    rw [truncate_eq_signum, toRat, hn, Nat.mul_div_cancel_left _ hpos, Nat.cast_mul,
      mul_div_cancel_left₀ _ unitsPerOne_pos.ne']
  · rw [← natAbs_truncate] at hsmall
    obtain ⟨y, hy, hvalue⟩ := exists_toRat_eq_intCast hsmall
    exact ⟨y, isNaN_of_isFinite hy, hvalue⟩

lemma isNearest_whole (x : Double) : x.whole.IsNearest x.truncate := by
  have h := isNearest_ofRatio x.negative (x.units / unitsPerOne) Nat.one_pos
  rwa [Nat.cast_one, div_one, ← truncate_eq_signum] at h

/-- The rounding toward zero is exact. -/
lemma toRat_whole {x : Double} (h : x.isFinite = true) : x.whole.toRat = towardZero x.toRat := by
  obtain ⟨y, hy, hvalue⟩ := exists_toRat_eq_truncate h
  have hwhole := x.isNearest_whole
  rw [← hvalue] at hwhole
  rw [hwhole.unique (isNearest_toRat hy), hvalue, truncate_eq]

lemma toInt64Clamp_whole {x : Double} (h : x.isFinite = true) :
    x.whole.toInt64Clamp = clampInt64 (towardZero x.toRat) := by
  rw [toInt64Clamp_eq x.isNearest_whole.isNumber, toRat_whole h, towardZero_intCast]

end Double

lemma fitsInt64_iff {z : Int} : FitsInt64 z ↔ -2 ^ 63 ≤ z ∧ z ≤ 2 ^ 63 - 1 := by
  have hmin : Int64.minValue.toInt = -2 ^ 63 := by decide
  have hmax : Int64.maxValue.toInt = 2 ^ 63 - 1 := by decide
  rw [FitsInt64, hmin, hmax]

/-- A double counts as an integer if and only if it is finite and its whole part fits in 64 bits,
and then it counts as its whole part; otherwise it is refused. These are the doubles from the one
nearest to the lower bound up to below the one nearest to the upper bound, and a conversion of
their whole parts that clamps to the range returns them unchanged. -/
theorem coerceInt_float_iff (x : Double) :
    (∀ v, Value.coerceInt (.float x) = .ok v ↔
      (x.isFinite = true ∧ -2 ^ 63 ≤ towardZero x.toRat ∧ towardZero x.toRat ≤ 2 ^ 63 - 1) ∧
        ∃ i : Int64, v = .int i ∧ i.toInt = towardZero x.toRat ∧
          x.whole.toRat = i.toInt ∧ x.whole.toInt64Clamp = i) ∧
    (∀ r, Value.coerceInt (.float x) = .error r ↔
      ¬(x.isFinite = true ∧ -2 ^ 63 ≤ towardZero x.toRat ∧ towardZero x.toRat ≤ 2 ^ 63 - 1) ∧
        r = ⟨.int, .float, .outOfRange x⟩) ∧
    (x.InNearestBounds ↔
      x.isFinite = true ∧ -2 ^ 63 ≤ towardZero x.toRat ∧ towardZero x.toRat ≤ 2 ^ 63 - 1) := by
  rw [← fitsInt64_iff, ← Double.inInt64Range_iff, Double.inNearestBounds_iff]
  refine ⟨fun v => ?_, fun r => ?_, Iff.rfl⟩
  · by_cases hrange : x.inInt64Range = true
    · obtain ⟨hfinite, hfits⟩ := Double.inInt64Range_iff.1 hrange
      have hint := toInt_ofInt_of_fits hfits
      rw [coerceInt_float_of_inInt64Range hrange, Except.ok.injEq]
      constructor
      · rintro rfl
        refine ⟨hrange, _, rfl, hint, ?_, ?_⟩
        · rw [Double.toRat_whole hfinite, hint]
        · rw [Double.toInt64Clamp_whole hfinite, clampInt64_of_fits hfits]
      · rintro ⟨-, i, rfl, hi, -⟩
        rw [← hi, Int64.ofInt_toInt]
    · rw [coerceInt_float_of_not_inInt64Range hrange]
      constructor
      · intro h
        cases h
      · rintro ⟨h, -⟩
        exact absurd h hrange
  · by_cases hrange : x.inInt64Range = true
    · rw [coerceInt_float_of_inInt64Range hrange]
      constructor
      · intro h
        cases h
      · rintro ⟨h, -⟩
        exact absurd hrange h
    · rw [coerceInt_float_of_not_inInt64Range hrange, Except.error.injEq, eq_comm,
        and_iff_right hrange]

end QueryTemplate
