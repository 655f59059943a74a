import QueryTemplate.Proofs.DoubleValues
import QueryTemplate.Proofs.IntegerText

/-!
# Whole parts

The whole part of a number, clamped to the range of 64 bits, and when two numbers agree in it. The
conversion of a double to an integer takes the whole part of its value.
-/

namespace QueryTemplate

/-- The whole part of a number: the number rounded toward zero. -/
def towardZero (q : ℚ) : Int := if q < 0 then ⌈q⌉ else ⌊q⌋

lemma le_towardZero_iff {q : ℚ} {m : Int} (hm : 0 < m) : m ≤ towardZero q ↔ (m : ℚ) ≤ q := by
  have hcast : (0 : ℚ) < m := by exact_mod_cast hm
  unfold towardZero
  split
  · have hceil : ⌈q⌉ ≤ 0 := Int.ceil_le.2 (by push_cast; linarith)
    constructor
    · intro h
      omega
    · intro h
      linarith
  · exact Int.le_floor

lemma towardZero_le_iff {q : ℚ} {m : Int} (hm : m < 0) : towardZero q ≤ m ↔ q ≤ m := by
  have hcast : (m : ℚ) < 0 := by exact_mod_cast hm
  unfold towardZero
  split
  · exact Int.ceil_le
  · have hfloor : 0 ≤ ⌊q⌋ := Int.floor_nonneg.2 (by linarith)
    constructor
    · intro h
      omega
    · intro h
      linarith

lemma towardZero_intCast (z : Int) : towardZero z = z := by
  unfold towardZero
  split <;> simp

lemma towardZero_signum (negative : Bool) {a : ℚ} (ha : 0 ≤ a) :
    towardZero (Double.signum negative * a) = if negative then -⌊a⌋ else ⌊a⌋ := by
  cases negative with
  | false => simp [towardZero, Double.signum, ha]
  | true =>
    rcases ha.eq_or_lt with rfl | hpos
    · simp [towardZero, Double.signum]
    · simp [towardZero, Double.signum, hpos, Int.ceil_neg]

/-! ### Clamped whole parts -/

/-- A positive integer separates two numbers if it is at most one of them, but not the other; a
negative one, if it is at least one of them, but not the other. -/
def Separates (m : Int64) (p q : ℚ) : Prop :=
  (0 < m.toInt ∧ ¬ ((m.toInt : ℚ) ≤ p ↔ (m.toInt : ℚ) ≤ q)) ∨
    (m.toInt < 0 ∧ ¬ (p ≤ m.toInt ↔ q ≤ m.toInt))

lemma le_clampInt64_iff {m : Int64} {q : ℚ} (hm : 0 < m.toInt) :
    m.toInt ≤ (clampInt64 (towardZero q)).toInt ↔ (m.toInt : ℚ) ≤ q := by
  have hrange := m.toInt_le
  have hmin : Int64.minValue.toInt = -9223372036854775808 := by decide
  rw [toInt_clampInt64, ← le_towardZero_iff hm]
  omega

lemma clampInt64_le_iff {m : Int64} {q : ℚ} (hm : m.toInt < 0) :
    (clampInt64 (towardZero q)).toInt ≤ m.toInt ↔ q ≤ m.toInt := by
  have hrange := m.minValue_le_toInt
  have hmax : Int64.maxValue.toInt = 9223372036854775807 := by decide
  rw [toInt_clampInt64, ← towardZero_le_iff hm]
  omega

lemma clampInt64_towardZero_eq_iff {p q : ℚ} :
    clampInt64 (towardZero p) = clampInt64 (towardZero q) ↔ ¬ ∃ m, Separates m p q := by
  constructor
  · rintro heq ⟨m, ⟨hm, hseparates⟩ | ⟨hm, hseparates⟩⟩
    · rw [← le_clampInt64_iff hm, ← le_clampInt64_iff hm, heq] at hseparates
      exact hseparates Iff.rfl
    · rw [← clampInt64_le_iff hm, ← clampInt64_le_iff hm, heq] at hseparates
      exact hseparates Iff.rfl
  · intro hnone
    have habove : ∀ m : Int64, 0 < m.toInt → (m.toInt ≤ (clampInt64 (towardZero p)).toInt ↔
        m.toInt ≤ (clampInt64 (towardZero q)).toInt) := by
      intro m hm
      rw [le_clampInt64_iff hm, le_clampInt64_iff hm]
      by_contra h
      exact hnone ⟨m, .inl ⟨hm, h⟩⟩
    have hbelow : ∀ m : Int64, m.toInt < 0 → ((clampInt64 (towardZero p)).toInt ≤ m.toInt ↔
        (clampInt64 (towardZero q)).toInt ≤ m.toInt) := by
      intro m hm
      rw [clampInt64_le_iff hm, clampInt64_le_iff hm]
      by_contra h
      exact hnone ⟨m, .inr ⟨hm, h⟩⟩
    -- Each of the two clamped parts is an integer that could separate the numbers.
    have hp := habove (clampInt64 (towardZero p))
    have hq := habove (clampInt64 (towardZero q))
    have hp' := hbelow (clampInt64 (towardZero p))
    have hq' := hbelow (clampInt64 (towardZero q))
    rw [← Int64.toInt_inj]
    omega

/-! ### The whole part of a double -/

namespace Double

lemma truncate_eq (x : Double) : x.truncate = towardZero x.toRat := by
  have hpos := unitsPerOne_pos
  have hfloor : ⌊(x.units : ℚ) / unitsPerOne⌋ = (x.units / unitsPerOne : Nat) :=
    Rat.floor_natCast_div_natCast x.units unitsPerOne
  rw [toRat, towardZero_signum _ (div_nonneg (Nat.cast_nonneg _) hpos.le), hfloor, truncate]

lemma fitsInt64_truncate {x : Double} (h : x.inInt64Range) : FitsInt64 x.truncate := by
  have hpos : 0 < unitsPerOne := by exact_mod_cast unitsPerOne_pos
  have hmin : Int64.minValue.toInt = -9223372036854775808 := by decide
  have hmax : Int64.maxValue.toInt = 9223372036854775807 := by decide
  have hspan : int64Span = 9223372036854775808 := rfl
  rw [inInt64Range, Bool.and_eq_true] at h
  unfold FitsInt64 truncate
  by_cases hnegative : x.negative
  · rw [if_pos hnegative] at h ⊢
    have hle : x.units ≤ unitsPerOne * int64Span := by
      rw [mul_comm]
      exact of_decide_eq_true h.2
    have hdiv : x.units / unitsPerOne ≤ int64Span := Nat.div_le_of_le_mul hle
    generalize x.units / unitsPerOne = whole at hdiv ⊢
    omega
  · rw [if_neg hnegative] at h ⊢
    have hdiv : x.units / unitsPerOne < int64Span :=
      (Nat.div_lt_iff_lt_mul hpos).2 (of_decide_eq_true h.2)
    generalize x.units / unitsPerOne = whole at hdiv ⊢
    omega

/-- At `2 ^ 63` the doubles are wider apart than the integers. -/
lemma units_le_of_div_le {x : Double} (h : x.units / unitsPerOne ≤ int64Span) :
    x.units ≤ int64Span * unitsPerOne := by
  have hpos : 0 < unitsPerOne := by exact_mod_cast unitsPerOne_pos
  by_contra hlt
  rw [Nat.not_le] at hlt
  have hspan : int64Span = 2 ^ 63 := by decide
  have hedge : int64Span * unitsPerOne = 2 ^ (52 + 1085) := by
    calc int64Span * unitsPerOne = 2 ^ (63 + 1074) := by rw [hspan, unitsPerOne_eq, pow_add]
      _ = 2 ^ (52 + 1085) := congrArg (2 ^ ·) (by norm_num)
  have hdvd : 2 ^ 1085 ∣ x.units - int64Span * unitsPerOne := by
    apply Nat.dvd_sub
    · rw [units_eq]
      apply two_pow_dvd_unitsAt
      rw [← units_eq, ← hedge]
      exact hlt.le
    · rw [hedge, pow_add]
      exact dvd_mul_left _ _
  have hgap : 2 ^ 1085 ≤ x.units - int64Span * unitsPerOne :=
    Nat.le_of_dvd (Nat.sub_pos_of_lt hlt) hdvd
  have hunit : unitsPerOne ≤ 2 ^ 1085 := by
    have hpower : ∀ m k : Nat, m ≤ k → 2 ^ m ≤ 2 ^ k := fun _ _ => Nat.pow_le_pow_right Nat.two_pos
    rw [unitsPerOne_eq]
    exact hpower 1074 1085 (by omega)
  have hbelow : x.units < (int64Span + 1) * unitsPerOne :=
    (Nat.div_lt_iff_lt_mul hpos).1 (Nat.lt_succ_of_le h)
  rw [Nat.add_mul, Nat.one_mul] at hbelow
  generalize int64Span * unitsPerOne = edge at *
  generalize 2 ^ 1085 = gap at *
  omega

/-- The numbers in range are the finite ones whose whole part 64 bits hold. -/
lemma inInt64Range_iff {x : Double} :
    x.inInt64Range = true ↔ x.isFinite = true ∧ FitsInt64 (towardZero x.toRat) := by
  rw [← truncate_eq]
  constructor
  · intro h
    refine ⟨?_, fitsInt64_truncate h⟩
    rw [inInt64Range, Bool.and_eq_true] at h
    exact h.1
  · rintro ⟨hfinite, hfits⟩
    have hpos : 0 < unitsPerOne := by exact_mod_cast unitsPerOne_pos
    have hmin : Int64.minValue.toInt = -9223372036854775808 := by decide
    have hmax : Int64.maxValue.toInt = 9223372036854775807 := by decide
    have hspan : int64Span = 9223372036854775808 := rfl
    unfold FitsInt64 truncate at hfits
    rw [inInt64Range, hfinite, Bool.true_and]
    split
    · rename_i hnegative
      rw [if_pos hnegative] at hfits
      apply decide_eq_true
      apply units_le_of_div_le
      omega
    · rename_i hnegative
      rw [if_neg hnegative] at hfits
      apply decide_eq_true
      apply (Nat.div_lt_iff_lt_mul hpos).1
      omega

/-- Beyond the range, also for the infinities, the absolute value is at least `2 ^ 63`. -/
lemma int64Span_le_div {x : Double} (h : x.isNaN = false) (hout : x.inInt64Range = false) :
    int64Span ≤ x.units / unitsPerOne := by
  have hpos : 0 < unitsPerOne := by exact_mod_cast unitsPerOne_pos
  rw [Nat.le_div_iff_mul_le hpos]
  by_cases hfinite : x.isFinite
  · rw [inInt64Range, hfinite, Bool.true_and] at hout
    split at hout
    · exact (Nat.lt_of_not_le (of_decide_eq_false hout)).le
    · exact Nat.le_of_not_lt (of_decide_eq_false hout)
  · have hspan : int64Span = 2 ^ 63 := by decide
    have hpower : ∀ k : Nat, 63 ≤ k → 2 ^ 63 ≤ 2 ^ k := fun _ => Nat.pow_le_pow_right Nat.two_pos
    rw [units_eq, magnitude_of_not_isFinite h hfinite, unitsAt_infinityMagnitude, hspan]
    exact Nat.mul_le_mul_right _ (hpower 1024 (by decide))

/-- The conversion to an integer clamps the whole part, also of the infinities. -/
lemma toInt64Clamp_eq {x : Double} (h : x.isNaN = false) :
    x.toInt64Clamp = clampInt64 (towardZero x.toRat) := by
  rw [← truncate_eq, toInt64Clamp, h, if_neg Bool.false_ne_true, toInt64?]
  by_cases hrange : x.inInt64Range
  · rw [if_pos hrange, clampInt64_of_fits (fitsInt64_truncate hrange)]
  · have hdiv := int64Span_le_div h (Bool.eq_false_of_not_eq_true hrange)
    have hmin : Int64.minValue.toInt = -9223372036854775808 := by decide
    have hmax : Int64.maxValue.toInt = 9223372036854775807 := by decide
    have hspan : int64Span = 9223372036854775808 := rfl
    rw [if_neg hrange, truncate]
    generalize x.units / unitsPerOne = whole at hdiv ⊢
    by_cases hnegative : x.negative
    · rw [if_pos hnegative, if_pos hnegative, clampInt64_of_le (by omega)]
    · rw [if_neg hnegative, if_neg hnegative, clampInt64_of_ge (by omega)]

end Double

lemma coerceInt_float_of_inInt64Range {x : Double} (h : x.inInt64Range = true) :
    Value.coerceInt (.float x) = .ok (.int (Int64.ofInt (towardZero x.toRat))) := by
  rw [Value.coerceInt, Double.toInt64?, if_pos h, Double.truncate_eq]

lemma coerceInt_float_of_not_inInt64Range {x : Double} (h : ¬x.inInt64Range = true) :
    Value.coerceInt (.float x) = .error ⟨.int, .float, .outOfRange x⟩ := by
  rw [Value.coerceInt, Double.toInt64?, if_neg h]

end QueryTemplate
