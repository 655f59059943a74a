import QueryTemplate.Proofs.Rounding
import QueryTemplate.Proofs.WholeParts

/-!
# Integers read by way of doubles

A numeral with a fraction or an exponent counts as the whole part of the nearest double. This is
the whole part of its exact value unless an integer of 64 bits lies between the two numbers.
-/

namespace QueryTemplate

/-! ### The number that a numeral denotes -/

namespace Numeral

/-- The number that a numeral denotes. -/
def value (n : Numeral) : ℚ :=
  Double.signum n.isNegative *
    (Nat.ofDigitChars 10 n.whole 0 +
      Nat.ofDigitChars 10 (n.fraction.getD []) 0 / 10 ^ (n.fraction.getD []).length) *
    10 ^ (n.exponent.map fun e => signedDigits e.sign e.digits).getD 0

lemma exponentValue_eq (e : Exponent) : e.value = signedDigits e.sign e.digits := by
  rw [Exponent.value, signedDigits, natOfDigits_eq]
  split <;> simp

lemma value_eq (n : Numeral) :
    n.value = Double.signum n.isNegative * (n.mantissa * 10 ^ n.scale) := by
  have hmantissa : (n.mantissa : ℚ) =
      10 ^ (n.fraction.getD []).length * Nat.ofDigitChars 10 n.whole 0 +
        Nat.ofDigitChars 10 (n.fraction.getD []) 0 := by
    rw [mantissa, natOfDigits_eq, Nat.ofDigitChars_append, Nat.ofDigitChars_eq_ofDigitChars_zero]
    push_cast
    rfl
  have hexponent : (n.exponent.map Exponent.value).getD 0 =
      (n.exponent.map fun e => signedDigits e.sign e.digits).getD 0 := by
    cases n.exponent with
    | none => rfl
    | some e => exact exponentValue_eq e
  rw [value, scale, hexponent, hmantissa, zpow_sub₀ (by norm_num), zpow_natCast]
  field_simp

lemma value_of_isIntegral {n : Numeral} (h : n.isIntegral) : n.value = n.toInt := by
  obtain ⟨hfraction, hexponent⟩ : n.fraction = none ∧ n.exponent = none := by
    simpa [isIntegral] using h
  have hscale : n.scale = 0 := by simp [scale, hfraction, hexponent]
  rw [value_eq, hscale, zpow_zero, mul_one, toInt, Double.signum]
  split <;> simp

lemma isNearest_toDouble (n : Numeral) : n.toDouble.IsNearest n.value := by
  rw [value_eq]
  exact Double.isNearest_ofDecimal n.isNegative n.mantissa n.scale

end Numeral

/-! ### The integer of a text -/

lemma intOfText_of_isIntegral {s : String} {n : Numeral} (hn : Numeral.ofText? s = some n)
    (hintegral : n.isIntegral) : intOfText s = clampInt64 (towardZero n.value) := by
  rw [Numeral.value_of_isIntegral hintegral, towardZero_intCast]
  simp only [intOfText, hn, hintegral, if_true]

lemma intOfText_of_not_isIntegral {s : String} {n : Numeral} (hn : Numeral.ofText? s = some n)
    (hscaled : n.isIntegral = false) :
    intOfText s = clampInt64 (towardZero n.toDouble.toRat) := by
  rw [← Double.toInt64Clamp_eq n.isNearest_toDouble.isNumber]
  simp only [intOfText, hn, hscaled, Bool.false_eq_true, if_false]

lemma intOfText_of_toRat_eq {s : String} {n : Numeral} (hn : Numeral.ofText? s = some n)
    (hscaled : n.isIntegral = false) {x : Double} (hfinite : x.isFinite)
    (hvalue : x.toRat = n.value) : intOfText s = clampInt64 (towardZero n.value) := by
  have hx : x.IsNearest n.value := by
    rw [← hvalue]
    exact Double.isNearest_toRat (Double.isNaN_of_isFinite hfinite)
  rw [intOfText_of_not_isIntegral hn hscaled, n.isNearest_toDouble.unique hx, hvalue]

/-- A text with a fraction or an exponent counts as the clamped whole part of the double nearest to
its exact value. That is the clamped whole part of the exact value if and only if no integer
separates the two numbers, so in particular where the exact value is a double or an integer of at
most `2 ^ 53`. Texts with fractions or exponents that denote the same number count as the same
integer, but an integral text counts as the exact one. -/
theorem coerceInt_scaledText {s : String} {n : Numeral} (hn : Numeral.ofText? s = some n)
    (hscaled : n.isIntegral = false) :
    n.toDouble.IsNearest n.value ∧
    Value.coerceInt (.string s) = .ok (.int (clampInt64 (towardZero n.toDouble.toRat))) ∧
    (Value.coerceInt (.string s) = .ok (.int (clampInt64 (towardZero n.value))) ↔
      ¬ ∃ m, Separates m n.value n.toDouble.toRat) ∧
    ((∃ x : Double, x.isFinite ∧ x.toRat = n.value) →
      Value.coerceInt (.string s) = .ok (.int (clampInt64 (towardZero n.value)))) ∧
    (∀ z : Int, z.natAbs ≤ 9007199254740992 → n.value = z →
      Value.coerceInt (.string s) = .ok (.int (Int64.ofInt z))) ∧
    ∀ t k, Numeral.ofText? t = some k → k.value = n.value →
      (k.isIntegral = false →
        Value.coerceInt (.string t) = Value.coerceInt (.string s)) ∧
      (k.isIntegral →
        Value.coerceInt (.string t) = .ok (.int (clampInt64 (towardZero n.value)))) := by
  have hint := intOfText_of_not_isIntegral hn hscaled
  have hcoerce : ∀ t : String, Value.coerceInt (.string t) = .ok (.int (intOfText t)) :=
    fun _ => rfl
  refine ⟨n.isNearest_toDouble, ?_, ?_, ?_, ?_, ?_⟩
  · rw [hcoerce, hint]
  · rw [hcoerce, hint, ← clampInt64_towardZero_eq_iff]
    constructor
    · intro h
      exact (Value.int.inj (Except.ok.inj h)).symm
    · intro h
      rw [h]
  · rintro ⟨x, hfinite, hvalue⟩
    rw [hcoerce, intOfText_of_toRat_eq hn hscaled hfinite hvalue]
  · intro z hz hvalue
    obtain ⟨x, hfinite, hx⟩ := Double.exists_toRat_eq_intCast hz
    have hfits : FitsInt64 z := by
      have hmin : Int64.minValue.toInt = -9223372036854775808 := by decide
      have hmax : Int64.maxValue.toInt = 9223372036854775807 := by decide
      unfold FitsInt64
      omega
    rw [hcoerce, intOfText_of_toRat_eq hn hscaled hfinite (hx.trans hvalue.symm), hvalue,
      towardZero_intCast, clampInt64_of_fits hfits]
  · intro t k hk hvalue
    constructor
    · intro hkscaled
      have hsame : k.toDouble.toRat = n.toDouble.toRat :=
        k.isNearest_toDouble.unique (hvalue ▸ n.isNearest_toDouble)
      rw [hcoerce, hcoerce, hint, intOfText_of_not_isIntegral hk hkscaled, hsame]
    · intro hkintegral
      rw [hcoerce, intOfText_of_isIntegral hk hkintegral, hvalue]

theorem coerceInt_thousand :
    Value.coerceInt (.string "1e3x") = .ok (.int 1000) ∧
      Value.coerceInt (.string "1000") = Value.coerceInt (.string "1e3x") := by
  obtain ⟨-, -, -, -, hsmall, hsame⟩ := coerceInt_scaledText
    (show Numeral.ofText? "1e3x" = some ⟨none, ['1'], none, some ⟨'e', none, ['3']⟩⟩ by decide) rfl
  have hread : Value.coerceInt (.string "1e3x") = .ok (.int 1000) :=
    hsmall 1000 (by decide) (by decide +kernel)
  have hinteger := (hsame "1000" ⟨none, "1000".toList, none, none⟩ (by decide)
    (by decide +kernel)).2 rfl
  refine ⟨hread, ?_⟩
  rw [hread, hinteger]
  exact congrArg (fun i => Except.ok (Value.int i)) (by decide +kernel)

/-- From `2 ^ 53` on not every integer is a double, and the integers between two doubles are lost
even behind a fraction that is zero. -/
theorem coerceInt_beyondSignificand :
    Numeral.ofText? "9007199254740993.0" =
      some ⟨none, "9007199254740993".toList, some ['0'], none⟩ ∧
    clampInt64 (towardZero
      (Numeral.value ⟨none, "9007199254740993".toList, some ['0'], none⟩)) = 9007199254740993 ∧
    Value.coerceInt (.string "9007199254740993.0") = .ok (.int 9007199254740992) := by
  have hint : intOfText "9007199254740993.0" = 9007199254740992 := by decide +kernel
  refine ⟨by decide, by decide +kernel, ?_⟩
  exact congrArg (fun i => Except.ok (Value.int i)) hint

end QueryTemplate
