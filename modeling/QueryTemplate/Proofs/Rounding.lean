import Mathlib.Data.Nat.Cast.Order.Field
import QueryTemplate.Proofs.DoubleValues

/-!
# Correct rounding

The double made of a quotient or of a decimal number is the nearest one, and the even one of two
at the same distance. Overflow needs no rule of its own: with its value of `2 ^ 1024` an infinity
is the nearest of what lies beyond the finite numbers.
-/

namespace QueryTemplate.Double

/-! ### The nearest natural number -/

/-- The error of the rounding of a quotient is at most one half; if it is one half, the result is
even. -/
lemma divEven_error (n : Nat) {d : Nat} (hd : 0 < d) :
    |(divEven n d : ℚ) - n / d| ≤ 1 / 2 ∧
      (|(divEven n d : ℚ) - n / d| = 1 / 2 → 2 ∣ divEven n d) := by
  have hpos : (0 : ℚ) < d := by exact_mod_cast hd
  have hsplit : (n : ℚ) / d = (n / d : Nat) + ((n % d : Nat) : ℚ) / d := by
    have h : (n : ℚ) = d * (n / d : Nat) + (n % d : Nat) := by
      exact_mod_cast (Nat.div_add_mod n d).symm
    rw [div_eq_iff hpos.ne', add_mul, div_mul_cancel₀ _ hpos.ne', mul_comm]
    exact h
  have hlow : (0 : ℚ) ≤ ((n % d : Nat) : ℚ) / d := by positivity
  have hhigh : ((n % d : Nat) : ℚ) / d < 1 := by
    rw [div_lt_one hpos]
    exact_mod_cast Nat.mod_lt n hd
  unfold divEven
  split
  · rename_i hbelow
    have hhalf : ((n % d : Nat) : ℚ) / d < 1 / 2 := by
      rw [div_lt_iff₀ hpos]
      have h : (2 : ℚ) * (n % d : Nat) < d := by exact_mod_cast hbelow
      linarith
    rw [hsplit, abs_sub_comm, add_sub_cancel_left, abs_of_nonneg hlow]
    exact ⟨hhalf.le, fun h => absurd h hhalf.ne⟩
  · split
    · rename_i habove
      have hhalf : 1 / 2 < ((n % d : Nat) : ℚ) / d := by
        rw [lt_div_iff₀ hpos]
        have h : (d : ℚ) < 2 * (n % d : Nat) := by exact_mod_cast habove
        linarith
      have herror : ((n / d + 1 : Nat) : ℚ) - n / d = 1 - ((n % d : Nat) : ℚ) / d := by
        rw [hsplit]
        push_cast
        ring
      rw [herror, abs_of_pos (by linarith)]
      exact ⟨by linarith, fun h => by linarith⟩
    · have hhalf : ((n % d : Nat) : ℚ) / d = 1 / 2 := by
        rw [div_eq_iff hpos.ne']
        have h : (d : ℚ) = 2 * (n % d : Nat) := by
          exact_mod_cast (by omega : d = 2 * (n % d))
        linarith
      have heven : 2 ∣ n / d + n / d % 2 := by omega
      refine ⟨?_, fun _ => heven⟩
      rcases Nat.mod_two_eq_zero_or_one (n / d) with hmod | hmod
      · rw [hmod, hsplit, hhalf]
        norm_num
      · rw [hmod, hsplit, hhalf]
        norm_num

/-- No natural number is nearer to a quotient than its rounding, and another one is as near only
if the rounding is even. -/
lemma divEven_nearest (n : Nat) {d : Nat} (hd : 0 < d) (j : Nat) :
    |(divEven n d : ℚ) - n / d| ≤ |(j : ℚ) - n / d| ∧
      (|(j : ℚ) - n / d| = |(divEven n d : ℚ) - n / d| → j = divEven n d ∨ 2 ∣ divEven n d) := by
  obtain ⟨herror, heven⟩ := divEven_error n hd
  by_cases hj : j = divEven n d
  · rw [hj]
    exact ⟨le_rfl, fun _ => .inl rfl⟩
  · have hapart : (1 : ℚ) ≤ |(j : ℚ) - divEven n d| := by
      have h : (1 : ℤ) ≤ |(j : ℤ) - divEven n d| :=
        Int.one_le_abs (sub_ne_zero.2 (by exact_mod_cast hj))
      exact_mod_cast h
    have htriangle := abs_sub_le (j : ℚ) (n / d) (divEven n d)
    rw [abs_sub_comm ((n : ℚ) / d)] at htriangle
    refine ⟨by linarith, fun h => .inr (heven ?_)⟩
    linarith

/-! ### The nearest magnitude -/

/-- A magnitude whose number of units is nearest to `a` among the magnitudes allowed, and which is
even if another one is as near. -/
structure Nearest (Allowed : Nat → Prop) (m : Nat) (a : ℚ) : Prop where
  allowed : Allowed m
  le : ∀ k, Allowed k → |(unitsAt m : ℚ) - a| ≤ |(unitsAt k : ℚ) - a|
  even : ∀ k, Allowed k → |(unitsAt k : ℚ) - a| = |(unitsAt m : ℚ) - a| → k = m ∨ 2 ∣ m

/-- The significand of a quotient in its binary places has 53 bits, or fewer with no places. -/
lemma quotient_bounds (n : Nat) {d p : Nat} (hp : p = Nat.log2 (n / d) - 52) :
    n / (d * 2 ^ p) < 2 * exponentUnit ∧
      (p = 0 ∨ exponentUnit ≤ n / (d * 2 ^ p) ∧ 2 ^ (52 + p) ≤ n / d) := by
  have hunit : exponentUnit = 2 ^ 52 := by decide
  have hbelow : n / d < 2 ^ (Nat.log2 (n / d) + 1) := Nat.lt_log2_self
  rw [← Nat.div_div_eq_div_mul, hunit, ← pow_succ', Nat.div_lt_iff_lt_mul (Nat.two_pow_pos p),
    ← pow_add]
  rcases Nat.lt_or_ge 52 (Nat.log2 (n / d)) with hlarge | hsmall
  · have hlog : Nat.log2 (n / d) = 52 + p := by omega
    have hne : n / d ≠ 0 := by
      intro h
      rw [h] at hlarge
      exact absurd hlarge (by decide)
    have habove : 2 ^ (52 + p) ≤ n / d := hlog ▸ Nat.log2_self_le hne
    rw [hlog] at hbelow
    refine ⟨?_, .inr ⟨?_, habove⟩⟩
    · rwa [show 52 + 1 + p = 52 + p + 1 by omega]
    · rwa [Nat.le_div_iff_mul_le (Nat.two_pow_pos p), ← pow_add]
  · have hzero : p = 0 := by omega
    refine ⟨hbelow.trans_le (Nat.pow_le_pow_right (by decide) ?_), .inl hzero⟩
    omega

lemma divEven_bounds (n d : Nat) : n / d ≤ divEven n d ∧ divEven n d ≤ n / d + 1 := by
  unfold divEven
  split
  · omega
  · split <;> omega

/-- The rounded significand gives the nearest multiple of the unit of its places. -/
lemma divEven_mul_nearest (n : Nat) {d : Nat} (hd : 0 < d) (p j : Nat) :
    |((divEven n (d * 2 ^ p) * 2 ^ p : Nat) : ℚ) - n / d| ≤ |((j * 2 ^ p : Nat) : ℚ) - n / d| ∧
      (|((j * 2 ^ p : Nat) : ℚ) - n / d| =
          |((divEven n (d * 2 ^ p) * 2 ^ p : Nat) : ℚ) - n / d| →
        j = divEven n (d * 2 ^ p) ∨ 2 ∣ divEven n (d * 2 ^ p)) := by
  have hpow : (0 : ℚ) < 2 ^ p := by positivity
  have hscaled : ∀ i : Nat, |((i * 2 ^ p : Nat) : ℚ) - n / d| =
      2 ^ p * |(i : ℚ) - n / (d * 2 ^ p : Nat)| := by
    intro i
    have hsplit : ((i * 2 ^ p : Nat) : ℚ) - n / d = 2 ^ p * (i - n / (d * 2 ^ p : Nat)) := by
      have hpos : (0 : ℚ) < d := by exact_mod_cast hd
      push_cast
      field_simp
    rw [hsplit, abs_mul, abs_of_pos hpow]
  obtain ⟨hle, htie⟩ := divEven_nearest n (Nat.mul_pos hd (Nat.two_pow_pos p)) j
  rw [hscaled, hscaled]
  exact ⟨mul_le_mul_of_nonneg_left hle hpow.le, fun heq => htie (mul_left_cancel₀ hpow.ne' heq)⟩

/-- What lies below the least number with the places of a quotient is further away from it. -/
lemma divEven_mul_nearer {n d p u : Nat} (hd : 0 < d) (hleast : 2 ^ (52 + p) ≤ n / d)
    (hu : u < 2 ^ (52 + p)) :
    |((divEven n (d * 2 ^ p) * 2 ^ p : Nat) : ℚ) - n / d| < |(u : ℚ) - n / d| := by
  have hquotient : ((2 ^ 52 * 2 ^ p : Nat) : ℚ) ≤ n / d := by
    rw [← pow_add]
    exact le_trans (Nat.cast_le.2 hleast) Nat.cast_div_le
  have hbelow : (u : ℚ) < (2 ^ 52 * 2 ^ p : Nat) := by
    rw [← pow_add]
    exact Nat.cast_lt.2 hu
  calc |((divEven n (d * 2 ^ p) * 2 ^ p : Nat) : ℚ) - n / d|
      ≤ |((2 ^ 52 * 2 ^ p : Nat) : ℚ) - n / d| := (divEven_mul_nearest n hd p (2 ^ 52)).1
    _ = n / d - (2 ^ 52 * 2 ^ p : Nat) := by
      rw [abs_sub_comm, abs_of_nonneg (sub_nonneg.2 hquotient)]
    _ < n / d - u := sub_lt_sub_left hbelow _
    _ = |(u : ℚ) - n / d| := by
      rw [abs_sub_comm, abs_of_pos (sub_pos.2 (hbelow.trans_le hquotient))]

lemma nearest_places (n : Nat) {d p : Nat} (hd : 0 < d) (hp : p = Nat.log2 (n / d) - 52) :
    Nearest (fun _ => True) (p * exponentUnit + divEven n (d * 2 ^ p)) (n / d) := by
  obtain ⟨hupper, hlower⟩ := quotient_bounds n hp
  obtain ⟨hle, hge⟩ := divEven_bounds n (d * 2 ^ p)
  have hunits : unitsAt (p * exponentUnit + divEven n (d * 2 ^ p)) =
      divEven n (d * 2 ^ p) * 2 ^ p := by
    apply unitsAt_places
    · omega
    · omega
  -- A number is a multiple of the unit of these places, or it lies below all numbers with them.
  have hgrid : ∀ k, (∃ j, unitsAt k = j * 2 ^ p) ∨
      2 ^ (52 + p) ≤ n / d ∧ unitsAt k < 2 ^ (52 + p) := by
    intro k
    by_cases hdvd : 2 ^ p ∣ unitsAt k
    · exact .inl (exists_eq_mul_left_of_dvd hdvd)
    · have hne : p ≠ 0 := by
        rintro rfl
        exact hdvd (one_dvd _)
      exact .inr ⟨(hlower.resolve_left hne).2,
        Nat.lt_of_not_le fun h => hdvd (two_pow_dvd_unitsAt h)⟩
  refine ⟨trivial, fun k _ => ?_, fun k _ heq => ?_⟩
  · rw [hunits]
    rcases hgrid k with ⟨j, hj⟩ | ⟨hleast, hbelow⟩
    · rw [hj]
      exact (divEven_mul_nearest n hd p j).1
    · exact (divEven_mul_nearer hd hleast hbelow).le
  · rw [hunits] at heq
    rcases hgrid k with ⟨j, hj⟩ | ⟨hleast, hbelow⟩
    · rw [hj] at heq
      rcases (divEven_mul_nearest n hd p j).2 heq with hsame | heven
      · exact .inl (unitsAt_strictMono.injective (by rw [hj, hunits, hsame]))
      · exact .inr (Dvd.dvd.add (Dvd.dvd.mul_left (by decide) p) heven)
    · exact absurd heq (divEven_mul_nearer hd hleast hbelow).ne'

/-- Beyond a greatest magnitude, that magnitude is the nearest one. -/
lemma Nearest.of_le {limit : Nat} {a : ℚ} (ha : (unitsAt limit : ℚ) ≤ a) (heven : 2 ∣ limit) :
    Nearest (· ≤ limit) limit a := by
  refine ⟨le_rfl, fun k hk => ?_, fun k _ _ => .inr heven⟩
  have hmono : (unitsAt k : ℚ) ≤ unitsAt limit := by
    exact_mod_cast unitsAt_strictMono.monotone hk
  rw [abs_of_nonpos (by linarith), abs_of_nonpos (by linarith)]
  linarith

lemma Nearest.min {m limit : Nat} {a : ℚ} (h : Nearest (fun _ => True) m a) (heven : 2 ∣ limit) :
    Nearest (· ≤ limit) (min limit m) a := by
  rcases Nat.lt_or_ge limit m with hlt | hle
  · rw [Nat.min_eq_left hlt.le]
    apply Nearest.of_le _ heven
    have hunits : (unitsAt limit : ℚ) < unitsAt m := by
      exact_mod_cast unitsAt_strictMono hlt
    have hle := h.le limit trivial
    by_contra hnot
    rw [abs_of_nonneg (by linarith), abs_of_nonneg (by linarith)] at hle
    linarith
  · rw [Nat.min_eq_right hle]
    exact ⟨hle, fun k _ => h.le k trivial, fun k _ => h.even k trivial⟩

/-- Below one half of the unit, the magnitude zero is the nearest one. -/
lemma Nearest.zero {limit : Nat} {a : ℚ} (hlow : 0 ≤ a) (hhigh : a < 1 / 2) :
    Nearest (· ≤ limit) 0 a := by
  refine ⟨Nat.zero_le _, fun k _ => ?_, fun k _ _ => .inr (dvd_zero 2)⟩
  have hzero : unitsAt 0 = 0 := rfl
  rw [hzero, Nat.cast_zero, zero_sub, abs_neg, abs_of_nonneg hlow]
  rcases Nat.eq_zero_or_pos k with rfl | hpos
  · rw [hzero, Nat.cast_zero, zero_sub, abs_neg, abs_of_nonneg hlow]
  · have hone : (1 : ℚ) ≤ unitsAt k := by
      have h : unitsAt 1 ≤ unitsAt k := unitsAt_strictMono.monotone hpos
      exact_mod_cast h
    rw [abs_of_nonneg (by linarith)]
    linarith

lemma nearest_magnitudeOf (n : Nat) {d : Nat} (hd : 0 < d) :
    Nearest (· ≤ infinityMagnitude) (magnitudeOf n d) (n / d) := by
  unfold magnitudeOf
  dsimp only
  rw [Nat.shiftLeft_eq]
  exact (nearest_places n hd rfl).min (by decide)

/-! ### The nearest double -/

/-- A double is nearest to a rational number, and has an even significand if another one is as
near. The infinities take part with their values. -/
structure IsNearest (x : Double) (q : ℚ) : Prop where
  isNumber : x.isNaN = false
  le : ∀ y : Double, y.isNaN = false → |x.toRat - q| ≤ |y.toRat - q|
  even : ∀ y : Double, y.isNaN = false → |y.toRat - q| = |x.toRat - q| →
    y.toRat = x.toRat ∨ 2 ∣ x.magnitude

lemma abs_signum_mul (negative : Bool) (a : ℚ) : |signum negative * a| = |a| := by
  cases negative <;> simp [signum]

lemma abs_toRat_sub (x : Double) (a : ℚ) : |x.toRat - signum x.negative * a| =
    |(unitsAt x.magnitude : ℚ) - a * unitsPerOne| / unitsPerOne := by
  have hpos := unitsPerOne_pos
  have hsplit : x.toRat - signum x.negative * a = signum x.negative *
      ((unitsAt x.magnitude - a * unitsPerOne) / unitsPerOne) := by
    rw [toRat, units_eq]
    field_simp
  rw [hsplit, abs_signum_mul, abs_div, abs_of_pos hpos]

/-- The distance to a number of the other sign leads through zero. -/
lemma abs_toRat_sub_of_ne {x : Double} {negative : Bool} (h : x.negative ≠ negative) {a : ℚ}
    (ha : 0 ≤ a) : |x.toRat - signum negative * a| =
      |x.toRat| + |(unitsAt 0 : ℚ) - a * unitsPerOne| / unitsPerOne := by
  have hpos := unitsPerOne_pos
  have hunits : (0 : ℚ) ≤ x.units / unitsPerOne := div_nonneg (Nat.cast_nonneg _) hpos.le
  have hsign : signum x.negative = -signum negative := by
    cases hx : x.negative <;> cases hn : negative <;> simp_all [signum]
  have hzero : |(unitsAt 0 : ℚ) - a * unitsPerOne| / unitsPerOne = a := by
    have hunit : unitsAt 0 = 0 := rfl
    rw [hunit, Nat.cast_zero, zero_sub, abs_neg, abs_of_nonneg (mul_nonneg ha hpos.le),
      mul_div_cancel_right₀ _ hpos.ne']
  have hsplit : x.toRat - signum negative * a =
      signum negative * -(x.units / unitsPerOne + a) := by
    rw [toRat, hsign]
    ring
  rw [hsplit, abs_signum_mul, abs_neg, abs_of_nonneg (add_nonneg hunits ha), hzero, toRat,
    abs_signum_mul, abs_of_nonneg hunits]

lemma isNearest_of_nearest {x : Double} {a : ℚ} (ha : 0 ≤ a)
    (h : Nearest (· ≤ infinityMagnitude) x.magnitude (a * unitsPerOne)) :
    x.IsNearest (signum x.negative * a) := by
  have hpos := unitsPerOne_pos
  have hzero := h.le 0 (Nat.zero_le _)
  refine ⟨isNaN_eq_false_iff.2 h.allowed, fun y hy => ?_, fun y hy heq => ?_⟩
  · rw [isNaN_eq_false_iff] at hy
    rw [abs_toRat_sub]
    by_cases hsign : y.negative = x.negative
    · rw [← hsign, abs_toRat_sub]
      exact div_le_div_of_nonneg_right (h.le _ hy) hpos.le
    · rw [abs_toRat_sub_of_ne hsign ha]
      have hle := div_le_div_of_nonneg_right hzero hpos.le
      linarith [abs_nonneg y.toRat]
  · rw [isNaN_eq_false_iff] at hy
    rw [abs_toRat_sub] at heq
    by_cases hsign : y.negative = x.negative
    · rw [← hsign, abs_toRat_sub, div_left_inj' hpos.ne'] at heq
      rcases h.even _ hy heq with hsame | heven
      · left
        rw [toRat, toRat, units_eq, units_eq, hsame, hsign]
      · exact .inr heven
    · rw [abs_toRat_sub_of_ne hsign ha] at heq
      have hle := div_le_div_of_nonneg_right hzero hpos.le
      have hnil : |y.toRat| = 0 := by linarith [abs_nonneg y.toRat]
      rw [hnil, zero_add, div_left_inj' hpos.ne'] at heq
      rcases h.even 0 (Nat.zero_le _) heq with hsame | heven
      · left
        rw [abs_eq_zero.1 hnil, toRat, units_eq, ← hsame]
        simp [unitsAt]
      · exact .inr heven

lemma isNearest_ofRatio (negative : Bool) (n : Nat) {d : Nat} (hd : 0 < d) :
    (ofRatio negative n d).IsNearest (signum negative * (n / d)) := by
  have hnearest := nearest_magnitudeOf (n * unitsPerOne) hd
  have hunits : ((n * unitsPerOne : Nat) : ℚ) / d = n / d * unitsPerOne := by
    push_cast
    ring
  rw [hunits] at hnearest
  exact isNearest_of_nearest (x := ofRatio negative n d) (by positivity) hnearest

/-! ### Decimal numbers -/

lemma lt_ten_pow_digitCount (n : Nat) : n < 10 ^ digitCount n :=
  (Nat.length_toDigits_le_iff (by decide) Nat.length_toDigits_pos).1 le_rfl

lemma isNearest_infinity (negative : Bool) {a : ℚ} (ha : 2 ^ 1024 ≤ a) :
    (infinity negative).IsNearest (signum negative * a) := by
  have hpos : (0 : ℚ) < 2 ^ 1024 := by positivity
  apply isNearest_of_nearest (hpos.le.trans ha)
  apply Nearest.of_le _ (by decide)
  rw [unitsAt_infinityMagnitude, Nat.cast_mul, Nat.cast_pow]
  exact mul_le_mul_of_nonneg_right ha unitsPerOne_pos.le

lemma isNearest_zero (negative : Bool) {a : ℚ} (hlow : 0 ≤ a) (hhigh : a * unitsPerOne < 1 / 2) :
    (zero negative).IsNearest (signum negative * a) :=
  isNearest_of_nearest hlow (Nearest.zero (mul_nonneg hlow unitsPerOne_pos.le) hhigh)

lemma two_pow_le_ten_pow : (2 : ℚ) ^ 1203 ≤ 10 ^ 401 := by
  calc (2 : ℚ) ^ 1203 = (2 ^ 3) ^ 401 := by rw [← pow_mul]
    _ ≤ 10 ^ 401 := pow_le_pow_left₀ (by norm_num) (by norm_num) 401

/-- The powers of ten that are not formed for a large number lead beyond the finite ones. -/
lemma two_pow_le_decimal {n : Nat} {e : Int} (hn : n ≠ 0) (he : 400 < e) :
    (2 : ℚ) ^ 1024 ≤ n * 10 ^ e := by
  have hone : (1 : ℚ) ≤ n := by exact_mod_cast Nat.one_le_iff_ne_zero.2 hn
  have hpower : (10 : ℚ) ^ 401 ≤ 10 ^ e := by
    rw [← zpow_natCast]
    exact zpow_le_zpow_right₀ (by norm_num) (by omega)
  calc (2 : ℚ) ^ 1024 ≤ 2 ^ 1203 := pow_le_pow_right₀ (by norm_num) (by norm_num)
    _ ≤ 10 ^ e := two_pow_le_ten_pow.trans hpower
    _ ≤ n * 10 ^ e := le_mul_of_one_le_left (by positivity) hone

/-- The powers of ten that are not formed for a small number lead below one half of the unit. -/
lemma decimal_lt_half_unit {n : Nat} {e : Int} (he : e + digitCount n < -400) :
    (n : ℚ) * 10 ^ e * unitsPerOne < 1 / 2 := by
  have hdigits : (n : ℚ) < 10 ^ digitCount n := by exact_mod_cast lt_ten_pow_digitCount n
  have hbelow : (n : ℚ) * 10 ^ e < (10 ^ 401)⁻¹ := by
    calc (n : ℚ) * 10 ^ e < 10 ^ digitCount n * 10 ^ e :=
          mul_lt_mul_of_pos_right hdigits (by positivity)
      _ = 10 ^ (digitCount n + e) := by rw [zpow_add₀ (by norm_num), zpow_natCast]
      _ ≤ 10 ^ (-401 : Int) := zpow_le_zpow_right₀ (by norm_num) (by omega)
      _ = (10 ^ 401)⁻¹ := by rw [zpow_neg]; rfl
  have hunit : 2 * (unitsPerOne : ℚ) < 10 ^ 401 := by
    rw [unitsPerOne_eq, Nat.cast_pow, Nat.cast_ofNat, ← pow_succ']
    exact (pow_lt_pow_right₀ (by norm_num) (by norm_num)).trans_le two_pow_le_ten_pow
  calc (n : ℚ) * 10 ^ e * unitsPerOne
      < (10 ^ 401)⁻¹ * unitsPerOne := mul_lt_mul_of_pos_right hbelow unitsPerOne_pos
    _ < 1 / 2 := by
      rw [inv_mul_lt_iff₀ (by positivity), mul_one_div, lt_div_iff₀' two_pos]
      exact hunit

lemma ten_zpow_of_nonneg {e : Int} (h : 0 ≤ e) : (10 : ℚ) ^ e = (Nat.pow 10 e.toNat : Nat) := by
  rw [Nat.pow_eq, Nat.cast_pow, Nat.cast_ofNat, ← zpow_natCast, Int.toNat_of_nonneg h]

lemma ten_zpow_of_neg {e : Int} (h : ¬0 ≤ e) :
    (10 : ℚ) ^ e = ((Nat.pow 10 (-e).toNat : Nat) : ℚ)⁻¹ := by
  rw [← ten_zpow_of_nonneg (by omega), zpow_neg, inv_inv]

/-- The double made of a decimal number is the nearest one, also where the power of ten is not
formed. -/
lemma isNearest_ofDecimal (negative : Bool) (n : Nat) (e : Int) :
    (ofDecimal negative n e).IsNearest (signum negative * (n * 10 ^ e)) := by
  unfold ofDecimal
  split
  · rename_i hzero
    rw [hzero]
    apply isNearest_zero
    · simp
    · simp
  · rename_i hne
    split
    · rename_i hlarge
      exact isNearest_infinity negative (two_pow_le_decimal hne hlarge)
    · split
      · rename_i hsmall
        exact isNearest_zero negative (by positivity) (decimal_lt_half_unit hsmall)
      · split
        · rename_i hnonneg
          have h := isNearest_ofRatio negative (n * Nat.pow 10 e.toNat) Nat.one_pos
          rwa [Nat.cast_one, div_one, Nat.cast_mul, ← ten_zpow_of_nonneg hnonneg] at h
        · rename_i hneg
          have hten : 0 < Nat.pow 10 (-e).toNat := Nat.pow_pos (by decide)
          have h := isNearest_ofRatio negative n hten
          rwa [div_eq_mul_inv, ← ten_zpow_of_neg hneg] at h

/-! ### Uniqueness -/

lemma IsNearest.not_toRat_lt {x y : Double} {q : ℚ} (hx : x.IsNearest q) (hy : y.IsNearest q) :
    ¬ x.toRat < y.toRat := by
  intro hlt
  have hdistance : |x.toRat - q| = |y.toRat - q| :=
    le_antisymm (hx.le y hy.isNumber) (hy.le x hx.isNumber)
  have hxeven := (hx.even y hy.isNumber hdistance.symm).resolve_left hlt.ne'
  have hyeven := (hy.even x hx.isNumber hdistance).resolve_left hlt.ne
  obtain ⟨z, hz, hxz, hzy⟩ := exists_between hx.isNumber hy.isNumber hxeven hyeven hlt
  have hmiddle : x.toRat - q = -(y.toRat - q) := by
    rcases abs_eq_abs.1 hdistance with h | h
    · linarith
    · exact h
  have hnearer : |z.toRat - q| < |x.toRat - q| := by
    rw [abs_of_neg (by linarith : x.toRat - q < 0), abs_lt]
    constructor <;> linarith
  exact absurd (hx.le z hz) (not_le.2 hnearer)

lemma IsNearest.unique {x y : Double} {q : ℚ} (hx : x.IsNearest q) (hy : y.IsNearest q) :
    x.toRat = y.toRat :=
  le_antisymm (not_lt.1 (hy.not_toRat_lt hx)) (not_lt.1 (hx.not_toRat_lt hy))

lemma isNearest_toRat {x : Double} (h : x.isNaN = false) : x.IsNearest x.toRat := by
  refine ⟨h, fun y _ => ?_, fun y _ heq => .inl ?_⟩
  · rw [sub_self, abs_zero]
    exact abs_nonneg _
  · rw [sub_self, abs_zero, abs_eq_zero, sub_eq_zero] at heq
    exact heq

/-! ### The numbers that round to a double -/

lemma abs_sub_le_abs_sub_iff (a b q : ℚ) :
    |a - q| ≤ |b - q| ↔ 0 ≤ (b - a) * (a + b - 2 * q) := by
  have hsquares : (b - q) ^ 2 - (a - q) ^ 2 = (b - a) * (a + b - 2 * q) := by ring
  rw [← sq_le_sq, ← sub_nonneg, hsquares]

/-- What lies between two numbers that round to a double rounds to it too. -/
lemma IsNearest.between {x : Double} {p q r : ℚ} (hp : x.IsNearest p) (hr : x.IsNearest r)
    (hpq : p ≤ q) (hqr : q ≤ r) : x.IsNearest q := by
  refine ⟨hp.isNumber, fun y hy => ?_, fun y hy heq => ?_⟩
  · have hyp := (abs_sub_le_abs_sub_iff _ _ _).1 (hp.le y hy)
    have hyr := (abs_sub_le_abs_sub_iff _ _ _).1 (hr.le y hy)
    rw [abs_sub_le_abs_sub_iff]
    rcases le_total x.toRat y.toRat with h | h
    · nlinarith
    · nlinarith
  · have hyp := (abs_sub_le_abs_sub_iff _ _ _).1 (hp.le y hy)
    have hyr := (abs_sub_le_abs_sub_iff _ _ _).1 (hr.le y hy)
    have hyq := (abs_sub_le_abs_sub_iff _ _ _).1 heq.le
    -- At the end of the interval that faces `y`, the distances are the same as well.
    rcases le_total x.toRat y.toRat with h | h
    · refine hr.even y hy (le_antisymm ?_ (hr.le y hy))
      rw [abs_sub_le_abs_sub_iff]
      nlinarith
    · refine hp.even y hy (le_antisymm ?_ (hp.le y hy))
      rw [abs_sub_le_abs_sub_iff]
      nlinarith

lemma IsNearest.between_signum {x : Double} {negative : Bool} {p q r : ℚ}
    (hp : x.IsNearest (signum negative * p)) (hr : x.IsNearest (signum negative * r))
    (hpq : p ≤ q) (hqr : q ≤ r) : x.IsNearest (signum negative * q) := by
  cases negative with
  | false =>
    simp only [signum, Bool.false_eq_true, if_false, one_mul] at hp hr ⊢
    exact hp.between hr hpq hqr
  | true =>
    simp only [signum, if_true, neg_one_mul] at hp hr ⊢
    exact hr.between hp (neg_le_neg hqr) (neg_le_neg hpq)

/-! ### Decimal numbers that read as a double -/

lemma negative_ofDecimal (negative : Bool) (n : Nat) (e : Int) :
    (ofDecimal negative n e).negative = negative := by
  unfold ofDecimal
  repeat' split
  all_goals rfl

/-- A decimal number of the same sign reads as a double if and only if the double is the nearest
one. -/
lemma ofDecimal_eq_iff {x : Double} {n : Nat} {e : Int} :
    ofDecimal x.negative n e = x ↔ x.IsNearest (signum x.negative * (n * 10 ^ e)) := by
  constructor
  · intro h
    have hnearest := isNearest_ofDecimal x.negative n e
    rwa [h] at hnearest
  · intro h
    exact eq_of_toRat_eq (negative_ofDecimal _ _ _)
      ((isNearest_ofDecimal x.negative n e).unique h)

/-! ### Finite doubles -/

lemma abs_toRat_of_not_isFinite {x : Double} (hn : x.isNaN = false) (hx : ¬x.isFinite = true) :
    |x.toRat| = 2 ^ 1024 := by
  have hpos := unitsPerOne_pos
  rw [toRat, abs_signum_mul, units_eq, magnitude_of_not_isFinite hn hx, unitsAt_infinityMagnitude, Nat.cast_mul,
    Nat.cast_pow, mul_div_cancel_right₀ _ hpos.ne', abs_of_pos (by positivity)]
  rfl

/-- The double nearest to a number is finite if the number is nearer to zero than to the
infinities. -/
lemma IsNearest.isFinite {x : Double} {q : ℚ} (h : x.IsNearest q) (hq : 2 * |q| < 2 ^ 1024) :
    x.isFinite = true := by
  by_contra hx
  have hzero := h.le (zero false) (by decide)
  rw [toRat_zero, zero_sub, abs_neg] at hzero
  have htriangle : |x.toRat| ≤ |x.toRat - q| + |q| := by
    simpa using abs_add_le (x.toRat - q) q
  rw [abs_toRat_of_not_isFinite h.isNumber hx] at htriangle
  generalize (2 : ℚ) ^ 1024 = limit at hq htriangle
  linarith

lemma isFinite_ofRatio_of_lt (negative : Bool) {n : Nat} (hn : n < 2 * int64Span) :
    (ofRatio negative n 1).isFinite = true := by
  apply (isNearest_ofRatio negative n one_pos).isFinite
  rw [abs_signum_mul, Nat.cast_one, div_one, abs_of_nonneg (Nat.cast_nonneg n)]
  have hspan : 2 * int64Span = 2 ^ 64 := by decide
  have hcast : (n : ℚ) < 2 ^ 64 := by
    rw [hspan] at hn
    exact_mod_cast hn
  calc 2 * (n : ℚ) < 2 * 2 ^ 64 := by linarith
    _ = 2 ^ 65 := by norm_num
    _ < 2 ^ 1024 := pow_lt_pow_right₀ (by norm_num) (by norm_num)

lemma isFinite_ofRatio_one (negative : Bool) {n : Nat} (hn : n ≤ int64Span) :
    (ofRatio negative n 1).isFinite = true := by
  have hspan : 0 < int64Span := by decide
  exact isFinite_ofRatio_of_lt negative (by omega)

lemma isFinite_ofInt (i : Int64) : (ofInt i.toInt).isFinite = true := by
  apply isFinite_ofRatio_one
  have hlow := i.minValue_le_toInt
  have hhigh := i.toInt_le
  have hmin : Int64.minValue.toInt = -9223372036854775808 := by decide
  have hmax : Int64.maxValue.toInt = 9223372036854775807 := by decide
  have hspan : int64Span = 9223372036854775808 := rfl
  omega

end QueryTemplate.Double
