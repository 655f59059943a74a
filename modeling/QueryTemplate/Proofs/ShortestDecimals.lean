import QueryTemplate.Double.Shortest
import QueryTemplate.Proofs.Rounding

/-!
# The search for the shortest decimal

The numbers that round to a double form an interval around it. So a grid of a power of ten has a
point that reads back only if one of the two points next to the double does, and the coarsest such
grid gives a decimal with the fewest digits: between a shorter decimal and this one there would be
a power of ten on a coarser grid.
-/

namespace QueryTemplate

/-- The number that a decimal denotes. -/
def Decimal.value (d : Decimal) : ℚ := d.digits * 10 ^ d.exponent

namespace Double

/-- A decimal reads as a double, once it has the sign of the double. -/
def ReadsBack (x : Double) (d : Decimal) : Prop :=
  ofDecimal x.negative d.digits d.exponent = x

/-- The distance of a decimal with the sign of a double to that double. -/
def distance (x : Double) (d : Decimal) : ℚ := |signum x.negative * d.value - x.toRat|

/-- A decimal reads back and no other one that does has fewer digits; of those with its exponent it
is the nearest one. -/
structure IsShortest (x : Double) (d : Decimal) : Prop where
  readsBack : x.ReadsBack d
  fewest : ∀ d', x.ReadsBack d' → digitCount d.digits ≤ digitCount d'.digits
  nearest : ∀ k, x.ReadsBack ⟨k, d.exponent⟩ → x.distance d ≤ x.distance ⟨k, d.exponent⟩

variable {tie : Tie} {x : Double} {d d' : Decimal} {e : Int} {k l u : Nat}

/-! ### Decimals that read back -/

lemma readsBack_iff : x.ReadsBack d ↔ x.IsNearest (signum x.negative * d.value) :=
  ofDecimal_eq_iff

lemma ReadsBack.between {d'' : Decimal} (h : x.ReadsBack d) (h'' : x.ReadsBack d'')
    (hle : d.value ≤ d'.value) (hge : d'.value ≤ d''.value) : x.ReadsBack d' := by
  rw [readsBack_iff] at *
  exact h.between_signum h'' hle hge

lemma readsBack_of_value_eq (hx : x.isNaN = false) (h : d.value = x.units / unitsPerOne) :
    x.ReadsBack d := by
  rw [readsBack_iff, h]
  exact isNearest_toRat hx

lemma ReadsBack.of_value_le (h : x.ReadsBack d) (hle : d.value ≤ d'.value)
    (hge : d'.value ≤ x.units / unitsPerOne) : x.ReadsBack d' := by
  rw [readsBack_iff] at *
  exact h.between_signum (isNearest_toRat h.isNumber) hle hge

lemma ReadsBack.of_le_value (h : x.ReadsBack d) (hle : d'.value ≤ d.value)
    (hge : x.units / unitsPerOne ≤ d'.value) : x.ReadsBack d' := by
  rw [readsBack_iff] at *
  exact (isNearest_toRat h.isNumber).between_signum h hge hle

lemma distance_eq (x : Double) (d : Decimal) :
    x.distance d = |d.value - x.units / unitsPerOne| := by
  rw [distance, toRat, ← mul_sub, abs_signum_mul]

lemma value_le_value_iff : Decimal.value ⟨k, e⟩ ≤ Decimal.value ⟨l, e⟩ ↔ k ≤ l := by
  have hpower : (0 : ℚ) < 10 ^ e := by positivity
  rw [Decimal.value, Decimal.value, mul_le_mul_iff_of_pos_right hpower, Nat.cast_le]

/-! ### The two points of a grid next to a double -/

/-- The points `l` and `u` of the grid of `10 ^ e` enclose the absolute value of a double, and no
point of the grid lies between them. -/
structure Encloses (x : Double) (e : Int) (l u : Nat) : Prop where
  lower_le : Decimal.value ⟨l, e⟩ ≤ x.units / unitsPerOne
  le_upper : x.units / unitsPerOne ≤ Decimal.value ⟨u, e⟩
  le_or_le : ∀ k, k ≤ l ∨ u ≤ k

lemma Encloses.readsBack (h : Encloses x e l u) (hk : x.ReadsBack ⟨k, e⟩) :
    x.ReadsBack ⟨l, e⟩ ∨ x.ReadsBack ⟨u, e⟩ := by
  rcases h.le_or_le k with hl | hu
  · exact .inl (hk.of_value_le (value_le_value_iff.2 hl) h.lower_le)
  · exact .inr (hk.of_le_value (value_le_value_iff.2 hu) h.le_upper)

/-- What is at most as far away as the enclosing points that read back is so for all points. -/
lemma Encloses.distance_le (h : Encloses x e l u)
    (hl : x.ReadsBack ⟨l, e⟩ → x.distance d ≤ x.distance ⟨l, e⟩)
    (hu : x.ReadsBack ⟨u, e⟩ → x.distance d ≤ x.distance ⟨u, e⟩) (hk : x.ReadsBack ⟨k, e⟩) :
    x.distance d ≤ x.distance ⟨k, e⟩ := by
  have hlower := h.lower_le
  have hupper := h.le_upper
  rcases h.le_or_le k with hle | hle
  · have hpoint := value_le_value_iff (e := e).2 hle
    refine (hl (hk.of_value_le hpoint hlower)).trans ?_
    rw [distance_eq, distance_eq, abs_of_nonpos (by linarith), abs_of_nonpos (by linarith)]
    linarith
  · have hpoint := value_le_value_iff (e := e).2 hle
    refine (hu (hk.of_le_value hpoint hupper)).trans ?_
    rw [distance_eq, distance_eq, abs_of_nonneg (by linarith), abs_of_nonneg (by linarith)]
    linarith

lemma scaled_pos (x : Double) (e : Int) : 0 < (x.scaled e).2 := by
  have hpos : 0 < unitsPerOne := by exact_mod_cast unitsPerOne_pos
  unfold scaled
  split
  · exact Nat.mul_pos hpos (Nat.pow_pos (by decide))
  · exact hpos

/-- The absolute value of a double as a quotient, in steps of the grid of `10 ^ e`. -/
lemma scaled_eq (x : Double) (e : Int) :
    (x.units : ℚ) / unitsPerOne = (x.scaled e).1 / (x.scaled e).2 * 10 ^ e := by
  have hpos := unitsPerOne_pos
  have hpower : ∀ p : Nat, ((Nat.pow 10 p : Nat) : ℚ) ≠ 0 :=
    fun p => Nat.cast_ne_zero.2 (Nat.pow_pos (by decide)).ne'
  unfold scaled
  split
  · rename_i hnonneg
    have hne := hpower e.toNat
    rw [ten_zpow_of_nonneg hnonneg, Nat.cast_mul]
    field_simp
  · rename_i hneg
    have hne := hpower (-e).toNat
    rw [ten_zpow_of_neg hneg, Nat.cast_mul]
    field_simp

section Quotient

variable {n m : Nat}

/-- The points of a grid next to a quotient of whole numbers. -/
lemma encloses_div (hm : 0 < m) (hx : (x.units : ℚ) / unitsPerOne = n / m * 10 ^ e) :
    Encloses x e (n / m) (if n % m = 0 then n / m else n / m + 1) := by
  have hpower : (0 : ℚ) < 10 ^ e := by positivity
  have hcast : (0 : ℚ) < m := by exact_mod_cast hm
  have hdivision := Nat.div_add_mod n m
  have hremainder := Nat.mod_lt n hm
  refine ⟨?_, ?_, ?_⟩
  · rw [hx, Decimal.value, mul_le_mul_iff_of_pos_right hpower]
    exact Nat.cast_div_le
  · rw [hx, Decimal.value, mul_le_mul_iff_of_pos_right hpower, div_le_iff₀ hcast]
    have hle : n ≤ (if n % m = 0 then n / m else n / m + 1) * m := by
      split
      · rw [mul_comm]
        omega
      · rw [add_mul, mul_comm, one_mul]
        omega
    exact_mod_cast hle
  · intro k
    split <;> omega

/-- Which of the two points is nearer is seen from the remainder of the quotient. -/
lemma distance_div_le_iff (hm : 0 < m) (hx : (x.units : ℚ) / unitsPerOne = n / m * 10 ^ e) :
    (x.distance ⟨n / m, e⟩ ≤ x.distance ⟨n / m + 1, e⟩ ↔ 2 * (n % m) ≤ m) ∧
      (x.distance ⟨n / m + 1, e⟩ ≤ x.distance ⟨n / m, e⟩ ↔ m ≤ 2 * (n % m)) := by
  have hcast : (0 : ℚ) < m := by exact_mod_cast hm
  have hpower : (0 : ℚ) < 10 ^ e := by positivity
  have hfactor : (0 : ℚ) < (10 ^ e) ^ 2 / m := by positivity
  have hdivision : (n : ℚ) = m * (n / m : Nat) + (n % m : Nat) := by
    exact_mod_cast (Nat.div_add_mod n m).symm
  have hquotient : (n : ℚ) / m = (n / m : Nat) + (n % m : Nat) / m := by
    rw [div_eq_iff hcast.ne', add_mul, div_mul_cancel₀ _ hcast.ne', mul_comm]
    exact hdivision
  rw [distance_eq, distance_eq, abs_sub_le_abs_sub_iff, abs_sub_le_abs_sub_iff, hx, hquotient,
    Decimal.value, Decimal.value, Nat.cast_succ]
  generalize n / m = l
  generalize n % m = r
  constructor
  · have hproduct : (((l : ℚ) + 1) * 10 ^ e - l * 10 ^ e) *
        (l * 10 ^ e + (l + 1) * 10 ^ e - 2 * ((l + r / m) * 10 ^ e)) =
          (10 ^ e) ^ 2 / m * (m - 2 * r) := by
      field_simp
      ring
    rw [hproduct, mul_nonneg_iff_of_pos_left hfactor, sub_nonneg]
    exact_mod_cast Iff.rfl
  · have hproduct : ((l : ℚ) * 10 ^ e - (l + 1) * 10 ^ e) *
        ((l + 1) * 10 ^ e + l * 10 ^ e - 2 * ((l + r / m) * 10 ^ e)) =
          (10 ^ e) ^ 2 / m * (2 * r - m) := by
      field_simp
      ring
    rw [hproduct, mul_nonneg_iff_of_pos_left hfactor, sub_nonneg]
    exact_mod_cast Iff.rfl

end Quotient

/-- A grid gives no point if neither of the two next to the double reads back. Otherwise it gives one
that reads back, and that is at most as far away as those of the two that do. -/
lemma gridPoint?_cases (tie : Tie) (x : Double) (e : Int) : ∃ l u, Encloses x e l u ∧
    (x.gridPoint? tie e = none ∧ ¬x.ReadsBack ⟨l, e⟩ ∧ ¬x.ReadsBack ⟨u, e⟩ ∨
      ∃ k, x.gridPoint? tie e = some k ∧ x.ReadsBack ⟨k, e⟩ ∧
        (x.ReadsBack ⟨l, e⟩ → x.distance ⟨k, e⟩ ≤ x.distance ⟨l, e⟩) ∧
        (x.ReadsBack ⟨u, e⟩ → x.distance ⟨k, e⟩ ≤ x.distance ⟨u, e⟩)) := by
  have hreads : ∀ k, (ofDecimal x.negative k e == x) = true ↔ x.ReadsBack ⟨k, e⟩ :=
    fun k => beq_iff_eq
  have hm := scaled_pos x e
  have hx := scaled_eq x e
  unfold gridPoint?
  generalize x.scaled e = quotient at hm hx ⊢
  obtain ⟨n, m⟩ := quotient
  dsimp only at hm hx ⊢
  refine ⟨_, _, encloses_div hm hx, ?_⟩
  simp only [← hreads]
  split
  · rename_i hl hu
    exact .inl ⟨rfl, by simp [hl], by simp [hu]⟩
  · rename_i hl hu
    exact .inr ⟨_, rfl, hl, fun _ => le_rfl, fun h => by simp [hu] at h⟩
  · rename_i hl hu
    exact .inr ⟨_, rfl, hu, fun h => by simp [hl] at h, fun _ => le_rfl⟩
  · rename_i hl hu
    right
    by_cases hexact : n % m = 0
    · simp only [hexact, if_true, mul_zero, hm]
      exact ⟨_, rfl, hl, fun _ => le_rfl, fun _ => le_rfl⟩
    · obtain ⟨hlower, hupper⟩ := distance_div_le_iff hm hx
      rw [if_neg hexact] at hu ⊢
      split
      · rename_i hbelow
        exact ⟨_, rfl, hl, fun _ => le_rfl, fun _ => hlower.2 hbelow.le⟩
      · split
        · rename_i habove
          exact ⟨_, rfl, hu, fun _ => hupper.2 habove.le, fun _ => le_rfl⟩
        · have hmiddle : m = 2 * (n % m) := by omega
          cases tie with
          | up => exact ⟨_, rfl, hu, fun _ => hupper.2 hmiddle.le, fun _ => le_rfl⟩
          | even =>
            refine ⟨_, rfl, ?_⟩
            rcases Nat.mod_two_eq_zero_or_one (n / m) with heven | hodd
            · rw [heven]
              exact ⟨hl, fun _ => le_rfl, fun _ => hlower.2 hmiddle.ge⟩
            · rw [hodd]
              exact ⟨hu, fun _ => hupper.2 hmiddle.le, fun _ => le_rfl⟩

lemma gridPoint?_of_none (h : x.gridPoint? tie e = none) (k : Nat) : ¬x.ReadsBack ⟨k, e⟩ := by
  obtain ⟨l, u, hlu, ⟨-, hl, hu⟩ | ⟨p, hp, -⟩⟩ := gridPoint?_cases tie x e
  · intro hk
    exact (hlu.readsBack hk).elim hl hu
  · rw [h] at hp
    cases hp

lemma gridPoint?_of_some (h : x.gridPoint? tie e = some k) :
    x.ReadsBack ⟨k, e⟩ ∧ ∀ j, x.ReadsBack ⟨j, e⟩ → x.distance ⟨k, e⟩ ≤ x.distance ⟨j, e⟩ := by
  obtain ⟨l, u, hlu, ⟨hnone, -⟩ | ⟨p, hp, hreads, hl, hu⟩⟩ := gridPoint?_cases tie x e
  · rw [h] at hnone
    cases hnone
  · rw [h] at hp
    obtain rfl := Option.some.inj hp
    exact ⟨hreads, fun j hj => hlu.distance_le hl hu hj⟩

/-! ### The coarsest grid -/

lemma firstGrid?_of_some {count : Nat} (h : x.firstGrid? tie count e = some d) :
    x.gridPoint? tie d.exponent = some d.digits ∧
      ∀ e', d.exponent < e' → e' ≤ e → x.gridPoint? tie e' = none := by
  induction count generalizing e with
  | zero => cases h
  | succ count ih =>
    rw [firstGrid?] at h
    split at h
    · rename_i point hpoint
      obtain rfl := Option.some.inj h
      exact ⟨hpoint, fun e' hlt hle => absurd hle (not_le.2 hlt)⟩
    · rename_i hnone
      obtain ⟨hpoint, hcoarser⟩ := ih h
      refine ⟨hpoint, fun e' hlt hle => ?_⟩
      rcases hle.eq_or_lt with rfl | hbelow
      · exact hnone
      · exact hcoarser e' hlt (by omega)

lemma firstGrid?_of_none {count : Nat} (h : x.firstGrid? tie count e = none) {e' : Int}
    (hlt : e - count < e') (hle : e' ≤ e) : x.gridPoint? tie e' = none := by
  induction count generalizing e with
  | zero => omega
  | succ count ih =>
    rw [firstGrid?] at h
    split at h
    · cases h
    · rename_i hnone
      rcases hle.eq_or_lt with rfl | hbelow
      · exact hnone
      · exact ih h (by omega) (by omega)

/-! ### No coarser grid -/

/-- Powers compare like the exponents, scaled by powers that are known to compare. -/
lemma pow_le_pow_of_mul_le {a b : ℚ} (ha : 0 ≤ a) (hb : 1 ≤ b) {p q i j : Nat} (hp : p ≠ 0)
    (hpower : a ^ p ≤ b ^ q) (hexponents : q * i ≤ p * j) : a ^ i ≤ b ^ j := by
  have hpositive : 0 ≤ b := zero_le_one.trans hb
  rw [← pow_le_pow_iff_left₀ (pow_nonneg ha i) (pow_nonneg hpositive j) hp]
  calc (a ^ i) ^ p = (a ^ p) ^ i := pow_right_comm a i p
    _ ≤ (b ^ q) ^ i := pow_le_pow_left₀ (pow_nonneg ha p) hpower i
    _ = b ^ (q * i) := (pow_mul b q i).symm
    _ ≤ b ^ (p * j) := pow_le_pow_right₀ hb hexponents
    _ = (b ^ j) ^ p := by rw [mul_comm, pow_mul]

/-- The decimal logarithm of two to five places suffices for the exponents of doubles. -/
lemma two_zpow_le_ten_zpow {m k : Int} (hm : m.natAbs ≤ 1100)
    (h : m * 30103 < (k - 1) * 100000) : (2 : ℚ) ^ m ≤ 10 ^ k := by
  have habove : (2 : ℚ) ^ 93 ≤ 10 ^ 28 := by norm_num
  have hbelow : (10 : ℚ) ^ 31 ≤ 2 ^ 103 := by norm_num
  rcases le_or_gt 0 m with hnonneg | hneg
  · lift m to Nat using hnonneg
    lift k to Nat using (by omega)
    rw [zpow_natCast, zpow_natCast]
    exact pow_le_pow_of_mul_le (by norm_num) (by norm_num) (by norm_num) habove (by omega)
  · rcases le_or_gt 0 k with hlarge | hsmall
    · calc (2 : ℚ) ^ m ≤ 2 ^ (0 : Int) := zpow_le_zpow_right₀ (by norm_num) hneg.le
        _ = 10 ^ (0 : Int) := by rw [zpow_zero, zpow_zero]
        _ ≤ 10 ^ k := zpow_le_zpow_right₀ (by norm_num) hlarge
    · obtain ⟨i, rfl⟩ := Int.exists_eq_neg_ofNat hneg.le
      obtain ⟨j, rfl⟩ := Int.exists_eq_neg_ofNat hsmall.le
      rw [zpow_neg, zpow_neg, zpow_natCast, zpow_natCast]
      apply inv_anti₀ (by positivity)
      exact pow_le_pow_of_mul_le (by norm_num) (by norm_num) (by norm_num) hbelow (by omega)

lemma log2_units_lt (hx : x.isFinite = true) : Nat.log2 x.units < 1024 + 1074 := by
  have hunits : x.units < 2 ^ (1024 + 1074) := by
    rw [units_eq, pow_add, ← unitsPerOne_eq, ← unitsAt_infinityMagnitude]
    exact unitsAt_strictMono (of_decide_eq_true hx)
  generalize hk : 1024 + 1074 = k at hunits ⊢
  rcases eq_or_ne x.units 0 with hzero | hne
  · rw [hzero, Nat.log2_zero]
    omega
  · exact (Nat.log2_lt hne).2 hunits

lemma lt_ten_zpow_gridAbove (hx : x.isFinite = true) :
    (x.units : ℚ) / unitsPerOne < 10 ^ x.gridAbove := by
  have hlog := log2_units_lt hx
  have hexponent : (x.units.log2 : Int) - 1073 = (x.units.log2 + 1 : Nat) - (1074 : Nat) := by
    omega
  have hbelow : (x.units : ℚ) < 2 ^ (x.units.log2 + 1) := by exact_mod_cast Nat.lt_log2_self
  calc (x.units : ℚ) / unitsPerOne
      < 2 ^ (x.units.log2 + 1) / unitsPerOne := div_lt_div_of_pos_right hbelow unitsPerOne_pos
    _ = 2 ^ ((x.units.log2 : Int) - 1073) := by
      rw [hexponent, zpow_sub₀ two_ne_zero, zpow_natCast, zpow_natCast, unitsPerOne_eq,
        Nat.cast_pow, Nat.cast_ofNat]
    _ ≤ 10 ^ x.gridAbove := by
      apply two_zpow_le_ten_zpow
      · omega
      · rw [gridAbove, Int.fdiv_eq_ediv_of_nonneg _ (by norm_num)]
        omega

/-- The numbers that round to a double are less than twice as great. -/
lemma IsNearest.lt_two_mul {a : ℚ} (hx : x.isFinite = true) (hne : x.isZero = false)
    (h : x.IsNearest (signum x.negative * a)) : a < 2 * (x.units / unitsPerOne) := by
  have hpos := unitsPerOne_pos
  have hmagnitude : x.magnitude < infinityMagnitude := of_decide_eq_true hx
  have hnonzero : 0 < x.magnitude := Nat.pos_of_ne_zero (by simpa [isZero] using hne)
  have hunits : (0 : ℚ) < unitsAt x.magnitude := by
    exact_mod_cast unitsAt_strictMono hnonzero
  have hgreater : (unitsAt x.magnitude : ℚ) < unitsAt (x.magnitude + 1) := by
    exact_mod_cast unitsAt_strictMono (Nat.lt_succ_self _)
  have hdouble : (unitsAt (x.magnitude + 1) : ℚ) ≤ 2 * unitsAt x.magnitude := by
    exact_mod_cast unitsAt_succ_le hnonzero
  let next : Double :=
    ⟨x.negative, x.magnitude + 1, Nat.lt_of_le_of_lt hmagnitude infinityMagnitude_lt⟩
  have hle := h.le next (isNaN_eq_false_iff.2 hmagnitude)
  have hdistance : |next.toRat - signum x.negative * a| =
      |(unitsAt (x.magnitude + 1) : ℚ) - a * unitsPerOne| / unitsPerOne := abs_toRat_sub next a
  rw [abs_toRat_sub, hdistance, div_le_div_iff_of_pos_right hpos, abs_sub_le_abs_sub_iff,
    mul_nonneg_iff_of_pos_left (sub_pos.2 hgreater)] at hle
  rw [units_eq, ← mul_div_assoc, lt_div_iff₀ hpos]
  linarith

lemma ReadsBack.digits_ne_zero (hne : x.isZero = false) (h : x.ReadsBack d) : d.digits ≠ 0 := by
  intro hzero
  rw [ReadsBack, ofDecimal, if_pos hzero] at h
  rw [← h] at hne
  cases hne

lemma ReadsBack.exponent_le (hx : x.isFinite = true) (hne : x.isZero = false)
    (h : x.ReadsBack d) : d.exponent ≤ x.gridAbove := by
  by_contra hlt
  have hbelow := lt_ten_zpow_gridAbove hx
  have htwice := (readsBack_iff.1 h).lt_two_mul hx hne
  have hone : (1 : ℚ) ≤ d.digits := by
    exact_mod_cast Nat.one_le_iff_ne_zero.2 (h.digits_ne_zero hne)
  have hvalue : 10 ^ x.gridAbove * 10 ≤ d.value := by
    calc (10 : ℚ) ^ x.gridAbove * 10 = 10 ^ (x.gridAbove + 1) :=
          (zpow_add_one₀ (by norm_num) _).symm
      _ ≤ 10 ^ d.exponent := zpow_le_zpow_right₀ (by norm_num) (by omega)
      _ ≤ d.digits * 10 ^ d.exponent := le_mul_of_one_le_left (by positivity) hone
  have hpower : (0 : ℚ) < 10 ^ x.gridAbove := by positivity
  linarith

/-! ### The shortest decimal -/

lemma value_expansion (x : Double) : x.expansion.value = x.units / unitsPerOne := by
  have hdigits : x.expansion.digits = x.units * Nat.pow 5 1074 := rfl
  have hexponent : x.expansion.exponent = -((1074 : Nat) : Int) := rfl
  rw [Decimal.value, hdigits, hexponent, unitsPerOne_eq]
  generalize 1074 = p
  have hten : (10 : ℚ) ^ p = 5 ^ p * 2 ^ p := by
    rw [← mul_pow]
    norm_num
  rw [zpow_neg, zpow_natCast, hten, Nat.pow_eq]
  push_cast
  field_simp

/-- The decimal found for a number that is not zero lies on the coarsest grid with a point that
reads back, and it is the nearest of those points. -/
lemma shortest_spec (tie : Tie) (hx : x.isFinite = true) (hne : x.isZero = false) :
    x.ReadsBack (x.shortest tie) ∧
      (∀ d', x.ReadsBack d' → d'.exponent ≤ (x.shortest tie).exponent) ∧
      ∀ k, x.ReadsBack ⟨k, (x.shortest tie).exponent⟩ →
        x.distance (x.shortest tie) ≤ x.distance ⟨k, (x.shortest tie).exponent⟩ := by
  have hnumber := isNaN_of_isFinite hx
  rw [shortest, hne, if_neg Bool.false_ne_true]
  cases hfirst : x.firstGrid? tie (x.gridAbove + 1074).toNat x.gridAbove with
  | some d =>
    obtain ⟨hpoint, hcoarser⟩ := firstGrid?_of_some hfirst
    obtain ⟨hreads, hnearest⟩ := gridPoint?_of_some hpoint
    refine ⟨hreads, fun d' hd' => ?_, hnearest⟩
    by_contra hlt
    exact gridPoint?_of_none (hcoarser _ (not_le.1 hlt) (hd'.exponent_le hx hne)) _ hd'
  | none =>
    have hvalue := value_expansion x
    refine ⟨readsBack_of_value_eq hnumber hvalue, fun d' hd' => ?_, fun k _ => ?_⟩
    · have hle := hd'.exponent_le hx hne
      by_contra hlt
      have hfiner : -1074 < d'.exponent := not_le.1 hlt
      exact gridPoint?_of_none (firstGrid?_of_none hfirst (by omega) hle) _ hd'
    · rw [Option.getD_none, distance_eq, hvalue, sub_self, abs_zero]
      exact abs_nonneg _

/-- On the coarsest grid there are the fewest digits. -/
lemma ReadsBack.fewest (h : x.ReadsBack d)
    (hcoarsest : ∀ d', x.ReadsBack d' → d'.exponent ≤ d.exponent) (h' : x.ReadsBack d') :
    digitCount d.digits ≤ digitCount d'.digits := by
  by_contra hlt
  have hcount : 0 < digitCount d'.digits := Nat.length_toDigits_pos
  have hshort : (d'.digits : ℚ) < 10 ^ digitCount d'.digits := by
    exact_mod_cast lt_ten_pow_digitCount d'.digits
  have hlong : (10 : ℚ) ^ digitCount d'.digits ≤ d.digits := by
    have hle : 10 ^ digitCount d'.digits ≤ d.digits := by
      by_contra hsmall
      exact hlt ((Nat.length_toDigits_le_iff (by decide) hcount).2 (not_le.1 hsmall))
    exact_mod_cast hle
  -- The power of ten between the two decimals has a single digit, so it lies on a coarser grid.
  have hpower : Decimal.value ⟨1, digitCount d'.digits + d.exponent⟩ =
      10 ^ digitCount d'.digits * 10 ^ d.exponent := by
    rw [Decimal.value, Nat.cast_one, one_mul, zpow_add₀ (by norm_num), zpow_natCast]
  have hreads : x.ReadsBack ⟨1, digitCount d'.digits + d.exponent⟩ := by
    apply h'.between h
    · rw [hpower, Decimal.value]
      have hgrid : (10 : ℚ) ^ d'.exponent ≤ 10 ^ d.exponent :=
        zpow_le_zpow_right₀ (by norm_num) (hcoarsest d' h')
      exact mul_le_mul hshort.le hgrid (by positivity) (by positivity)
    · rw [hpower, Decimal.value]
      exact mul_le_mul_of_nonneg_right hlong (by positivity)
  have hle := hcoarsest _ hreads
  dsimp only at hle
  omega

lemma isShortest_zero (negative : Bool) : (zero negative).IsShortest ⟨0, 0⟩ := by
  refine ⟨rfl, fun d' _ => Nat.length_toDigits_pos, fun k _ => ?_⟩
  have hdistance : (zero negative).distance ⟨0, 0⟩ = 0 := by
    rw [distance, toRat_zero, Decimal.value, Nat.cast_zero, zero_mul, mul_zero, sub_zero, abs_zero]
  rw [hdistance]
  exact abs_nonneg _

lemma eq_zero_of_isZero (h : x.isZero = true) : x = zero x.negative := by
  obtain ⟨negative, magnitude, hlt⟩ := x
  obtain rfl : magnitude = 0 := beq_iff_eq.1 h
  rfl

/-- The decimal that is found for a finite number is a shortest one that reads back. -/
lemma isShortest_shortest (tie : Tie) (hx : x.isFinite = true) :
    x.IsShortest (x.shortest tie) := by
  cases hzero : x.isZero with
  | true =>
    rw [shortest, if_pos hzero, eq_zero_of_isZero hzero]
    exact isShortest_zero _
  | false =>
    obtain ⟨hreads, hcoarsest, hnearest⟩ := shortest_spec tie hx hzero
    exact ⟨hreads, fun _ h => hreads.fewest hcoarsest h, hnearest⟩

end Double

end QueryTemplate
