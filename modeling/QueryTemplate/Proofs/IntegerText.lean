import QueryTemplate.Proofs.NumeralGrammar
import QueryTemplate.Rendering

/-!
# Integers read from text

Digits with an optional sign, after blanks and before anything that a numeral cannot go on with,
count as the integer that they denote, clamped to the range of 64 bits. So the integer placeholder
writes the decimal text of a 64-bit integer as it writes the integer.
-/

namespace QueryTemplate

open scoped Computability

/-! ### Clamping -/

lemma toInt_clampInt64 (z : Int) :
    (clampInt64 z).toInt = max Int64.minValue.toInt (min z Int64.maxValue.toInt) := by
  have hmin : Int64.minValue.toInt = -9223372036854775808 := by decide
  have hmax : Int64.maxValue.toInt = 9223372036854775807 := by decide
  unfold clampInt64
  split
  · omega
  · split
    · omega
    · rw [Int64.toInt_ofInt_of_le (by omega) (by omega)]
      omega

/-- Whether 64 bits hold an integer. -/
def FitsInt64 (z : Int) : Prop := Int64.minValue.toInt ≤ z ∧ z ≤ Int64.maxValue.toInt

instance (z : Int) : Decidable (FitsInt64 z) := inferInstanceAs (Decidable (_ ∧ _))

lemma clampInt64_of_fits {z : Int} (h : FitsInt64 z) : clampInt64 z = Int64.ofInt z := by
  obtain ⟨hlow, hhigh⟩ := h
  rw [clampInt64, if_neg (by omega), if_neg (by omega)]

lemma toInt_ofInt_of_fits {z : Int} (h : FitsInt64 z) : (Int64.ofInt z).toInt = z := by
  rw [← clampInt64_of_fits h, toInt_clampInt64]
  unfold FitsInt64 at h
  omega

lemma clampInt64_of_le {z : Int} (h : z ≤ Int64.minValue.toInt) :
    clampInt64 z = Int64.minValue := by
  have hrange : Int64.minValue.toInt ≤ Int64.maxValue.toInt := by decide
  rw [← Int64.toInt_inj, toInt_clampInt64]
  omega

lemma clampInt64_of_ge {z : Int} (h : Int64.maxValue.toInt ≤ z) :
    clampInt64 z = Int64.maxValue := by
  have hrange : Int64.minValue.toInt ≤ Int64.maxValue.toInt := by decide
  rw [← Int64.toInt_inj, toInt_clampInt64]
  omega

lemma clampInt64_toInt (i : Int64) : clampInt64 i.toInt = i := by
  have hlow : Int64.minValue.toInt ≤ i.toInt := i.minValue_le_toInt
  have hhigh : i.toInt ≤ Int64.maxValue.toInt := i.toInt_le
  rw [← Int64.toInt_inj, toInt_clampInt64]
  omega

/-! ### Digits read alone -/

namespace Numeral

/-- The texts with which a numeral made of digits goes on: a digit, a point, or the mark of an
exponent with an optional sign and a digit. -/
def continuations : Language Char :=
  digit + {['.']} + exponentMarks * optionalSign * digit

/-- Whether digits before a text are read together with more of it. -/
def Continues (rest : List Char) : Prop := ∃ p, p <+: rest ∧ p ∈ continuations

variable {ds rest : List Char}

lemma continues_iff : Continues rest ↔
    (rest.head?.any fun c => c.isDigit || c == '.') ∨ (Exponent.leading? rest).isSome := by
  constructor
  · rintro ⟨p, ⟨tail, rfl⟩, (⟨c, hc, rfl⟩ | rfl) | hexponent⟩
    · exact .inl (by simp [hc])
    · exact .inl rfl
    · obtain ⟨_, hmarked, _, ⟨d, hd, rfl⟩, rfl⟩ := Language.mem_mul.1 hexponent
      obtain ⟨_, hmark, _, hsign, rfl⟩ := Language.mem_mul.1 hmarked
      obtain ⟨s, rfl⟩ := Sign.mem_optionalSign.1 hsign
      obtain ⟨mark, hwell, rfl⟩ := Exponent.mem_exponentMarks.1 hmark
      have hread := Exponent.leading?_text_append
        (⟨hwell, by simp, by simpa using hd⟩ : Exponent.IsWellFormed ⟨mark, s, [d]⟩) tail
      have htext : Exponent.text ⟨mark, s, [d]⟩ = [mark] ++ Sign.text s ++ [d] := by
        simp [Exponent.text]
      rw [← htext, hread]
      exact .inr rfl
  · rintro (hhead | hexponent)
    · cases rest with
      | nil => simp at hhead
      | cons c tail =>
        have hc : c.isDigit ∨ c = '.' := by simpa using hhead
        rcases hc with hc | rfl
        · exact ⟨[c], ⟨tail, rfl⟩, .inl (.inl ⟨c, hc, rfl⟩)⟩
        · exact ⟨['.'], ⟨tail, rfl⟩, .inl (.inr rfl)⟩
    · obtain ⟨e, he⟩ := Option.isSome_iff_exists.1 hexponent
      obtain ⟨hwell, tail, rfl⟩ := Exponent.isWellFormed_of_leading? he
      obtain ⟨d, digits, hd, hdigits⟩ := hwell.digits.exists_cons tail
      have hsign : Sign.text e.sign ∈ optionalSign := Sign.mem_optionalSign.2 ⟨_, rfl⟩
      have hmark : [e.mark] ∈ exponentMarks := Exponent.mem_exponentMarks.2 ⟨_, hwell.mark, rfl⟩
      refine ⟨[e.mark] ++ Sign.text e.sign ++ [d], ⟨digits, ?_⟩, .inr ?_⟩
      · simp [Exponent.text, hdigits]
      · exact Language.append_mem_mul (Language.append_mem_mul hmark hsign) ⟨d, hd, rfl⟩

instance : DecidablePred Continues := fun _ => decidable_of_iff _ continues_iff.symm

/-- Digits are read alone before a text that they do not go on with. -/
lemma extend_of_not_continues (sign : Option Sign) (ds : List Char) (h : ¬ Continues rest) :
    extend ⟨sign, ds, none, none⟩ rest = ⟨sign, ds, none, none⟩ := by
  obtain ⟨hhead, hexponent⟩ := not_or.1 (continues_iff.not.1 h)
  have hfraction : leadingFraction true rest = (none, rest) := by
    unfold leadingFraction
    split
    · exact absurd rfl hhead
    · rfl
  have htake : rest.takeWhile Char.isDigit = [] ∧ rest.dropWhile Char.isDigit = rest := by
    cases rest with
    | nil => exact ⟨rfl, rfl⟩
    | cons c tail =>
      have hc : c.isDigit = false := by simp_all
      simp [hc]
  simp [extend, htake, hfraction, Option.not_isSome_iff_eq_none.1 hexponent]

lemma ofText?_digits {blanks : List Char} (sign : Option Sign)
    (hblanks : ∀ c ∈ blanks, Text.isBlank c) (hds : IsDigits ds) (hrest : ¬ Continues rest) :
    ofText? (String.ofList (blanks ++ (Sign.text sign ++ ds) ++ rest)) =
      some ⟨sign, ds, none, none⟩ := by
  have hwell : IsWellFormed ⟨sign, ds, none, none⟩ := ⟨⟨hds.2, by simp, .inl hds.1⟩, by simp⟩
  have htext : text ⟨sign, ds, none, none⟩ = Sign.text sign ++ ds := by simp [text]
  rw [← htext, ofText?_text hwell hblanks, extend_of_not_continues sign ds hrest]

end Numeral

/-! ### The integer of a text -/

lemma natOfDigits_eq (ds : List Char) : natOfDigits ds = Nat.ofDigitChars 10 ds 0 :=
  Nat.ofDigitChars_eq_foldl.symm

variable {blanks ds rest : List Char}

/-- The integer that digits with a sign denote. -/
def signedDigits (sign : Option Sign) (ds : List Char) : Int :=
  (if sign = some .minus then -1 else 1) * Nat.ofDigitChars 10 ds 0

lemma intOfText_digits (sign : Option Sign) (hblanks : ∀ c ∈ blanks, Text.isBlank c)
    (hds : IsDigits ds) (hrest : ¬ Numeral.Continues rest) :
    intOfText (String.ofList (blanks ++ (Sign.text sign ++ ds) ++ rest)) =
      clampInt64 (signedDigits sign ds) := by
  have hvalue : Numeral.toInt ⟨sign, ds, none, none⟩ = signedDigits sign ds := by
    simp [Numeral.toInt, Numeral.isNegative, Numeral.mantissa, natOfDigits_eq, signedDigits]
  simp only [intOfText, Numeral.ofText?_digits sign hblanks hds hrest, Numeral.isIntegral,
    Option.isNone_none, Bool.and_self, if_true, hvalue]

/-- The decimal text of an integer is its sign, if it is negative, and digits. -/
lemma exists_signedDigits (z : Int) : ∃ (sign : Option Sign) (ds : List Char), IsDigits ds ∧
    (toString z).toList = Sign.text sign ++ ds ∧ signedDigits sign ds = z := by
  rw [Int.toString_eq_repr, Int.repr_eq_if]
  split
  · refine ⟨none, Nat.toDigits 10 z.toNat, isDigits_toDigits _, by simp [Sign.text], ?_⟩
    simp [signedDigits]
    omega
  · refine ⟨some .minus, Nat.toDigits 10 (-z).toNat, isDigits_toDigits _, ?_, ?_⟩
    · simp [Sign.text, Sign.char]
    · simp [signedDigits]
      omega

/-- The integer placeholder reads an integral text exactly and clamps it to the range of 64 bits;
so it writes the decimal text of a 64-bit integer as it writes that integer. -/
theorem coerceInt_integralText (sign : Option Sign) (hblanks : ∀ c ∈ blanks, Text.isBlank c)
    (hds : IsDigits ds) (hrest : ¬ Numeral.Continues rest) :
    (∃ i : Int64, Value.coerceInt
        (.string (String.ofList (blanks ++ (Sign.text sign ++ ds) ++ rest))) = .ok (.int i) ∧
      i.toInt = max Int64.minValue.toInt (min (signedDigits sign ds) Int64.maxValue.toInt)) ∧
    ∀ i : Int64, Placeholder.int.render
        (.string (String.ofList (blanks ++ (toString i.toInt).toList ++ rest))) =
      Placeholder.int.render (.int i) := by
  constructor
  · refine ⟨clampInt64 (signedDigits sign ds), ?_, toInt_clampInt64 _⟩
    rw [Value.coerceInt, intOfText_digits sign hblanks hds hrest]
  · intro i
    obtain ⟨s, digits, hdigits, htext, hvalue⟩ := exists_signedDigits i.toInt
    have hint := intOfText_digits s hblanks hdigits hrest
    rw [hvalue, clampInt64_toInt] at hint
    rw [htext, Placeholder.render, Value.coerceInt, hint]
    rfl

/-- Blanks, leading zeros and a mark without an exponent do not matter, and the range ends where
64 bits do. -/
theorem coerceInt_belowRange :
    (∃ i : Int64, Value.coerceInt (.string "\t-0009223372036854775809e-") = .ok (.int i) ∧
      i.toInt = -9223372036854775808) ∧
    Placeholder.int.render (.string "\t9223372036854775807e-") =
      Placeholder.int.render (.int Int64.maxValue) := by
  have hblanks : ∀ c ∈ ['\t'], Text.isBlank c := List.all_eq_true.1 rfl
  have hdigits : ∀ c ∈ "0009223372036854775809".toList, c.isDigit := List.all_eq_true.1 rfl
  obtain ⟨hread, hrender⟩ := @coerceInt_integralText ['\t'] "0009223372036854775809".toList
    ['e', '-'] (some .minus) hblanks ⟨by decide, hdigits⟩ (by decide)
  exact ⟨hread, hrender Int64.maxValue⟩

end QueryTemplate
