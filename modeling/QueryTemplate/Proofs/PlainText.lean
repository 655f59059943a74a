import QueryTemplate.Proofs.SinglePlaceholders
import QueryTemplate.Proofs.Readers
import QueryTemplate.Proofs.ScaledText
import QueryTemplate.Proofs.ShortestDecimals

/-!
# Numbers read back from their text

The text of a finite double is a numeral of its own: positional digits with an optional fraction,
and a minus also for the negative zero. This numeral denotes the shortest decimal of the double, so
it is read as the double and written again as the same text.
-/

namespace QueryTemplate

open scoped Computability

/-! ### Numerals without an exponent -/

namespace Numeral

/-- Digits with an optional minus and an optional fraction: `-? digits+ (. digits+)?`. -/
def plainWords : Language Char :=
  (1 + {['-']}) * (digit * digit∗) * (1 + {['.']} * (digit * digit∗))

structure IsPlain (n : Numeral) : Prop where
  sign : n.sign = none ∨ n.sign = some .minus
  whole : IsDigits n.whole
  fraction : ∀ ds, n.fraction = some ds → IsDigits ds
  exponent : n.exponent = none

variable {n : Numeral}

lemma IsPlain.isWellFormed (h : n.IsPlain) : n.IsWellFormed where
  whole := h.whole.2
  fraction ds hds := (h.fraction ds hds).2
  nonempty := .inl h.whole.1
  exponent e he := by
    rw [h.exponent] at he
    cases he

lemma IsPlain.text_mem (h : n.IsPlain) : n.text ∈ plainWords := by
  obtain ⟨sign, whole, fraction, exponent⟩ := n
  obtain rfl : exponent = none := h.exponent
  have hsign : Sign.text sign ∈ (1 + {['-']} : Language Char) := by
    rcases h.sign with hnone | hminus
    · obtain rfl : sign = none := hnone
      exact .inl rfl
    · obtain rfl : sign = some .minus := hminus
      exact .inr rfl
  have hfraction : (fraction.map ('.' :: ·)).getD [] ∈
      (1 + {['.']} * (digit * digit∗) : Language Char) := by
    cases fraction with
    | none => exact .inl rfl
    | some ds =>
      have hpoint : ['.'] ∈ ({['.']} : Language Char) := rfl
      exact .inr (Language.append_mem_mul hpoint (mem_digits.2 (h.fraction ds rfl)))
  have hwhole := Language.append_mem_mul hsign (mem_digits.2 h.whole)
  have hword := Language.append_mem_mul hwhole hfraction
  have htext : Sign.text sign ++ whole ++ (fraction.map ('.' :: ·)).getD [] =
      text ⟨sign, whole, fraction, none⟩ := by simp [text]
  rw [htext] at hword
  exact hword

end Numeral

/-! ### The numeral of a decimal -/

namespace Decimal

lemma ofDigitChars_text (d : Decimal) : Nat.ofDigitChars 10 d.text 0 = d.digits :=
  Nat.ofDigitChars_ten_toDigits

lemma isDigits_text (d : Decimal) : IsDigits d.text := isDigits_toDigits d.digits

lemma isDigit_of_mem_zeros {c : Char} {count : Nat} (h : c ∈ List.replicate count '0') :
    c.isDigit := by
  rw [List.eq_of_mem_replicate h]
  rfl

/-- Positional notation has zeros behind the digits, or it has digits on both sides of a point that
together are those of the decimal. -/
lemma positional_cases (d : Decimal) :
    (∃ count : Nat, d.exponent = count ∧
      d.positional [] = d.text ++ List.replicate count '0') ∨
    ∃ whole fraction, IsDigits whole ∧ IsDigits fraction ∧
      Nat.ofDigitChars 10 (whole ++ fraction) 0 = d.digits ∧
      d.exponent = -(fraction.length : Int) ∧ d.positional [] = whole ++ '.' :: fraction := by
  have hdigits := d.isDigits_text
  unfold positional
  split
  · rename_i hnonneg
    exact .inl ⟨_, (Int.toNat_of_nonneg hnonneg).symm, List.append_nil _⟩
  · rename_i hneg
    dsimp only
    right
    split
    · rename_i hplaces
      refine ⟨_, _, ⟨?_, fun c hc => hdigits.2 c (List.mem_of_mem_take hc)⟩,
        ⟨?_, fun c hc => hdigits.2 c (List.mem_of_mem_drop hc)⟩, ?_, ?_, rfl⟩
      · apply List.ne_nil_of_length_pos
        rw [List.length_take]
        omega
      · apply List.ne_nil_of_length_pos
        rw [List.length_drop]
        omega
      · rw [List.take_append_drop, ofDigitChars_text]
      · rw [List.length_drop]
        omega
    · rename_i hplaces
      refine ⟨['0'], _, ⟨by simp, by simp [Char.isDigit]⟩,
        ⟨by simp [hdigits.1], fun c hc => ?_⟩, ?_, ?_, rfl⟩
      · exact (List.mem_append.1 hc).elim isDigit_of_mem_zeros (hdigits.2 c)
      · have hzero : Nat.ofDigitChars 10 ['0'] 0 = 0 := rfl
        rw [Nat.ofDigitChars_append, Nat.ofDigitChars_append, hzero,
          Nat.ofDigitChars_replicate_zero, mul_zero, ofDigitChars_text]
      · rw [List.length_append, List.length_replicate]
        omega

/-- Positional notation is a numeral, which denotes the same number as the decimal. -/
lemma exists_numeral {sign : Option Sign} (hsign : sign = none ∨ sign = some .minus)
    (d : Decimal) : ∃ n : Numeral, n.IsPlain ∧ n.sign = sign ∧
      n.text = Sign.text sign ++ d.positional [] ∧ (n.mantissa : ℚ) * 10 ^ n.scale = d.value := by
  have hdigits := d.isDigits_text
  rcases d.positional_cases with ⟨count, he, htext⟩ |
    ⟨whole, fraction, hwhole, hfraction, hvalue, he, htext⟩
  · refine ⟨⟨sign, d.text ++ List.replicate count '0', none, none⟩,
      ⟨hsign, ⟨by simp [hdigits.1], fun c hc => ?_⟩, by simp, rfl⟩, rfl,
      by simp [Numeral.text, htext], ?_⟩
    · exact (List.mem_append.1 hc).elim (hdigits.2 c) isDigit_of_mem_zeros
    · have hmantissa : Nat.ofDigitChars 10 (d.text ++ List.replicate count '0') 0 =
          10 ^ count * d.digits := by
        rw [Nat.ofDigitChars_append, ofDigitChars_text, Nat.ofDigitChars_replicate_zero]
      simp [Numeral.mantissa, Numeral.scale, natOfDigits_eq, hmantissa, value, he, mul_comm]
  · refine ⟨⟨sign, whole, some fraction, none⟩,
      ⟨hsign, hwhole, fun ds hds => Option.some.inj hds ▸ hfraction, rfl⟩, rfl,
      by simp [Numeral.text, htext], ?_⟩
    simp [Numeral.mantissa, Numeral.scale, natOfDigits_eq, hvalue, value, he]

end Decimal

/-! ### The numeral of a double -/

namespace Double

variable {x y : Double}

/-- The text of a finite double is a numeral, which denotes its shortest decimal with its sign and
is read as the double. -/
lemma exists_numeral (hx : x.isFinite = true) : ∃ n : Numeral, n.IsPlain ∧
    n.text = x.plainText ∧ n.value = signum x.negative * (x.shortest .up).value ∧
      n.toDouble = x := by
  obtain ⟨sign, hsign, htext, hnegative⟩ : ∃ sign : Option Sign,
      (sign = none ∨ sign = some .minus) ∧ Sign.text sign = x.signText ∧
        (sign == some .minus) = x.negative := by
    unfold signText
    cases x.negative with
    | false => exact ⟨none, .inl rfl, rfl, rfl⟩
    | true => exact ⟨some .minus, .inr rfl, rfl, rfl⟩
  obtain ⟨n, hplain, rfl, hn, hvalue⟩ := (x.shortest .up).exists_numeral hsign
  refine ⟨n, hplain, ?_, ?_, ?_⟩
  · rw [hn, htext, plainText]
  · rw [Numeral.value_eq, Numeral.isNegative, hnegative, hvalue]
  · have hreads := readsBack_iff.1 (isShortest_shortest .up hx).readsBack
    rw [← hvalue] at hreads
    rw [Numeral.toDouble, Numeral.isNegative, hnegative]
    exact ofDecimal_eq_iff.2 hreads

/-- Different finite doubles have different texts. -/
lemma eq_of_plainText_eq (hx : x.isFinite = true) (hy : y.isFinite = true)
    (h : x.plainText = y.plainText) : x = y := by
  obtain ⟨n, hn, hntext, -, hnx⟩ := exists_numeral hx
  obtain ⟨m, hm, hmtext, -, hmy⟩ := exists_numeral hy
  have hread := hn.isWellFormed.ofText?_self
  rw [hntext, h, ← hmtext, hm.isWellFormed.ofText?_self] at hread
  rw [← hnx, ← hmy, Option.some.inj hread]

end Double

/-! ### Written and read again -/

/-- The text that is written for a finite double has no exponent, and it is a numeral as a whole,
which denotes a shortest decimal of the double. So the reader takes it to the same double, with the
same sign of a zero, and the placeholder for numbers writes the text again. -/
theorem write_plainText {x : Double} (hx : x.isFinite = true) (e : Escaper) :
    ∃ (t : String) (n : Numeral) (d : Decimal),
      Placeholder.generic.write e (.float x) = .ok t ∧
      t.toList ∈ Numeral.plainWords ∧
      Numeral.ofText? t = some n ∧ n.text = t.toList ∧
      x.IsShortest d ∧ n.value = Double.signum x.negative * d.value ∧
      Double.read? t.toList = some x ∧
      Value.coerceFloat (.string t) = .ok (.float x) ∧
      Placeholder.float.write e (.string t) = .ok t ∧
      ∀ skip, Template.render e "?" [.float x] skip = .ok t ∧
        Template.render e "?f" [.string t] skip = .ok t := by
  obtain ⟨n, hplain, htext, hvalue, hdouble⟩ := Double.exists_numeral hx
  have hread := hplain.isWellFormed.ofText?_self
  have hwrite : Placeholder.generic.write e (.float x) = .ok (String.ofList n.text) := by
    rw [htext]
    exact Value.write_scalarStep ⟨rfl, fun y hy => by cases hy; exact hx⟩
  have hcoerce : Value.coerceFloat (.string (String.ofList n.text)) = .ok (.float x) := by
    rw [Value.coerceFloat, doubleOfText, hread, ← hdouble]
  have hagain : Placeholder.float.write e (.string (String.ofList n.text)) =
      .ok (String.ofList n.text) := by
    rw [Placeholder.write_float_of_isFinite hcoerce hx, htext]
  refine ⟨String.ofList n.text, n, x.shortest .up, hwrite, ?_, hread, ?_,
    Double.isShortest_shortest .up hx, hvalue, ?_, hcoerce, hagain, fun skip => ⟨?_, ?_⟩⟩
  · rw [String.toList_ofList]
    exact hplain.text_mem
  · rw [String.toList_ofList]
  · rw [String.toList_ofList, Double.read?_text hplain.isWellFormed, hdouble]
  · have hrender := Placeholder.render_text e .generic (.float x) skip
    rw [hwrite] at hrender
    exact hrender
  · have hrender := Placeholder.render_text e .float (.string (String.ofList n.text)) skip
    rw [hagain] at hrender
    exact hrender

/-- The negative zero, and the double next to `10 ^ 23`, which is `99999999999999991611392`. -/
theorem write_plainText_zeroAndPower :
    (Double.zero true).isFinite = true ∧
    Value.coerceFloat (.string "-0") = .ok (.float (.zero true)) ∧
    Placeholder.float.write .mysql (.string "-0") = .ok "-0" ∧
    (Double.ofBits 0x44B52D02C7E14AF6).isFinite = true ∧
    Value.coerceFloat (.string "100000000000000000000000") =
      .ok (.float (.ofBits 0x44B52D02C7E14AF6)) ∧
    Placeholder.float.write .mysql (.string "100000000000000000000000") =
      .ok "100000000000000000000000" := by
  have hzero : (Double.zero true).isFinite = true := by decide
  have hpower : (Double.ofBits 0x44B52D02C7E14AF6).isFinite = true := by decide
  have hzeroText : Placeholder.generic.write .mysql (.float (.zero true)) = .ok "-0" := by
    decide +kernel
  have hpowerText : Placeholder.generic.write .mysql (.float (.ofBits 0x44B52D02C7E14AF6)) =
      .ok "100000000000000000000000" := by decide +kernel
  obtain ⟨t, -, -, hwrite, -, -, -, -, -, -, hread, hagain, -⟩ := write_plainText hzero .mysql
  obtain ⟨t', -, -, hwrite', -, -, -, -, -, -, hread', hagain', -⟩ :=
    write_plainText hpower .mysql
  obtain rfl : "-0" = t := Except.ok.inj (hzeroText.symm.trans hwrite)
  obtain rfl : "100000000000000000000000" = t' := Except.ok.inj (hpowerText.symm.trans hwrite')
  exact ⟨hzero, hread, hagain, hpower, hread', hagain'⟩

end QueryTemplate
