import QueryTemplate.Proofs.IntegerText

/-!
# Numbers by way of readers

A coercion can be made of two steps: find the longest numeral of a text, then give its text to a
reader of 64-bit integers or of doubles, with a value to fall back on where the reader fails. The
readers here follow the documented ones: integers are accumulated digit by digit with a check of
the range, doubles are read from the words of their grammar. Since the numeral found is the
longest word of its own grammar, the readers never fail on it but for the range of the integers.
-/

namespace QueryTemplate

open scoped Computability

/-! ### The reader of integers -/

/-- The reasons for which a text is no 64-bit integer. -/
inductive IntFault where
  | empty
  | invalidDigit
  | positiveOverflow
  | negativeOverflow
  deriving DecidableEq

namespace IntFault

def overflow (negative : Bool) : IntFault := if negative then negativeOverflow else positiveOverflow

def IsOverflow (fault : IntFault) : Prop := fault = positiveOverflow ∨ fault = negativeOverflow

lemma isOverflow_overflow (negative : Bool) : (overflow negative).IsOverflow := by
  cases negative
  · exact .inl rfl
  · exact .inr rfl

end IntFault

def withSign (negative : Bool) (n : Nat) : Int := if negative then -(n : Int) else n

/-- The total after one digit more; negative numbers are counted downwards. -/
def readDigit (negative : Bool) (total : Int) (c : Char) : Except IntFault Int :=
  if c.isDigit then
    let next := 10 * total + withSign negative (c.toNat - '0'.toNat)
    if FitsInt64 next then .ok next else .error (IntFault.overflow negative)
  else .error .invalidDigit

/-- Reads a text that is an optional sign and digits. -/
def readInt64 (cs : List Char) : Except IntFault Int64 :=
  if cs = [] then .error .empty
  else if cs = ['+'] ∨ cs = ['-'] then .error .invalidDigit
  else ((Sign.leading cs).2.foldlM (readDigit ((Sign.leading cs).1 == some .minus)) 0).map Int64.ofInt

variable {ds cs : List Char}

lemma le_ofDigitChars (ds : List Char) (m : Nat) : m ≤ Nat.ofDigitChars 10 ds m := by
  induction ds generalizing m with
  | nil => simp
  | cons c ds ih =>
    rw [Nat.ofDigitChars_cons]
    have h := ih (10 * m + (c.toNat - '0'.toNat))
    omega

lemma FitsInt64.of_le {negative : Bool} {m n : Nat} (h : FitsInt64 (withSign negative n))
    (hle : m ≤ n) : FitsInt64 (withSign negative m) := by
  have hmin : Int64.minValue.toInt = -9223372036854775808 := by decide
  have hmax : Int64.maxValue.toInt = 9223372036854775807 := by decide
  unfold FitsInt64 withSign at *
  split at h <;> simp_all <;> omega

/-- Digits are read to the number that they denote, or overflow on the side of the sign. -/
lemma foldlM_readDigit (negative : Bool) (hds : ∀ c ∈ ds, c.isDigit) (m : Nat)
    (hm : FitsInt64 (withSign negative m)) :
    ds.foldlM (readDigit negative) (withSign negative m) =
      if FitsInt64 (withSign negative (Nat.ofDigitChars 10 ds m)) then
        .ok (withSign negative (Nat.ofDigitChars 10 ds m))
      else .error (IntFault.overflow negative) := by
  induction ds generalizing m with
  | nil => simp [hm, pure, Except.pure]
  | cons c ds ih =>
    have hc : c.isDigit := hds c List.mem_cons_self
    have hnext : 10 * withSign negative m + withSign negative (c.toNat - '0'.toNat) =
        withSign negative (10 * m + (c.toNat - '0'.toNat)) := by
      unfold withSign
      split <;> omega
    rw [List.foldlM_cons, Nat.ofDigitChars_cons, readDigit, if_pos hc]
    simp only [hnext]
    by_cases hfits : FitsInt64 (withSign negative (10 * m + (c.toNat - '0'.toNat)))
    · rw [if_pos hfits]
      exact ih (fun d hd => hds d (List.mem_cons_of_mem c hd)) _ hfits
    · have hend : ¬ FitsInt64 (withSign negative
          (Nat.ofDigitChars 10 ds (10 * m + (c.toNat - '0'.toNat)))) :=
        fun h => hfits (h.of_le (le_ofDigitChars ds _))
      rw [if_neg hfits, if_neg hend]
      rfl

lemma withSign_zero (negative : Bool) : withSign negative 0 = 0 := by
  cases negative <;> rfl

lemma fitsInt64_zero (negative : Bool) : FitsInt64 (withSign negative 0) := by
  cases negative <;> decide

namespace Numeral

lemma toInt_eq (n : Numeral) : n.toInt = withSign n.isNegative n.mantissa := rfl

/-- An integral numeral is read as the integer that it denotes, unless that overflows. -/
lemma IsWellFormed.readInt64_text {n : Numeral} (h : n.IsWellFormed) (hn : n.isIntegral) :
    readInt64 n.text =
      if FitsInt64 n.toInt then .ok (Int64.ofInt n.toInt)
      else .error (IntFault.overflow n.isNegative) := by
  have hempty : n.text ≠ [] := h.text_ne_nil
  have hlone : ¬ (n.text = ['+'] ∨ n.text = ['-']) := by
    obtain ⟨c, hc, hdigit⟩ := h.exists_digit
    rintro (he | he) <;> rw [he, List.mem_singleton] at hc <;> rw [hc] at hdigit <;> cases hdigit
  rw [readInt64, if_neg hempty, if_neg hlone]
  obtain ⟨sign, whole, fraction, exponent⟩ := n
  obtain ⟨rfl, rfl⟩ : fraction = none ∧ exponent = none := by simpa [isIntegral] using hn
  have hdigits : IsDigits whole := ⟨by simpa using h.nonempty, h.whole⟩
  have htext : text ⟨sign, whole, none, none⟩ = Sign.text sign ++ (whole ++ []) := by simp [text]
  have hvalue : toInt ⟨sign, whole, none, none⟩ =
      withSign (sign == some .minus) (natOfDigits whole) := by
    rw [toInt_eq, Numeral.mantissa, Option.getD_none, List.append_nil]
    rfl
  have hread := foldlM_readDigit (sign == some .minus) hdigits.2 0 (fitsInt64_zero _)
  rw [withSign_zero, ← natOfDigits_eq] at hread
  rw [htext, Sign.leading_text_digits sign hdigits [], List.append_nil, hread, hvalue]
  split <;> rfl

end Numeral

/-! ### The reader of doubles -/

namespace Double

/-- The names of the numbers that are not finite, in either case of their letters. -/
def names : Language Char :=
  {w | w.map Char.toLower ∈ ["inf".toList, "infinity".toList, "nan".toList]}

def numbers : Language Char :=
  Numeral.digit * Numeral.digit∗ + Numeral.digit * Numeral.digit∗ * {['.']} * Numeral.digit∗ +
    Numeral.digit∗ * {['.']} * (Numeral.digit * Numeral.digit∗)

/-- The words of doubles: `[+-]? (inf | infinity | nan | number)`, where a number is
`(digits+ | digits+ '.' digits* | digits* '.' digits+) ([eE] [+-]? digits+)?`. -/
def words : Language Char :=
  Numeral.optionalSign * (names + numbers * (1 + Numeral.exponents))

/-- Reads a text that is a word of doubles, as the nearest double if it is a number. -/
def read? (cs : List Char) : Option Double :=
  let negative := (Sign.leading cs).1 == some .minus
  let name := (Sign.leading cs).2.map Char.toLower
  if name = "inf".toList ∨ name = "infinity".toList then some (infinity negative)
  else if name = "nan".toList then some (nan negative)
  else ((Numeral.leading? cs).filter (·.text = cs)).map Numeral.toDouble

lemma numbers_eq : numbers = Numeral.mantissas := by
  ext cs
  rw [Numeral.mem_mantissas]
  constructor
  · rintro ((h | h) | h)
    · have hds := mem_digits.1 h
      exact ⟨cs, none, ⟨hds.2, by simp, .inl hds.1⟩, by simp⟩
    · obtain ⟨_, hpointed, fs, hfs, rfl⟩ := Language.mem_mul.1 h
      obtain ⟨ds, hds, _, rfl, rfl⟩ := Language.mem_mul.1 hpointed
      rw [mem_digits] at hds
      rw [mem_digit_star] at hfs
      exact ⟨ds, some fs, ⟨hds.2, by simpa using hfs, .inl hds.1⟩, by simp⟩
    · obtain ⟨_, hpointed, fs, hfs, rfl⟩ := Language.mem_mul.1 h
      obtain ⟨ds, hds, _, rfl, rfl⟩ := Language.mem_mul.1 hpointed
      rw [mem_digit_star] at hds
      rw [mem_digits] at hfs
      exact ⟨ds, some fs, ⟨hds, by simpa using hfs.2, .inr ⟨fs, rfl, hfs.1⟩⟩, by simp⟩
  · rintro ⟨ds, fraction, h, rfl⟩
    have hpoint : ['.'] ∈ ({['.']} : Language Char) := rfl
    cases fraction with
    | none =>
      have hdigits : IsDigits ds := ⟨by simpa using h.nonempty, h.whole⟩
      rw [Option.map_none, Option.getD_none, List.append_nil]
      exact .inl (.inl (mem_digits.2 hdigits))
    | some fs =>
      have hfs : ∀ c ∈ fs, c.isDigit := h.fraction fs rfl
      have hword : ds ++ ['.'] ++ fs = ds ++ '.' :: fs := by simp
      rw [Option.map_some, Option.getD_some, ← hword]
      by_cases hempty : ds = []
      · have hdigits : IsDigits fs := ⟨by simpa [hempty] using h.nonempty, hfs⟩
        exact .inr (Language.append_mem_mul
          (Language.append_mem_mul (mem_digit_star.2 h.whole) hpoint) (mem_digits.2 hdigits))
      · exact .inl (.inr (Language.append_mem_mul
          (Language.append_mem_mul (mem_digits.2 ⟨hempty, h.whole⟩) hpoint)
          (mem_digit_star.2 hfs)))

lemma words_eq : words = Numeral.optionalSign * names + Numeral.words := by
  rw [words, numbers_eq, mul_add, ← mul_assoc, Numeral.words]

lemma mem_names : cs ∈ names ↔ cs.map Char.toLower = "inf".toList ∨
    cs.map Char.toLower = "infinity".toList ∨ cs.map Char.toLower = "nan".toList := by
  have h : cs ∈ names ↔
    cs.map Char.toLower ∈ ["inf".toList, "infinity".toList, "nan".toList] := Iff.rfl
  simpa using h

lemma leading_name (sign : Option Sign) (h : cs ∈ names) :
    Sign.leading (Sign.text sign ++ cs) = (sign, cs) := by
  apply Sign.leading_text_append
  intro c hc
  obtain ⟨tail, rfl⟩ := List.head?_eq_some_iff.1 hc
  have hnames := mem_names.1 h
  constructor
  · rintro rfl
    simp at hnames
  · rintro rfl
    simp at hnames

lemma read?_of_name (h : (Sign.leading cs).2 ∈ names) : (read? cs).isSome := by
  have hnames := mem_names.1 h
  unfold read?
  dsimp only
  split
  · rfl
  · rw [if_pos (by tauto)]
    rfl

lemma read?_of_not_name (h : (Sign.leading cs).2 ∉ names) :
    read? cs = ((Numeral.leading? cs).filter (·.text = cs)).map Numeral.toDouble := by
  have hnames := mem_names.not.1 h
  unfold read?
  dsimp only
  rw [if_neg (by tauto), if_neg (by tauto)]

/-- The reader accepts the words of doubles and nothing else. -/
lemma isSome_read?_iff : (read? cs).isSome ↔ cs ∈ words := by
  rw [words_eq]
  constructor
  · intro h
    by_cases hname : (Sign.leading cs).2 ∈ names
    · rw [← Sign.text_append_leading cs]
      exact .inl (Language.append_mem_mul (Sign.mem_optionalSign.2 ⟨_, rfl⟩) hname)
    · rw [read?_of_not_name hname, Option.isSome_map] at h
      obtain ⟨n, hn⟩ := Option.isSome_iff_exists.1 h
      obtain ⟨hread, htext⟩ := Option.filter_eq_some_iff.1 hn
      exact .inr (Numeral.mem_words.2
        ⟨n, (Numeral.isWellFormed_of_leading? hread).1, of_decide_eq_true htext⟩)
  · rintro (h | h)
    · obtain ⟨_, hsign, name, hname, rfl⟩ := Language.mem_mul.1 h
      obtain ⟨s, rfl⟩ := Sign.mem_optionalSign.1 hsign
      apply read?_of_name
      rw [leading_name s hname]
      exact hname
    · obtain ⟨n, hn, rfl⟩ := Numeral.mem_words.1 h
      by_cases hname : (Sign.leading n.text).2 ∈ names
      · exact read?_of_name hname
      · rw [read?_of_not_name hname, hn.leading?_text]
        simp

lemma toLower_ne_of_isDigit {c : Char} (h : c.isDigit) : c.toLower ≠ 'n' := by
  simp only [Char.isDigit, Bool.and_eq_true, decide_eq_true_eq] at h
  unfold Char.toLower
  split
  · rename_i hupper
    exact absurd (UInt32.le_trans hupper.1 h.2) (by decide)
  · rintro rfl
    exact absurd h.2 (by decide)

/-- No name of a number is a part of a numeral, since each of them has an `n`. -/
lemma not_mem_names {n : Numeral} (h : n.IsWellFormed) : (Sign.leading n.text).2 ∉ names := by
  intro hname
  have hletter : 'n' ∈ (Sign.leading n.text).2.map Char.toLower := by
    rcases mem_names.1 hname with h | h | h <;> rw [h] <;> decide
  obtain ⟨c, hc, hlower⟩ := List.mem_map.1 hletter
  have hmem : c ∈ n.text := by
    rw [← Sign.text_append_leading n.text]
    exact List.mem_append_right _ hc
  rcases h.mem_text_cases hmem with hdigit | (rfl | rfl) | ⟨rfl, -⟩ | ⟨rfl | rfl, -⟩
  · exact toLower_ne_of_isDigit hdigit hlower
  all_goals exact absurd hlower (by decide)

lemma read?_text {n : Numeral} (h : n.IsWellFormed) : read? n.text = some n.toDouble := by
  rw [read?_of_not_name (not_mem_names h), h.leading?_text]
  simp

end Double

/-! ### Coercion by way of the readers -/

/-- The integer of a text by way of the readers. Where the text of an integral numeral is not
read, its first character decides the side on which it overflows; where the reader of doubles
fails, the result is the given one. -/
def intByReaders (fallback : Int64) (s : String) : Int64 :=
  match Numeral.ofText? s with
  | none => 0
  | some n =>
    if n.isIntegral then
      match readInt64 n.text with
      | .ok i => i
      | .error _ => if n.text.head? = some '-' then Int64.minValue else Int64.maxValue
    else ((Double.read? n.text).map Double.toInt64Clamp).getD fallback

def doubleByReader (fallback : Double) (s : String) : Double :=
  match Numeral.ofText? s with
  | none => Double.zero false
  | some n => (Double.read? n.text).getD fallback

lemma clampInt64_of_not_fits {n : Numeral} (h : ¬ FitsInt64 n.toInt) :
    clampInt64 n.toInt = if n.isNegative then Int64.minValue else Int64.maxValue := by
  have hmin : Int64.minValue.toInt = -9223372036854775808 := by decide
  have hmax : Int64.maxValue.toInt = 9223372036854775807 := by decide
  unfold FitsInt64 at h
  rw [Numeral.toInt] at h ⊢
  by_cases hnegative : n.isNegative
  · rw [if_pos hnegative] at h ⊢
    rw [if_pos hnegative]
    exact clampInt64_of_le (by omega)
  · rw [if_neg hnegative] at h ⊢
    rw [if_neg hnegative]
    exact clampInt64_of_ge (by omega)

lemma Sign.leading_eq_minus : (leading cs).1 = some minus ↔ cs.head? = some '-' := by
  unfold leading
  split
  · simp
  · simp
  · rename_i hminus
    cases cs with
    | nil => simp
    | cons c cs => simpa using fun hc : c = '-' => hminus cs (by rw [hc])

lemma Numeral.IsWellFormed.head_text {n : Numeral} (h : n.IsWellFormed) :
    n.text.head? = some '-' ↔ n.isNegative := by
  have hsign : (Sign.leading n.text).1 = n.sign := by
    have hread := h.leading?_text
    simp only [Numeral.leading?] at hread
    split at hread
    · cases hread
    · exact congrArg Numeral.sign (Option.some.inj hread)
  rw [← Sign.leading_eq_minus, hsign, Numeral.isNegative, beq_iff_eq]

lemma intByReaders_eq (fallback : Int64) (s : String) : intByReaders fallback s = intOfText s := by
  unfold intByReaders intOfText
  cases hn : Numeral.ofText? s with
  | none => rfl
  | some n =>
    have hwell := (Numeral.isWellFormed_of_leading? hn).1
    dsimp only
    by_cases hintegral : n.isIntegral
    · rw [if_pos hintegral, if_pos hintegral, hwell.readInt64_text hintegral]
      by_cases hfits : FitsInt64 n.toInt
      · rw [if_pos hfits, clampInt64_of_fits hfits]
      · rw [if_neg hfits, clampInt64_of_not_fits hfits]
        simp only [hwell.head_text]
    · rw [if_neg hintegral, if_neg hintegral, Double.read?_text hwell]
      rfl

lemma doubleByReader_eq (fallback : Double) (s : String) :
    doubleByReader fallback s = doubleOfText s := by
  unfold doubleByReader doubleOfText
  cases hn : Numeral.ofText? s with
  | none => rfl
  | some n =>
    dsimp only
    rw [Double.read?_text (Numeral.isWellFormed_of_leading? hn).1]
    rfl

/-- The numeral of a text is the longest word of the grammar behind its leading blanks, cut at a
boundary between characters, and integral if it has neither a point nor an exponent. The readers
fail on it only where an integer overflows, so that they never fall back on another value. -/
theorem ofText?_longest (s : String) :
    (Numeral.ofText? s = none ↔ ∀ p, p <+: Text.trimLeft s.toList → p ∉ Numeral.words) ∧
    (∀ n, Numeral.ofText? s = some n →
      n.text <+: Text.trimLeft s.toList ∧ n.text ∈ Numeral.words ∧
      (∀ p, p <+: Text.trimLeft s.toList → p ∈ Numeral.words → p.length ≤ n.text.length) ∧
      Text.byteLength n.text = n.text.length ∧
      (String.Pos.Raw.mk (Text.byteLength n.text)).IsValid
        (String.ofList (Text.trimLeft s.toList)) ∧
      (n.isIntegral ↔ '.' ∉ n.text ∧ 'e' ∉ n.text ∧ 'E' ∉ n.text) ∧
      (n.isIntegral → ∀ fault, readInt64 n.text = .error fault → fault.IsOverflow) ∧
      n.text ∈ Double.words ∧ Double.read? n.text = some n.toDouble) ∧
    (∀ fallback, intByReaders fallback s = intOfText s) ∧
    ∀ fallback, doubleByReader fallback s = doubleOfText s := by
  refine ⟨Numeral.leading?_eq_none_iff, ?_, fun x => intByReaders_eq x s,
    fun x => doubleByReader_eq x s⟩
  intro n hn
  obtain ⟨hwell, hfront⟩ := Numeral.isWellFormed_of_leading? hn
  refine ⟨hfront, Numeral.mem_words.2 ⟨n, hwell, rfl⟩, ?_, hwell.byteLength_text,
    Numeral.isValid_end hfront, hwell.isIntegral_iff, ?_, ?_, Double.read?_text hwell⟩
  · intro p hp hword
    obtain ⟨m, hm, hlonger⟩ := Numeral.exists_leading?_of_isPrefix hp hword
    obtain rfl := Option.some.inj (hn.symm.trans hm)
    exact hlonger.length_le
  · intro hintegral fault hfault
    rw [hwell.readInt64_text hintegral] at hfault
    split at hfault
    · simp at hfault
    · rw [← Except.error.inj hfault]
      exact IntFault.isOverflow_overflow _
  · rw [← Double.isSome_read?_iff, Double.read?_text hwell]
    rfl

end QueryTemplate
