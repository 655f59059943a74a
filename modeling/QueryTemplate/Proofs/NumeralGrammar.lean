import Mathlib.Computability.Language
import Mathlib.Data.List.TakeWhile
import QueryTemplate.Numeral
import QueryTemplate.Text.Utf8

/-!
# The grammar of numerals

The numerals form a regular language: `[+-]? (digits+ ('.' digits*)? | '.' digits+)`, then
`([eE] [+-]? digits+)?`. The numeral read at the head of a text is the longest word of that
language there, and a text without such a word at its head has no numeral.
-/

namespace QueryTemplate

open scoped Computability

variable {cs ds rest : List Char}

/-- Decimal digits, at least one. -/
def IsDigits (ds : List Char) : Prop := ds ≠ [] ∧ ∀ c ∈ ds, c.isDigit

namespace Numeral

/-- The decimal digits, as words of one character. -/
def digit : Language Char := {w | ∃ c : Char, c.isDigit ∧ w = [c]}

def optionalSign : Language Char := 1 + ({['+']} + {['-']})

def mantissas : Language Char :=
  digit * digit∗ * (1 + {['.']} * digit∗) + {['.']} * (digit * digit∗)

def exponentMarks : Language Char := {['e']} + {['E']}

def exponents : Language Char := exponentMarks * optionalSign * (digit * digit∗)

def words : Language Char := optionalSign * mantissas * (1 + exponents)

end Numeral

/-! ### Words of the grammar and their parts -/

lemma mem_singleton_word {v w : List Char} : w ∈ ({v} : Language Char) ↔ w = v := Iff.rfl

lemma mem_digit_star : cs ∈ Numeral.digit∗ ↔ ∀ c ∈ cs, c.isDigit := by
  rw [Language.mem_kstar]
  constructor
  · rintro ⟨words, rfl, hwords⟩ c hc
    obtain ⟨w, hw, hcw⟩ := List.mem_flatten.1 hc
    obtain ⟨d, hd, rfl⟩ := hwords w hw
    rw [List.mem_singleton.1 hcw]
    exact hd
  · intro h
    refine ⟨cs.map ([·]), ?_, fun w hw => ?_⟩
    · rw [← List.flatMap_def, List.flatMap_singleton']
    · obtain ⟨c, hc, rfl⟩ := List.mem_map.1 hw
      exact ⟨c, h c hc, rfl⟩

lemma mem_digits : cs ∈ Numeral.digit * Numeral.digit∗ ↔ IsDigits cs := by
  rw [Language.mem_mul]
  constructor
  · rintro ⟨_, ⟨c, hc, rfl⟩, ds, hds, rfl⟩
    rw [mem_digit_star] at hds
    exact ⟨by simp, by simpa [hc] using hds⟩
  · rintro ⟨hne, hds⟩
    obtain ⟨c, ds, rfl⟩ := List.exists_cons_of_ne_nil hne
    have hsplit : c.isDigit ∧ ∀ d ∈ ds, d.isDigit := by simpa using hds
    exact ⟨[c], ⟨c, hsplit.1, rfl⟩, ds, mem_digit_star.2 hsplit.2, rfl⟩

lemma IsDigits.exists_cons (h : IsDigits ds) (rest : List Char) :
    ∃ (c : Char) (tail : List Char), c.isDigit ∧ ds ++ rest = c :: tail := by
  obtain ⟨c, ds, rfl⟩ := List.exists_cons_of_ne_nil h.1
  exact ⟨c, ds ++ rest, h.2 c (by simp), rfl⟩

lemma isDigits_toDigits (n : Nat) : IsDigits (Nat.toDigits 10 n) :=
  ⟨Nat.toDigits_ne_nil, fun _ hc => Nat.isDigit_of_mem_toDigits (by decide) (by decide) hc⟩

lemma utf8Size_of_isDigit {c : Char} (h : c.isDigit) : c.utf8Size = 1 := by
  simp only [Char.isDigit, Bool.and_eq_true, decide_eq_true_eq] at h
  have hascii : c.val ≤ 0x7F := UInt32.le_trans h.2 (by decide)
  simp [Char.utf8Size, hascii]

lemma isBlank_of_isDigit {c : Char} (h : c.isDigit) : Text.isBlank c = false := by
  simp only [Char.isDigit, Bool.and_eq_true, decide_eq_true_eq] at h
  have hlow : 48 ≤ c.toNat := UInt32.le_iff_toNat_le.1 h.1
  have hhigh : c.toNat ≤ 57 := UInt32.le_iff_toNat_le.1 h.2
  simp only [Text.isBlank, Bool.or_eq_false_iff, Bool.and_eq_false_iff, decide_eq_false_iff_not,
    beq_eq_false_iff_ne]
  omega

lemma isDigit_ne {c d : Char} (hc : c.isDigit) (hd : d.isDigit = false) : c ≠ d := by
  rintro rfl
  simp [hc] at hd

namespace Sign

lemma mem_optionalSign : cs ∈ Numeral.optionalSign ↔ ∃ sign, text sign = cs := by
  simp only [Numeral.optionalSign, Language.mem_add, Language.mem_one, mem_singleton_word]
  constructor
  · rintro (rfl | rfl | rfl)
    · exact ⟨none, rfl⟩
    · exact ⟨some plus, rfl⟩
    · exact ⟨some minus, rfl⟩
  · rintro ⟨_ | _ | _, rfl⟩
    · exact .inl rfl
    · exact .inr (.inl rfl)
    · exact .inr (.inr rfl)

lemma text_append_leading (cs : List Char) : text (leading cs).1 ++ (leading cs).2 = cs := by
  unfold leading
  split <;> rfl

/-- A sign is read off a text, unless what follows it can be taken for a sign. -/
lemma leading_text_append (sign : Option Sign) (h : ∀ c, cs.head? = some c → c ≠ '+' ∧ c ≠ '-') :
    leading (text sign ++ cs) = (sign, cs) := by
  cases sign with
  | some s => cases s <;> rfl
  | none =>
    cases cs with
    | nil => rfl
    | cons c cs =>
      obtain ⟨hplus, hminus⟩ := h c rfl
      unfold leading
      split <;> simp_all [text]

lemma leading_text_digits (sign : Option Sign) (hds : IsDigits ds) (rest : List Char) :
    leading (text sign ++ (ds ++ rest)) = (sign, ds ++ rest) := by
  apply leading_text_append
  intro c hc
  obtain ⟨d, tail, hd, he⟩ := hds.exists_cons rest
  rw [he] at hc
  obtain rfl := Option.some.inj hc
  exact ⟨isDigit_ne hd rfl, isDigit_ne hd rfl⟩

end Sign

/-! ### Exponents -/

namespace Exponent

structure IsWellFormed (e : Exponent) : Prop where
  mark : e.mark = 'e' ∨ e.mark = 'E'
  digits : IsDigits e.digits

lemma mem_exponentMarks :
    cs ∈ Numeral.exponentMarks ↔ ∃ mark : Char, (mark = 'e' ∨ mark = 'E') ∧ [mark] = cs := by
  constructor
  · rintro (rfl | rfl)
    · exact ⟨'e', .inl rfl, rfl⟩
    · exact ⟨'E', .inr rfl, rfl⟩
  · rintro ⟨_, rfl | rfl, rfl⟩
    · exact .inl rfl
    · exact .inr rfl

lemma mem_exponents : cs ∈ Numeral.exponents ↔ ∃ e : Exponent, e.IsWellFormed ∧ e.text = cs := by
  constructor
  · intro h
    obtain ⟨_, hmarked, ds, hds, rfl⟩ := Language.mem_mul.1 h
    obtain ⟨_, hword, _, hsign, rfl⟩ := Language.mem_mul.1 hmarked
    obtain ⟨mark, hmark, rfl⟩ := mem_exponentMarks.1 hword
    obtain ⟨s, rfl⟩ := Sign.mem_optionalSign.1 hsign
    exact ⟨⟨mark, s, ds⟩, ⟨hmark, mem_digits.1 hds⟩, by simp [text]⟩
  · rintro ⟨⟨mark, s, ds⟩, ⟨hmark, hds⟩, rfl⟩
    have hsign : Sign.text s ∈ Numeral.optionalSign := Sign.mem_optionalSign.2 ⟨s, rfl⟩
    have hmarked := Language.append_mem_mul (mem_exponentMarks.2 ⟨mark, hmark, rfl⟩) hsign
    have htext : ([mark] ++ Sign.text s) ++ ds = text ⟨mark, s, ds⟩ := by simp [text]
    rw [← htext]
    exact Language.append_mem_mul hmarked (mem_digits.2 hds)

lemma isWellFormed_of_leading? {e : Exponent} (h : leading? cs = some e) :
    e.IsWellFormed ∧ e.text <+: cs := by
  cases cs with
  | nil => simp [leading?] at h
  | cons mark cs =>
    simp only [leading?, List.isEmpty_iff] at h
    split at h
    · rename_i hmark
      split at h
      · simp at h
      · rename_i hne
        obtain rfl := Option.some.inj h
        refine ⟨⟨hmark, hne, fun c hc => List.mem_takeWhile_imp hc⟩, ?_⟩
        refine ⟨(Sign.leading cs).2.dropWhile Char.isDigit, ?_⟩
        simp [text, Sign.text_append_leading]
    · simp at h

lemma isPrefix_leading? (cs : List Char) : ((leading? cs).map text).getD [] <+: cs := by
  cases h : leading? cs with
  | none => exact List.nil_prefix
  | some e => exact (isWellFormed_of_leading? h).2

/-- The exponent that is read when further text follows an exponent: it takes the digits there. -/
lemma leading?_text_append {e : Exponent} (h : e.IsWellFormed) (rest : List Char) :
    leading? (e.text ++ rest) =
      some { e with digits := e.digits ++ rest.takeWhile Char.isDigit } := by
  have hsign := Sign.leading_text_digits e.sign h.digits rest
  have hdigits : (e.digits ++ rest).takeWhile Char.isDigit =
      e.digits ++ rest.takeWhile Char.isDigit := List.takeWhile_append_of_pos h.digits.2
  simp only [text, leading?, List.cons_append, List.append_assoc, if_pos h.mark, hsign, hdigits]
  simp [h.digits.1]

end Exponent

/-! ### Numerals -/

namespace Numeral

/-- The parts before the exponent are digits, and there is one. -/
structure IsMantissa (ws : List Char) (fs : Option (List Char)) : Prop where
  whole : ∀ c ∈ ws, c.isDigit
  fraction : ∀ ds, fs = some ds → ∀ c ∈ ds, c.isDigit
  nonempty : ws ≠ [] ∨ ∃ ds, fs = some ds ∧ ds ≠ []

structure IsWellFormed (n : Numeral) : Prop extends IsMantissa n.whole n.fraction where
  exponent : ∀ e, n.exponent = some e → e.IsWellFormed

lemma text_eq (n : Numeral) : n.text = Sign.text n.sign ++ (n.whole ++
    ((n.fraction.map ('.' :: ·)).getD [] ++ (n.exponent.map Exponent.text).getD [])) := by
  simp [text]

lemma mem_mantissas : cs ∈ mantissas ↔ ∃ (whole : List Char) (fraction : Option (List Char)),
    IsMantissa whole fraction ∧ whole ++ (fraction.map ('.' :: ·)).getD [] = cs := by
  constructor
  · rintro (h | h)
    · obtain ⟨whole, hwhole, _, hrest, rfl⟩ := Language.mem_mul.1 h
      have hdigits := mem_digits.1 hwhole
      rcases hrest with rfl | hrest
      · exact ⟨whole, none, ⟨hdigits.2, by simp, .inl hdigits.1⟩, rfl⟩
      · obtain ⟨_, rfl, ds, hds, rfl⟩ := Language.mem_mul.1 hrest
        rw [mem_digit_star] at hds
        exact ⟨whole, some ds, ⟨hdigits.2, by simpa using hds, .inl hdigits.1⟩, rfl⟩
    · obtain ⟨_, rfl, ds, hds, rfl⟩ := Language.mem_mul.1 h
      have hdigits := mem_digits.1 hds
      exact ⟨[], some ds, ⟨by simp, by simpa using hdigits.2, .inr ⟨ds, rfl, hdigits.1⟩⟩, rfl⟩
  · rintro ⟨whole, fraction, h, rfl⟩
    cases fraction with
    | none =>
      have hdigits : IsDigits whole := ⟨by simpa using h.nonempty, h.whole⟩
      exact .inl (Language.append_mem_mul (mem_digits.2 hdigits) (.inl rfl))
    | some ds =>
      have hds : ∀ c ∈ ds, c.isDigit := h.fraction ds rfl
      have hpoint : ['.'] ∈ ({['.']} : Language Char) := rfl
      by_cases hempty : whole = []
      · have hdigits : IsDigits ds := ⟨by simpa [hempty] using h.nonempty, hds⟩
        have hword := Language.append_mem_mul hpoint (mem_digits.2 hdigits)
        rw [hempty]
        exact .inr hword
      · have hword := Language.append_mem_mul hpoint (mem_digit_star.2 hds)
        exact .inl (Language.append_mem_mul (mem_digits.2 ⟨hempty, h.whole⟩) (.inr hword))

/-- The words of the grammar are the texts of the well-formed numerals. -/
lemma mem_words : cs ∈ words ↔ ∃ n : Numeral, n.IsWellFormed ∧ n.text = cs := by
  constructor
  · intro h
    obtain ⟨_, hunscaled, exponent, hexponent, rfl⟩ := Language.mem_mul.1 h
    obtain ⟨_, hsign, _, hword, rfl⟩ := Language.mem_mul.1 hunscaled
    obtain ⟨s, rfl⟩ := Sign.mem_optionalSign.1 hsign
    obtain ⟨ws, fs, hmantissa, rfl⟩ := mem_mantissas.1 hword
    rcases hexponent with rfl | hexponent
    · exact ⟨⟨s, ws, fs, none⟩, ⟨hmantissa, by simp⟩, by simp [text]⟩
    · obtain ⟨e, he, rfl⟩ := Exponent.mem_exponents.1 hexponent
      exact ⟨⟨s, ws, fs, some e⟩, ⟨hmantissa, by simpa using he⟩, by simp [text]⟩
  · rintro ⟨⟨s, ws, fs, exponent⟩, h, rfl⟩
    have hsign : Sign.text s ∈ optionalSign := Sign.mem_optionalSign.2 ⟨s, rfl⟩
    have hmantissa : ws ++ (fs.map ('.' :: ·)).getD [] ∈ mantissas :=
      mem_mantissas.2 ⟨ws, fs, h.toIsMantissa, rfl⟩
    have hexponent : (exponent.map Exponent.text).getD [] ∈ 1 + exponents := by
      cases exponent with
      | none => exact .inl rfl
      | some e => exact .inr (Exponent.mem_exponents.2 ⟨e, h.exponent e rfl, rfl⟩)
    have hword := Language.append_mem_mul (Language.append_mem_mul hsign hmantissa) hexponent
    rw [List.append_assoc, List.append_assoc, ← text_eq ⟨s, ws, fs, exponent⟩] at hword
    exact hword

/-- What a numeral becomes when more text follows it: digits go to its last part, and parts that
it does not have yet are read from the text. -/
def extend (n : Numeral) (rest : List Char) : Numeral :=
  let digits := rest.takeWhile Char.isDigit
  let after := rest.dropWhile Char.isDigit
  match n.fraction, n.exponent with
  | _, some e => { n with exponent := some { e with digits := e.digits ++ digits } }
  | some ds, none => { n with fraction := some (ds ++ digits), exponent := Exponent.leading? after }
  | none, none =>
    { n with
      whole := n.whole ++ digits
      fraction := (leadingFraction true after).1
      exponent := Exponent.leading? (leadingFraction true after).2 }

/-- The parts that are read from a sign, digits, and a tail that may go on with digits. -/
lemma leading?_parts (sign : Option Sign) {whole tail : List Char}
    (hwhole : ∀ c ∈ whole, c.isDigit) (hne : whole ≠ [] ∨ tail.head? = some '.') :
    leading? (Sign.text sign ++ (whole ++ tail)) =
      (let digits := whole ++ tail.takeWhile Char.isDigit
       let after := leadingFraction (!digits.isEmpty) (tail.dropWhile Char.isDigit)
       if digits.isEmpty && after.1.isNone then none
       else some ⟨sign, digits, after.1, Exponent.leading? after.2⟩) := by
  have hsign : Sign.leading (Sign.text sign ++ (whole ++ tail)) = (sign, whole ++ tail) := by
    by_cases hempty : whole = []
    · apply Sign.leading_text_append
      intro c hc
      have hpoint : tail.head? = some '.' := by simpa [hempty] using hne
      rw [hempty, List.nil_append, hpoint] at hc
      obtain rfl := Option.some.inj hc
      exact ⟨by decide, by decide⟩
    · exact Sign.leading_text_digits sign ⟨hempty, hwhole⟩ tail
  simp only [leading?, hsign, List.takeWhile_append_of_pos hwhole,
    List.dropWhile_append_of_pos hwhole]

lemma leadingFraction_of_point {hasWhole : Bool} {digits : List Char}
    (hdigits : ∀ c ∈ digits, c.isDigit) (hne : hasWhole = true ∨ digits ≠ []) (tail : List Char) :
    leadingFraction hasWhole ('.' :: (digits ++ tail)) =
      (some (digits ++ tail.takeWhile Char.isDigit), tail.dropWhile Char.isDigit) := by
  have hbeside : (hasWhole || !(digits ++ tail.takeWhile Char.isDigit).isEmpty) = true := by
    rcases hne with rfl | hne
    · rfl
    · simp [hne]
  simp only [leadingFraction, List.takeWhile_append_of_pos hdigits,
    List.dropWhile_append_of_pos hdigits, hbeside, if_true]

/-- An exponent ends the digits before it, and no point stands at its head. -/
lemma leadingFraction_of_exponent {e : Exponent} (h : e.IsWellFormed) (hasWhole : Bool)
    (rest : List Char) :
    (e.text ++ rest).takeWhile Char.isDigit = [] ∧
      (e.text ++ rest).dropWhile Char.isDigit = e.text ++ rest ∧
      leadingFraction hasWhole (e.text ++ rest) = (none, e.text ++ rest) := by
  have hmark : e.mark.isDigit = false := by
    rcases h.mark with h | h <;> rw [h] <;> rfl
  have hpoint : e.mark ≠ '.' := by
    rcases h.mark with h | h <;> rw [h] <;> decide
  refine ⟨by simp [Exponent.text, hmark], by simp [Exponent.text, hmark], ?_⟩
  unfold leadingFraction
  split
  · rename_i he
    exact absurd (List.cons.inj he).1 hpoint
  · rfl

lemma leading?_text_append {n : Numeral} (h : n.IsWellFormed) (rest : List Char) :
    leading? (n.text ++ rest) = some (n.extend rest) := by
  obtain ⟨sign, whole, fraction, exponent⟩ := n
  have hwhole : ∀ c ∈ whole, c.isDigit := h.whole
  rw [text_eq, List.append_assoc, List.append_assoc]
  cases fraction with
  | none =>
    have hne : whole ≠ [] := by simpa using h.nonempty
    rw [leading?_parts sign hwhole (.inl hne)]
    cases exponent with
    | none =>
      have hsome : (!(whole ++ rest.takeWhile Char.isDigit).isEmpty) = true := by simp [hne]
      simp [extend, hne, hsome]
    | some e =>
      have he : e.IsWellFormed := h.exponent e rfl
      obtain ⟨htake, hdrop, hfraction⟩ :=
        leadingFraction_of_exponent he (!(whole ++ []).isEmpty) rest
      simp only [Option.map_none, Option.getD_none, List.nil_append, Option.map_some,
        Option.getD_some, htake, hdrop, hfraction, Exponent.leading?_text_append he]
      simp [hne, extend]
  | some ds =>
    have hds : ∀ c ∈ ds, c.isDigit := h.fraction ds rfl
    have hne : (!whole.isEmpty) = true ∨ ds ≠ [] := by simpa using h.nonempty
    rw [leading?_parts sign hwhole (.inr rfl)]
    have hstop : ('.' : Char).isDigit = false := rfl
    simp only [Option.map_some, Option.getD_some, List.cons_append, List.append_assoc,
      List.takeWhile_cons, List.dropWhile_cons, hstop]
    cases exponent with
    | none =>
      have hfraction := leadingFraction_of_point hds hne rest
      simp [hfraction, extend]
    | some e =>
      have he : e.IsWellFormed := h.exponent e rfl
      have hfraction := leadingFraction_of_point hds hne (e.text ++ rest)
      obtain ⟨htake, hdrop, -⟩ := leadingFraction_of_exponent he true rest
      rw [htake, hdrop, List.append_nil] at hfraction
      simp [hfraction, extend, Exponent.leading?_text_append he]

lemma text_isPrefix_extend (n : Numeral) (rest : List Char) : n.text <+: (n.extend rest).text := by
  obtain ⟨sign, whole, fraction, exponent⟩ := n
  cases exponent with
  | some e =>
    refine ⟨rest.takeWhile Char.isDigit, ?_⟩
    cases fraction <;> simp [extend, text, Exponent.text]
  | none =>
    cases fraction with
    | some ds => simp [extend, text]
    | none => simp [extend, text]

lemma extend_nil (n : Numeral) : n.extend [] = n := by
  obtain ⟨sign, whole, fraction, exponent⟩ := n
  cases exponent with
  | some e => cases fraction <;> simp [extend]
  | none => cases fraction <;> simp [extend, leadingFraction, Exponent.leading?]

lemma leadingFraction_append (hasWhole : Bool) (cs : List Char) :
    ((leadingFraction hasWhole cs).1.map ('.' :: ·)).getD [] ++ (leadingFraction hasWhole cs).2 =
      cs := by
  unfold leadingFraction
  split
  · dsimp only
    split <;> simp
  · rfl

lemma isDigit_of_leadingFraction {hasWhole : Bool}
    (h : (leadingFraction hasWhole cs).1 = some ds) :
    (∀ c ∈ ds, c.isDigit) ∧ (hasWhole = true ∨ ds ≠ []) := by
  unfold leadingFraction at h
  split at h
  · dsimp only at h
    split at h
    · rename_i hbeside
      obtain rfl := Option.some.inj h
      exact ⟨fun c hc => List.mem_takeWhile_imp hc, by simpa using hbeside⟩
    · simp at h
  · simp at h

lemma isWellFormed_of_leading? {n : Numeral} (h : leading? cs = some n) :
    n.IsWellFormed ∧ n.text <+: cs := by
  simp only [leading?] at h
  split at h
  · simp at h
  · rename_i hdigit
    obtain rfl := Option.some.inj h
    constructor
    · refine ⟨⟨fun c hc => List.mem_takeWhile_imp hc, fun ds hds => ?_, ?_⟩, fun e he => ?_⟩
      · exact (isDigit_of_leadingFraction hds).1
      · by_cases hwhole : (Sign.leading cs).2.takeWhile Char.isDigit = []
        · refine .inr ?_
          rw [hwhole] at hdigit ⊢
          obtain ⟨ds, hds⟩ := Option.ne_none_iff_exists'.1 (by simpa using hdigit)
          exact ⟨ds, hds, by simpa using (isDigit_of_leadingFraction hds).2⟩
        · exact .inl hwhole
      · exact (Exponent.isWellFormed_of_leading? he).1
    · have hsign := Sign.text_append_leading cs
      have hdigits := List.takeWhile_append_dropWhile (p := Char.isDigit) (l := (Sign.leading cs).2)
      have hfraction := leadingFraction_append
        (!((Sign.leading cs).2.takeWhile Char.isDigit).isEmpty)
        ((Sign.leading cs).2.dropWhile Char.isDigit)
      obtain ⟨rest, hexponent⟩ := Exponent.isPrefix_leading?
        (leadingFraction (!((Sign.leading cs).2.takeWhile Char.isDigit).isEmpty)
          ((Sign.leading cs).2.dropWhile Char.isDigit)).2
      refine ⟨rest, ?_⟩
      simp only [text_eq, List.append_assoc, hexponent, hfraction, hdigits, hsign]

/-- Every word of the grammar at the head of a text is at the head of the numeral read there. -/
lemma exists_leading?_of_isPrefix {p : List Char} (hp : p <+: cs) (hword : p ∈ words) :
    ∃ n : Numeral, leading? cs = some n ∧ p <+: n.text := by
  obtain ⟨rest, rfl⟩ := hp
  obtain ⟨n, hn, rfl⟩ := mem_words.1 hword
  exact ⟨n.extend rest, leading?_text_append hn rest, n.text_isPrefix_extend rest⟩

lemma leading?_eq_none_iff : leading? cs = none ↔ ∀ p, p <+: cs → p ∉ words := by
  constructor
  · intro h p hp hword
    obtain ⟨n, hn, -⟩ := exists_leading?_of_isPrefix hp hword
    simp [h] at hn
  · intro h
    by_contra hne
    obtain ⟨n, hn⟩ := Option.ne_none_iff_exists'.1 hne
    obtain ⟨hwell, hfront⟩ := isWellFormed_of_leading? hn
    exact h n.text hfront (mem_words.2 ⟨n, hwell, rfl⟩)

lemma IsWellFormed.leading?_text {n : Numeral} (h : n.IsWellFormed) : leading? n.text = some n := by
  simpa [extend_nil] using leading?_text_append h []

/-! ### Characters of a numeral -/

lemma mem_text_iff {n : Numeral} {c : Char} : c ∈ n.text ↔ c ∈ Sign.text n.sign ∨ c ∈ n.whole ∨
    (∃ ds, n.fraction = some ds ∧ (c = '.' ∨ c ∈ ds)) ∨
      ∃ e, n.exponent = some e ∧ (c = e.mark ∨ c ∈ Sign.text e.sign ∨ c ∈ e.digits) := by
  obtain ⟨sign, whole, fraction, exponent⟩ := n
  cases fraction <;> cases exponent <;> simp [text, Exponent.text, or_assoc]

lemma sign_of_mem_text {sign : Option Sign} {c : Char} (h : c ∈ Sign.text sign) :
    c = '+' ∨ c = '-' := by
  cases sign with
  | none => simp [Sign.text] at h
  | some s => cases s <;> simp_all [Sign.text, Sign.char]

/-- A character of a numeral tells the part that it belongs to, if it is no digit and no sign. -/
lemma IsWellFormed.mem_text_cases {n : Numeral} (h : n.IsWellFormed) {c : Char}
    (hc : c ∈ n.text) : c.isDigit ∨ (c = '+' ∨ c = '-') ∨
      (c = '.' ∧ n.fraction.isSome) ∨ (c = 'e' ∨ c = 'E') ∧ n.exponent.isSome := by
  rcases mem_text_iff.1 hc with hsign | hwhole | ⟨ds, hds, hpoint | hdigit⟩ |
    ⟨e, he, hmark | hsign | hdigit⟩
  · exact .inr (.inl (sign_of_mem_text hsign))
  · exact .inl (h.whole c hwhole)
  · exact .inr (.inr (.inl ⟨hpoint, by simp [hds]⟩))
  · exact .inl (h.fraction ds hds c hdigit)
  · rw [hmark]
    exact .inr (.inr (.inr ⟨(h.exponent e he).mark, by simp [he]⟩))
  · exact .inr (.inl (sign_of_mem_text hsign))
  · exact .inl ((h.exponent e he).digits.2 c hdigit)

lemma IsWellFormed.isIntegral_iff {n : Numeral} (h : n.IsWellFormed) :
    n.isIntegral ↔ '.' ∉ n.text ∧ 'e' ∉ n.text ∧ 'E' ∉ n.text := by
  simp only [isIntegral, Bool.and_eq_true, Option.isNone_iff_eq_none]
  constructor
  · rintro ⟨hfraction, hexponent⟩
    refine ⟨fun hc => ?_, fun hc => ?_, fun hc => ?_⟩ <;>
      simpa [hfraction, hexponent, Char.isDigit] using h.mem_text_cases hc
  · rintro ⟨hpoint, hlower, hupper⟩
    constructor
    · by_contra hne
      obtain ⟨ds, hds⟩ := Option.ne_none_iff_exists'.1 hne
      exact hpoint (mem_text_iff.2 (.inr (.inr (.inl ⟨ds, hds, .inl rfl⟩))))
    · by_contra hne
      obtain ⟨e, he⟩ := Option.ne_none_iff_exists'.1 hne
      have hmark : e.mark ∈ n.text :=
        mem_text_iff.2 (.inr (.inr (.inr ⟨e, he, .inl rfl⟩)))
      rcases (h.exponent e he).mark with h | h
      · exact hlower (h ▸ hmark)
      · exact hupper (h ▸ hmark)

lemma IsWellFormed.exists_digit {n : Numeral} (h : n.IsWellFormed) :
    ∃ c ∈ n.text, c.isDigit := by
  rcases h.nonempty with hne | ⟨ds, hds, hne⟩
  · obtain ⟨c, hc⟩ := List.exists_mem_of_ne_nil _ hne
    exact ⟨c, mem_text_iff.2 (.inr (.inl hc)), h.whole c hc⟩
  · obtain ⟨c, hc⟩ := List.exists_mem_of_ne_nil _ hne
    exact ⟨c, mem_text_iff.2 (.inr (.inr (.inl ⟨ds, hds, .inr hc⟩))), h.fraction ds hds c hc⟩

lemma IsWellFormed.text_ne_nil {n : Numeral} (h : n.IsWellFormed) : n.text ≠ [] := by
  obtain ⟨c, hc, -⟩ := h.exists_digit
  exact List.ne_nil_of_mem hc

/-- A numeral is read behind blanks, with what follows it. -/
lemma ofText?_text {n : Numeral} (h : n.IsWellFormed) {blanks : List Char}
    (hblanks : ∀ c ∈ blanks, Text.isBlank c) (rest : List Char) :
    ofText? (String.ofList (blanks ++ n.text ++ rest)) = some (n.extend rest) := by
  have htrim : Text.trimLeft (blanks ++ n.text ++ rest) = n.text ++ rest := by
    obtain ⟨c, cs, hcs⟩ := List.exists_cons_of_ne_nil h.text_ne_nil
    have hblank : Text.isBlank c = false := by
      have hc : c ∈ n.text := hcs ▸ List.mem_cons_self
      rcases h.mem_text_cases hc with hdigit | (rfl | rfl) | ⟨rfl, -⟩ | ⟨rfl | rfl, -⟩
      · exact isBlank_of_isDigit hdigit
      all_goals rfl
    rw [Text.trimLeft, List.append_assoc, List.dropWhile_append_of_pos hblanks, hcs]
    simp [hblank]
  rw [ofText?, String.toList_ofList, htrim, leading?_text_append h]

lemma IsWellFormed.ofText?_self {n : Numeral} (h : n.IsWellFormed) :
    ofText? (String.ofList n.text) = some n := by
  have hblanks : ∀ c ∈ ([] : List Char), Text.isBlank c := List.forall_mem_nil _
  have hread := ofText?_text h hblanks []
  rwa [List.nil_append, List.append_nil, extend_nil] at hread

lemma IsWellFormed.byteLength_text {n : Numeral} (h : n.IsWellFormed) :
    Text.byteLength n.text = n.text.length := by
  have hsize : ∀ c ∈ n.text, c.utf8Size = 1 := by
    intro c hc
    rcases h.mem_text_cases hc with hdigit | (rfl | rfl) | ⟨rfl, -⟩ | ⟨rfl | rfl, -⟩
    · exact utf8Size_of_isDigit hdigit
    all_goals rfl
  generalize n.text = cs at hsize
  induction cs with
  | nil => rfl
  | cons c cs ih =>
    have htail := ih fun d hd => hsize d (List.mem_cons_of_mem c hd)
    rw [Text.byteLength, hsize c List.mem_cons_self, htail, List.length_cons, Nat.add_comm]

lemma isValid_end {n : Numeral} (hcs : n.text <+: cs) :
    (String.Pos.Raw.mk (Text.byteLength n.text)).IsValid (String.ofList cs) := by
  obtain ⟨rest, rfl⟩ := hcs
  rw [String.Pos.Raw.isValid_iff_exists_append]
  refine ⟨String.ofList n.text, String.ofList rest, String.ofList_append, ?_⟩
  rw [String.rawEndPos, ← Text.byteLength_eq_utf8ByteSize, String.toList_ofList]

end Numeral

end QueryTemplate
