import Mathlib.Data.List.Basic
import QueryTemplate.Text.Utf8

/-!
# Boundaries between characters

Texts are cut to a number of bytes without a look at their characters: the bytes that go on with a
character have the bits `10` at their head, and a search walks back from the limit over such bytes.
It stops at the end of the longest prefix of whole characters within the limit, after three steps
at most.
-/

namespace QueryTemplate.Text

/-- The bytes of a text in UTF-8. -/
def utf8 (cs : List Char) : List UInt8 := cs.flatMap String.utf8EncodeChar

/-- Whether a byte goes on with a character that a byte before it began. -/
def isContinuation (byte : UInt8) : Bool := decide (0x80 ≤ byte) && decide (byte < 0xC0)

/-- Whether an offset is the start or the end of the bytes, or that of a byte that begins a
character. -/
def isBoundary (bytes : List UInt8) (offset : Nat) : Bool :=
  offset == 0 ||
    match bytes[offset]? with
    | some byte => !isContinuation byte
    | none => offset == bytes.length

/-- A step of the search for a boundary: one byte back, unless the search stops. -/
def stepBack? (bytes : List UInt8) (offset : Nat) : Option Nat :=
  if 0 < offset ∧ isBoundary bytes offset = false then some (offset - 1) else none

/-- The search walks back from one offset and stops at another one after a number of steps. -/
inductive WalksBack (bytes : List UInt8) : (start steps stop : Nat) → Prop where
  | stop {offset : Nat} (h : stepBack? bytes offset = none) : WalksBack bytes offset 0 offset
  | step {offset before steps stop : Nat} (h : stepBack? bytes offset = some before)
      (rest : WalksBack bytes before steps stop) : WalksBack bytes offset (steps + 1) stop

variable {c : Char} {cs : List Char} {n : Nat}

/-! ### The bytes of a character -/

lemma isContinuation_ofNat_iff (h : n < 256) :
    isContinuation (UInt8.ofNat n) = true ↔ 128 ≤ n ∧ n < 192 := by
  have hn : (UInt8.ofNat n).toNat = n := by simp [h]
  simp [isContinuation, UInt8.le_iff_toNat_le, UInt8.lt_iff_toNat_lt, hn]

/-- The first byte of a character begins it, and the others go on with it. -/
lemma exists_utf8EncodeChar (c : Char) : ∃ first more, String.utf8EncodeChar c = first :: more ∧
    isContinuation first = false ∧ ∀ byte ∈ more, isContinuation byte = true := by
  have hfirst : ∀ v : Nat, v < 128 ∨ 192 ≤ v → v < 256 →
      isContinuation (UInt8.ofNat v) = false := by
    intro v hv hlt
    rw [← Bool.not_eq_true, isContinuation_ofNat_iff hlt]
    omega
  have hmore : ∀ v : Nat, isContinuation (UInt8.ofNat (v % 0x40 + 0x80)) = true := by
    intro v
    rw [isContinuation_ofNat_iff (by omega)]
    omega
  unfold String.utf8EncodeChar
  dsimp only
  split_ifs
  · exact ⟨_, _, rfl, hfirst _ (by omega) (by omega), List.forall_mem_nil _⟩
  · refine ⟨_, _, rfl, hfirst _ (by omega) (by omega), ?_⟩
    exact List.forall_mem_singleton.2 (hmore _)
  · refine ⟨_, _, rfl, hfirst _ (by omega) (by omega), ?_⟩
    exact List.forall_mem_cons.2 ⟨hmore _, List.forall_mem_singleton.2 (hmore _)⟩
  · refine ⟨_, _, rfl, hfirst _ (by omega) (by omega), ?_⟩
    exact List.forall_mem_cons.2
      ⟨hmore _, List.forall_mem_cons.2 ⟨hmore _, List.forall_mem_singleton.2 (hmore _)⟩⟩

/-! ### The bytes of a text -/

lemma utf8_cons (c : Char) (cs : List Char) :
    utf8 (c :: cs) = String.utf8EncodeChar c ++ utf8 cs := List.flatMap_cons

lemma utf8_append (cs ds : List Char) : utf8 (cs ++ ds) = utf8 cs ++ utf8 ds :=
  List.flatMap_append

lemma length_utf8 (cs : List Char) : (utf8 cs).length = byteLength cs := by
  induction cs with
  | nil => rfl
  | cons c cs ih => rw [utf8_cons, List.length_append, String.length_utf8EncodeChar, ih, byteLength]

lemma utf8_of_isPrefix {p : List Char} (h : p <+: cs) :
    utf8 p = (utf8 cs).take (byteLength p) := by
  obtain ⟨rest, rfl⟩ := h
  rw [utf8_append, ← length_utf8, List.take_left]

/-- The bytes of a text do not go on with a character before it. -/
lemma isContinuation_of_getElem?_zero {byte : UInt8} (h : (utf8 cs)[0]? = some byte) :
    isContinuation byte = false := by
  cases cs with
  | nil => cases h
  | cons c cs =>
    obtain ⟨first, more, hc, hfirst, -⟩ := exists_utf8EncodeChar c
    rw [utf8_cons, hc] at h
    obtain rfl := Option.some.inj h
    exact hfirst

/-- Inside of the first character there is no boundary. -/
lemma isBoundary_of_lt (hpos : 0 < n) (hlt : n < c.utf8Size) :
    isBoundary (utf8 (c :: cs)) n = false := by
  obtain ⟨first, more, hc, -, hmore⟩ := exists_utf8EncodeChar c
  obtain ⟨k, rfl⟩ : ∃ k, n = k + 1 := ⟨n - 1, by omega⟩
  have hlength : k < more.length := by
    rw [← String.length_utf8EncodeChar, hc, List.length_cons] at hlt
    omega
  have hbyte : (utf8 (c :: cs))[k + 1]? = some more[k] := by
    rw [utf8_cons, hc, List.cons_append, List.getElem?_cons_succ,
      List.getElem?_append_left hlength, List.getElem?_eq_getElem hlength]
  have hzero : (k + 1 == 0) = false := rfl
  rw [isBoundary, hbyte, hzero, Bool.false_or]
  dsimp only
  rw [hmore _ (List.getElem_mem hlength), Bool.not_true]

/-- Behind the first character the boundaries are those of the other ones. -/
lemma isBoundary_of_le (hle : c.utf8Size ≤ n) :
    isBoundary (utf8 (c :: cs)) n = isBoundary (utf8 cs) (n - c.utf8Size) := by
  have hpos : 0 < c.utf8Size := Char.utf8Size_pos c
  have hbyte : (utf8 (c :: cs))[n]? = (utf8 cs)[n - c.utf8Size]? := by
    rw [utf8_cons, List.getElem?_append_right (by rwa [String.length_utf8EncodeChar]),
      String.length_utf8EncodeChar]
  have hlength : (utf8 (c :: cs)).length = c.utf8Size + (utf8 cs).length := by
    rw [utf8_cons, List.length_append, String.length_utf8EncodeChar]
  have hzero : (n == 0) = false := by
    rw [beq_eq_false_iff_ne]
    omega
  rw [isBoundary, isBoundary, hbyte, hlength, hzero, Bool.false_or]
  cases hb : (utf8 cs)[n - c.utf8Size]? with
  | none =>
    have hend := List.getElem?_eq_none_iff.1 hb
    rw [Bool.eq_iff_iff]
    simp
    omega
  | some byte =>
    by_cases hn : n - c.utf8Size = 0
    · rw [hn] at hb ⊢
      dsimp only
      rw [isContinuation_of_getElem?_zero hb]
      rfl
    · rw [beq_eq_false_iff_ne.2 hn, Bool.false_or]

/-- The boundaries are the ends of the prefixes of whole characters. -/
lemma isBoundary_utf8_iff :
    isBoundary (utf8 cs) n = true ↔ ∃ p, p <+: cs ∧ byteLength p = n := by
  induction cs generalizing n with
  | nil =>
    have hnil : isBoundary (utf8 []) n = (n == 0) := by
      rw [isBoundary, utf8, List.flatMap_nil, List.getElem?_nil]
      exact Bool.or_self _
    rw [hnil, beq_iff_eq]
    constructor
    · rintro rfl
      exact ⟨[], List.prefix_refl _, rfl⟩
    · rintro ⟨p, hp, rfl⟩
      rw [List.prefix_nil.1 hp, byteLength]
  | cons c cs ih =>
    rcases Nat.eq_zero_or_pos n with rfl | hpos
    · exact ⟨fun _ => ⟨[], List.nil_prefix, rfl⟩, fun _ => rfl⟩
    · rcases Nat.lt_or_ge n c.utf8Size with hlt | hle
      · rw [isBoundary_of_lt hpos hlt]
        constructor
        · intro h
          cases h
        · rintro ⟨p, hp, rfl⟩
          cases p with
          | nil => exact absurd hpos (Nat.lt_irrefl 0)
          | cons d p =>
            obtain ⟨rfl, -⟩ := List.cons_prefix_cons.1 hp
            rw [byteLength] at hlt
            omega
      · rw [isBoundary_of_le hle, ih]
        constructor
        · rintro ⟨p, hp, hlength⟩
          refine ⟨c :: p, List.cons_prefix_cons.2 ⟨rfl, hp⟩, ?_⟩
          rw [byteLength]
          omega
        · rintro ⟨p, hp, rfl⟩
          cases p with
          | nil => exact absurd hpos (Nat.lt_irrefl 0)
          | cons d p =>
            obtain ⟨rfl, htail⟩ := List.cons_prefix_cons.1 hp
            exact ⟨p, htail, by rw [byteLength, Nat.add_sub_cancel_left]⟩

/-! ### The longest prefix within a limit -/

lemma cut_of_le {limit : Nat} (h : byteLength cs ≤ limit) : cut limit cs = cs :=
  (cut_isPrefix limit cs).eq_of_length_le (isPrefix_cut (List.prefix_refl cs) h).length_le

/-- A text that is too long goes on, behind what is kept of it, with a character that would exceed
the limit. -/
lemma exists_exceeding {limit : Nat} (h : limit < byteLength cs) :
    ∃ c rest, cs = cut limit cs ++ c :: rest ∧ limit < byteLength (cut limit cs) + c.utf8Size := by
  obtain ⟨rest, hrest⟩ := cut_isPrefix limit cs
  cases rest with
  | nil =>
    have hle := byteLength_cut_le limit cs
    rw [← List.append_nil (cut limit cs), hrest] at hle
    omega
  | cons c rest =>
    refine ⟨c, rest, hrest.symm, Nat.lt_of_not_le fun hle => ?_⟩
    have hlonger : cut limit cs ++ [c] <+: cut limit cs := by
      apply isPrefix_cut
      · exact ⟨rest, by rw [List.append_assoc]; exact hrest⟩
      · rwa [byteLength_append, byteLength, byteLength, Nat.add_zero]
    have hlength := hlonger.length_le
    rw [List.length_append, List.length_singleton] at hlength
    omega

/-! ### The search -/

/-- A step of the search from behind the longest prefix within a limit does not leave it. -/
lemma stepBack?_of_lt {limit : Nat} (hlt : byteLength (cut limit cs) < n) (hle : n ≤ limit) :
    stepBack? (utf8 cs) n = some (n - 1) := by
  have hinside : isBoundary (utf8 cs) n = false := by
    rw [← Bool.not_eq_true, isBoundary_utf8_iff]
    rintro ⟨p, hp, rfl⟩
    obtain ⟨rest, hrest⟩ := isPrefix_cut hp hle
    rw [← hrest, byteLength_append] at hlt
    omega
  rw [stepBack?, if_pos ⟨by omega, hinside⟩]

lemma stepBack?_of_isBoundary {bytes : List UInt8} (h : isBoundary bytes n = true) :
    stepBack? bytes n = none := by
  rw [stepBack?, if_neg]
  rintro ⟨-, hn⟩
  rw [h] at hn
  cases hn

lemma walksBack_add {limit : Nat} (steps : Nat) (h : byteLength (cut limit cs) + steps ≤ limit) :
    WalksBack (utf8 cs) (byteLength (cut limit cs) + steps) steps (byteLength (cut limit cs)) := by
  induction steps with
  | zero =>
    apply WalksBack.stop
    apply stepBack?_of_isBoundary
    exact isBoundary_utf8_iff.2 ⟨_, cut_isPrefix limit cs, rfl⟩
  | succ steps ih =>
    apply WalksBack.step (stepBack?_of_lt (by omega) h)
    exact ih (by omega)

/-- The search is a function of the offset where it starts. -/
lemma WalksBack.unique {bytes : List UInt8} {start steps steps' stop stop' : Nat}
    (h : WalksBack bytes start steps stop) (h' : WalksBack bytes start steps' stop') :
    steps' = steps ∧ stop' = stop := by
  induction h generalizing steps' with
  | stop hnone =>
    cases h' with
    | stop => exact ⟨rfl, rfl⟩
    | step hsome =>
      rw [hnone] at hsome
      cases hsome
  | step hsome rest ih =>
    cases h' with
    | stop hnone =>
      rw [hsome] at hnone
      cases hnone
    | step hsome' rest' =>
      rw [hsome] at hsome'
      obtain rfl := Option.some.inj hsome'
      obtain ⟨rfl, rfl⟩ := ih rest'
      exact ⟨rfl, rfl⟩

/-- What is kept of a text within a limit ends at a boundary and is the longest prefix of whole
characters that has at most so many bytes: the whole text, or the part before the first character
that would exceed the limit. In the second case the search from the limit has one run; it stops at
the end of this part, at the start of the text at the latest, after three steps at most. -/
theorem cut_longest (limit : Nat) (cs : List Char) :
    cut limit cs <+: cs ∧ byteLength (cut limit cs) ≤ limit ∧
    isBoundary (utf8 cs) (byteLength (cut limit cs)) = true ∧
    utf8 (cut limit cs) = (utf8 cs).take (byteLength (cut limit cs)) ∧
    (∀ p, p <+: cs → byteLength p ≤ limit → p <+: cut limit cs) ∧
    (byteLength cs ≤ limit ∧ cut limit cs = cs ∨
      limit < byteLength cs ∧
      (∃ c rest, cs = cut limit cs ++ c :: rest ∧
        limit < byteLength (cut limit cs) + c.utf8Size) ∧
      limit - byteLength (cut limit cs) ≤ 3 ∧
      ∀ steps stop, WalksBack (utf8 cs) limit steps stop ↔
        steps = limit - byteLength (cut limit cs) ∧ stop = byteLength (cut limit cs)) := by
  have hfront := cut_isPrefix limit cs
  have hlimit := byteLength_cut_le limit cs
  refine ⟨hfront, hlimit, isBoundary_utf8_iff.2 ⟨_, hfront, rfl⟩, utf8_of_isPrefix hfront,
    fun p hp hl => isPrefix_cut hp hl, ?_⟩
  rcases Nat.lt_or_ge limit (byteLength cs) with hlt | hle
  · right
    obtain ⟨c, rest, hcs, hexceeds⟩ := exists_exceeding hlt
    refine ⟨hlt, ⟨c, rest, hcs, hexceeds⟩, ?_, ?_⟩
    · have hsize : c.utf8Size ≤ 4 := c.utf8Size_le_four
      omega
    · have hsum : byteLength (cut limit cs) + (limit - byteLength (cut limit cs)) = limit :=
        Nat.add_sub_cancel' hlimit
      have hwalk := walksBack_add _ (Nat.le_of_eq hsum)
      rw [hsum] at hwalk
      intro steps stop
      constructor
      · exact hwalk.unique
      · rintro ⟨rfl, rfl⟩
        exact hwalk
  · exact .inl ⟨hle, cut_of_le hle⟩

-- The limit stands inside of the second character, behind two of its three bytes.
example : WalksBack (utf8 "é€".toList) 4 2 2 :=
  .step rfl (.step rfl (.stop rfl))

end QueryTemplate.Text
