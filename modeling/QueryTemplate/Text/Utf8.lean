/-!
# Text within a byte budget

`byteLength` counts the bytes of a text in UTF-8, and `cut` keeps the longest prefix of whole
characters within a number of bytes.
-/

namespace QueryTemplate.Text

/-- The number of bytes of a text in UTF-8. -/
def byteLength : List Char → Nat
  | [] => 0
  | c :: cs => c.utf8Size + byteLength cs

theorem byteLength_append (cs ds : List Char) :
    byteLength (cs ++ ds) = byteLength cs + byteLength ds := by
  induction cs with
  | nil => simp [byteLength]
  | cons c cs ih => simp [byteLength, ih, Nat.add_assoc]

theorem byteLength_eq_utf8ByteSize (s : String) : byteLength s.toList = s.utf8ByteSize := by
  have h : ∀ cs : List Char, byteLength cs = (String.ofList cs).utf8ByteSize := by
    intro cs
    induction cs with
    | nil => rfl
    | cons c cs ih => simp [byteLength, ih, String.ofList_cons]
  rw [h, String.ofList_toList]

/-- The longest prefix of whole characters that has at most `limit` bytes. -/
def cut (limit : Nat) : List Char → List Char
  | [] => []
  | c :: cs => if c.utf8Size ≤ limit then c :: cut (limit - c.utf8Size) cs else []

theorem byteLength_cut_le (limit : Nat) (cs : List Char) : byteLength (cut limit cs) ≤ limit := by
  fun_induction cut limit cs with
  | case1 => exact Nat.zero_le _
  | case2 limit c cs h ih => simp only [byteLength]; omega
  | case3 => exact Nat.zero_le _

theorem cut_isPrefix (limit : Nat) (cs : List Char) : cut limit cs <+: cs := by
  fun_induction cut limit cs with
  | case1 => exact List.prefix_refl _
  | case2 limit c cs h ih => exact (List.cons_prefix_cons).2 ⟨rfl, ih⟩
  | case3 => exact List.nil_prefix

/-- Every prefix of whole characters within the limit is part of what `cut` keeps. -/
theorem isPrefix_cut {limit : Nat} {p cs : List Char} (hp : p <+: cs) (hl : byteLength p ≤ limit) :
    p <+: cut limit cs := by
  induction cs generalizing limit p with
  | nil =>
    rw [List.prefix_nil.1 hp]
    exact List.nil_prefix
  | cons c cs ih =>
    cases p with
    | nil => exact List.nil_prefix
    | cons d p =>
      obtain ⟨rfl, ht⟩ := List.cons_prefix_cons.1 hp
      rw [byteLength] at hl
      rw [cut, if_pos (by omega)]
      apply List.cons_prefix_cons.2
      exact ⟨rfl, ih ht (by omega)⟩

end QueryTemplate.Text
