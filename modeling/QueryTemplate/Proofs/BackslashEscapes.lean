import QueryTemplate.Proofs.QuoteLexer
import QueryTemplate.Rendering

/-!
# Backslash escapes

Read from left to right, a backslash takes the character behind it, and the two stand for one
character. The escaped form of a text reads back as the text. No quote in it is untaken, so the
quote that closes a literal is the first untaken one behind its opening quote.
-/

namespace QueryTemplate

/-- A character that stands for itself, or one that a backslash takes. -/
inductive Glyph where
  | bare (c : Char)
  | taken (c : Char)
  deriving DecidableEq

/-- The character that a glyph stands for. -/
def Glyph.decoded : Glyph → Char
  | bare c => c
  | taken c => unescape c

/-- The glyphs of a text; none when it ends in a backslash that takes no character. -/
def glyphs : List Char → Option (List Glyph)
  | [] => some []
  | ['\\'] => none
  | '\\' :: c :: cs => (glyphs cs).map (.taken c :: ·)
  | c :: cs => (glyphs cs).map (.bare c :: ·)

/-- A character stands behind `before` in a text, and no backslash takes it. -/
def Untaken (c : Char) (before cs : List Char) : Prop :=
  ∃ gs after, glyphs before = some gs ∧ cs = before ++ c :: after

/-- The first place in a text where a character is untaken. -/
structure FirstUntaken (c : Char) (before cs : List Char) : Prop where
  untaken : Untaken c before cs
  isPrefix : ∀ outside, Untaken c outside cs → before <+: outside

/-- The characters that do not stand in a literal as they are. -/
def controls : List Char := ['\x00', '\n', '\r', '\x1a']

variable {c : Char} {cs ds before : List Char} {gs hs : List Glyph}

/-! ### Reading glyphs -/

lemma glyphs_bare (hc : c ≠ '\\') (cs : List Char) :
    glyphs (c :: cs) = (glyphs cs).map (.bare c :: ·) := by
  rw [glyphs]
  · intro h
    exact absurd h hc
  · intro _ _ h
    exact absurd h hc

lemma glyphs_taken (c : Char) (cs : List Char) :
    glyphs ('\\' :: c :: cs) = (glyphs cs).map (.taken c :: ·) := by
  rw [glyphs]

lemma glyphs_append (h : glyphs cs = some gs) (ds : List Char) :
    glyphs (cs ++ ds) = (glyphs ds).map (gs ++ ·) := by
  induction cs using glyphs.induct generalizing gs with
  | case1 =>
    cases h
    simp
  | case2 => cases h
  | case3 c cs ih =>
    rw [glyphs_taken, Option.map_eq_some_iff] at h
    obtain ⟨hs, hcs, rfl⟩ := h
    rw [List.cons_append, List.cons_append, glyphs_taken, ih hcs, Option.map_map]
    rfl
  | case4 c cs hend htaken ih =>
    have hc : c ≠ '\\' := by
      intro hc
      cases cs with
      | nil => exact hend hc rfl
      | cons d ds => exact htaken d ds hc rfl
    rw [glyphs_bare hc, Option.map_eq_some_iff] at h
    obtain ⟨hs, hcs, rfl⟩ := h
    rw [List.cons_append, glyphs_bare hc, ih hcs, Option.map_map]
    rfl

/-- In a text whose glyphs do not include a bare character, this character is not untaken. -/
lemma not_untaken_of_glyphs (h : glyphs cs = some gs) (hc : c ≠ '\\') (hn : .bare c ∉ gs) :
    ¬Untaken c before cs := by
  rintro ⟨hs, after, hbefore, rfl⟩
  rw [glyphs_append hbefore, glyphs_bare hc, Option.map_map, Option.map_eq_some_iff] at h
  obtain ⟨rest, -, rfl⟩ := h
  apply hn
  simp

/-- A character that is nowhere untaken in a text is first untaken right behind the text. -/
lemma firstUntaken_of_glyphs (h : glyphs cs = some gs) (hc : c ≠ '\\') (hn : .bare c ∉ gs)
    (after : List Char) : FirstUntaken c cs (cs ++ c :: after) := by
  constructor
  · exact ⟨gs, after, h, rfl⟩
  · rintro outside ⟨hs, rest, houtside, he⟩
    rcases List.append_eq_append_iff.1 he with ⟨ds, rfl, -⟩ | ⟨ds, rfl, hrest⟩
    · exact List.prefix_append cs ds
    · cases ds with
      | nil => simp
      | cons d ds =>
        obtain ⟨rfl, -⟩ := List.cons.inj hrest
        exact absurd ⟨hs, ds, houtside, rfl⟩ (not_untaken_of_glyphs h hc hn)

/-! ### Escaped texts -/

namespace Escaper

/-- The escaped form of a character is one glyph, which stands for it and is no bare quote. -/
lemma exists_glyph_backslashChar (c : Char) :
    ∃ g : Glyph, glyphs (backslashChar c) = some [g] ∧ g.decoded = c ∧ g ≠ .bare '\'' ∧
      g ≠ .bare '"' := by
  unfold backslashChar
  split
  case h_8 hnul hlf hcr hbackslash hquote hdouble hsub =>
    refine ⟨.bare c, ?_, rfl, ?_, ?_⟩
    · rw [glyphs_bare hbackslash]
      rfl
    · intro h
      exact hquote (Glyph.bare.inj h)
    · intro h
      exact hdouble (Glyph.bare.inj h)
  all_goals exact ⟨.taken _, rfl, rfl, by decide, by decide⟩

lemma controls_backslashChar (c : Char) : ∀ d ∈ backslashChar c, d ∉ controls := by
  unfold backslashChar
  split
  case h_8 hnul hlf hcr hbackslash hquote hdouble hsub =>
    intro d hd
    rw [List.mem_singleton] at hd
    subst hd
    simp only [controls, List.mem_cons, List.not_mem_nil, or_false, not_or]
    exact ⟨hnul, hlf, hcr, hsub⟩
  all_goals simp [controls]

/-- The escaped form of a text reads back as the text, and no quote in it is bare. -/
lemma exists_glyphs_backslashed (cs : List Char) :
    ∃ gs : List Glyph, glyphs (backslashed cs) = some gs ∧ gs.map Glyph.decoded = cs ∧
      .bare '\'' ∉ gs ∧ .bare '"' ∉ gs := by
  induction cs with
  | nil => exact ⟨[], rfl, rfl, List.not_mem_nil, List.not_mem_nil⟩
  | cons c cs ih =>
    obtain ⟨g, hg, hdecoded, hquote, hdouble⟩ := exists_glyph_backslashChar c
    obtain ⟨gs, hgs, hall, hquotes, hdoubles⟩ := ih
    refine ⟨g :: gs, ?_, ?_, ?_, ?_⟩
    · rw [backslashed, List.flatMap_cons, glyphs_append hg]
      rw [backslashed] at hgs
      rw [hgs]
      rfl
    · rw [List.map_cons, hdecoded, hall]
    · rw [List.mem_cons, not_or]
      exact ⟨Ne.symm hquote, hquotes⟩
    · rw [List.mem_cons, not_or]
      exact ⟨Ne.symm hdouble, hdoubles⟩

lemma toList_mysql_escape (s : String) : (mysql.escape s).toList = backslashed s.toList :=
  String.toList_ofList

lemma mysql_escape_append (s t : String) :
    mysql.escape (s ++ t) = mysql.escape s ++ mysql.escape t := by
  apply String.ext
  rw [String.toList_append, toList_mysql_escape, toList_mysql_escape, toList_mysql_escape,
    String.toList_append, backslashed, List.flatMap_append]
  rfl

lemma mysql_escape_injective : Function.Injective mysql.escape := by
  intro s t h
  obtain ⟨gs, hs, hdecoded, -⟩ := exists_glyphs_backslashed s.toList
  obtain ⟨hs', ht, hdecoded', -⟩ := exists_glyphs_backslashed t.toList
  rw [← toList_mysql_escape] at hs ht
  rw [h, ht, Option.some.injEq] at hs
  apply String.ext
  rw [← hdecoded, ← hdecoded', hs]

/-- Every text is read back from its escaped form, in which no quote is untaken and no control
character stands as it is. So different texts have different escaped forms, the escaped form of
texts one after the other is that of each of them, and a literal ends at the first untaken quote
behind its opening quote, whatever text follows. -/
theorem mysql_escape_readsBack :
    (∀ s : String, ∃ gs : List Glyph, glyphs (mysql.escape s).toList = some gs ∧
      gs.map Glyph.decoded = s.toList ∧ .bare '\'' ∉ gs ∧ .bare '"' ∉ gs ∧
      List.Disjoint (mysql.escape s).toList controls) ∧
    Function.Injective mysql.escape ∧
    (∀ s t : String, mysql.escape (s ++ t) = mysql.escape s ++ mysql.escape t) ∧
    ∀ s rest : String, ∃ text : List Char,
      ((Piece.literal s).write mysql ++ rest).toList = '\'' :: text ∧
      FirstUntaken '\'' (mysql.escape s).toList text ∧
      text = (mysql.escape s).toList ++ '\'' :: rest.toList := by
  refine ⟨?_, mysql_escape_injective, mysql_escape_append, ?_⟩
  · intro s
    obtain ⟨gs, hgs, hdecoded, hquote, hdouble⟩ := exists_glyphs_backslashed s.toList
    rw [toList_mysql_escape]
    refine ⟨gs, hgs, hdecoded, hquote, hdouble, ?_⟩
    intro d hd
    obtain ⟨c, -, hc⟩ := List.mem_flatMap.1 hd
    exact controls_backslashChar c d hc
  · intro s rest
    obtain ⟨gs, hgs, -, hquote, -⟩ := exists_glyphs_backslashed s.toList
    rw [← toList_mysql_escape] at hgs
    refine ⟨_, ?_, firstUntaken_of_glyphs hgs (by decide) hquote rest.toList, rfl⟩
    simp

-- A backslash in front of a quote does not free the quote.
example : glyphs (mysql.escape "\\'").toList = some [.taken '\\', .taken '\''] := by
  decide +kernel

end Escaper

end QueryTemplate
