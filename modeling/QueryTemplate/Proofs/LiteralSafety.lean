import QueryTemplate.Proofs.PartsRun
import QueryTemplate.Proofs.QuoteLexer
import QueryTemplate.Proofs.WrittenValues

/-!
# Strings stay in their literals

With the backslash escapes of MySQL each item of a template lexes on its own: a literal to its
content, an accepted string to itself, everything else to code. So the literals of a statement
are those of the template and the strings bound to it, and the code around them does not depend
on the strings.
-/

namespace QueryTemplate

namespace Piece

def lexemes : Piece → List Lexeme
  | literal raw => [.literal raw.toList]
  | p => (p.write .mysql).toList.map .code

/-- A piece that a placeholder writes lexes on its own. -/
lemma lexes_write {p : Piece} (h : p.IsWritten) (hname : ∀ raw, p = name raw → '\'' ∉ raw.toList) :
    Lexes (p.write .mysql).toList p.lexemes := by
  cases p with
  | source c => cases h
  | text s => exact lexes_code h
  | literal raw =>
    have heq : (write .mysql (literal raw)).toList =
        '\'' :: (Escaper.backslashed raw.toList ++ ['\'']) := by
      simp [Escaper.mysql]
    rw [heq]
    exact lexes_backslashed raw.toList
  | name raw =>
    refine lexes_code ?_
    have heq : (write .mysql (name raw)).toList = '`' :: (raw.toList ++ ['`']) := by
      simp [Escaper.mysql]
    rw [heq]
    simp [hname raw rfl]

lemma filterMap_content?_code (cs : List Char) :
    (cs.map Lexeme.code).filterMap Lexeme.content? = [] := by
  induction cs with
  | nil => rfl
  | cons c cs ih => exact ih

lemma filterMap_content?_lexemes (p : Piece) :
    p.lexemes.filterMap Lexeme.content? = (p.literal?.map String.toList).toList := by
  cases p with
  | literal raw => rfl
  | _ => exact filterMap_content?_code _

/-- The content of a literal does not show outside it. -/
lemma outline_lexemes_blanked (p : Piece) :
    p.blanked.lexemes.map Lexeme.outline = p.lexemes.map Lexeme.outline := by
  cases p <;> rfl

end Piece

namespace Template

namespace Item

def lexemes (params : List Value) (n : Nat) : Item → List Lexeme
  | literal content => [.literal content]
  | placeholder p => (params[n]?.map fun v => (p.render v).pieces.flatMap Piece.lexemes).getD []
  | plain c => [.code c]

/-- The contents of the literals that an item puts in a statement: its own, or the strings that
it writes. -/
def contents (params : List Value) (n : Nat) : Item → List (List Char)
  | literal content => [content]
  | placeholder p => (params[n]?.map fun v => (p.strings v).map String.toList).getD []
  | plain _ => []

def names (params : List Value) (n : Nat) : Item → List String
  | placeholder p => (params[n]?.map p.names).getD []
  | _ => []

/-- The items of a template whose lexemes do not run into each other. -/
def IsClosed : Item → Prop
  | literal content => '\'' ∉ content ∧ '\\' ∉ content
  | placeholder _ => True
  | plain c => c ≠ '\''

lemma lexes_pieces {params : List Value} {n : Nat} {i : Item} (hclosed : i.IsClosed)
    (hnames : ∀ name ∈ i.names params n, '\'' ∉ name.toList) :
    Lexes ((i.pieces params n).flatMap fun p => (p.write .mysql).toList) (i.lexemes params n) := by
  cases i with
  | literal content =>
    have heq : ((literal content).pieces params n).flatMap (fun p => (p.write .mysql).toList) =
        '\'' :: (content ++ ['\'']) := by
      simp [pieces, List.flatMap_map]
    rw [heq]
    exact lexes_literal hclosed.1 hclosed.2
  | placeholder p =>
    cases hv : params[n]? with
    | none =>
      simp only [pieces, lexemes, hv]
      exact .nil
    | some v =>
      simp only [names, hv, Option.map_some, Option.getD_some] at hnames
      simp only [pieces, lexemes, hv, Option.map_some, Option.getD_some]
      refine Lexes.flatMap fun piece hpiece => Piece.lexes_write
        (Placeholder.isWritten_of_mem_render (Rendering.mem_of_mem_pieces hpiece)) ?_
      rintro raw rfl
      exact hnames raw (Placeholder.mem_names_of_mem_pieces hpiece)
  | plain c =>
    have hc : '\'' ∉ [c] := fun h => hclosed (List.mem_singleton.1 h).symm
    simpa [pieces, lexemes] using lexes_code hc

lemma filterMap_content?_lexemes {params : List Value} {n : Nat} {i : Item}
    (h : i.error? params n = none) :
    (i.lexemes params n).filterMap Lexeme.content? = i.contents params n := by
  cases i with
  | placeholder p =>
    obtain ⟨v, hv, hp⟩ := (error?_eq_none_iff params n _).1 h p rfl
    simp only [lexemes, contents, hv, Option.map_some, Option.getD_some]
    rw [← Placeholder.filterMap_literal?_of_accepted hp, List.filterMap_flatMap,
      List.map_filterMap, List.filterMap_eq_flatMap_toList]
    exact List.flatMap_congr fun piece _ => Piece.filterMap_content?_lexemes piece
  | literal content => rfl
  | plain c => rfl

end Item

/-! ### Bindings that differ in strings -/

/-- Each placeholder of parts is bound again, to a value that differs at most in the strings that
the placeholder writes as literals. -/
def RebindsStrings (parts : List Part) (params params' : List Value) : Prop :=
  ∀ (i : Nat) (p : Placeholder) (v : Value), (placeholders parts)[i]? = some p →
    params[i]? = some v → ∃ w, params'[i]? = some w ∧ p.blanked w = p.blanked v

variable {parts : List Part} {params params' : List Value}

lemma RebindsStrings.acceptsAll (h : RebindsStrings parts params params')
    (ha : AcceptsAll parts params) : AcceptsAll parts params' := by
  intro i p hp
  obtain ⟨v, hv, hacc⟩ := ha i p hp
  obtain ⟨w, hw, heq⟩ := h i p v hp hv
  exact ⟨w, hw, (Placeholder.refusal?_render_of_blanked_eq heq).trans hacc⟩

lemma mem_placeholders_of_mem_keptItems {b : Binding} {i : Nat} {p : Placeholder}
    (h : (i, .placeholder p) ∈ keptItems b 0 parts) : (placeholders parts)[i]? = some p :=
  ((placeholder_mem_numbered_iff ..).1 (mem_numbered_of_mem_keptItems h)).2

lemma error?_of_mem_keptItems {b : Binding} {x : Nat × Item} (ha : AcceptsAll parts params)
    (hx : x ∈ keptItems b 0 parts) : x.2.error? params x.1 = none :=
  List.findSome?_eq_none_iff.1 ((firstError?_eq_none_iff params parts).2 ha) x
    (mem_numbered_of_mem_keptItems hx)

/-- Other strings do not change the names of an item, nor what it shows outside literals. -/
lemma RebindsStrings.item (h : RebindsStrings parts params params')
    (ha : AcceptsAll parts params) {b : Binding} {x : Nat × Item} (hx : x ∈ keptItems b 0 parts) :
    x.2.names params' x.1 = x.2.names params x.1 ∧
      (x.2.lexemes params' x.1).map Lexeme.outline =
        (x.2.lexemes params x.1).map Lexeme.outline := by
  obtain ⟨i, x⟩ := x
  cases x with
  | placeholder p =>
    have hp := mem_placeholders_of_mem_keptItems hx
    obtain ⟨v, hv, -⟩ := ha i p hp
    obtain ⟨w, hw, heq⟩ := h i p v hp hv
    simp only [Item.names, Item.lexemes, hv, hw, Option.map_some, Option.getD_some]
    refine ⟨Placeholder.names_of_blanked_eq heq, ?_⟩
    have houtline (pieces : List Piece) :
        (pieces.flatMap Piece.lexemes).map Lexeme.outline =
          (pieces.map Piece.blanked).flatMap fun q => q.lexemes.map Lexeme.outline := by
      rw [List.map_flatMap, List.flatMap_map]
      exact List.flatMap_congr fun q _ => (Piece.outline_lexemes_blanked q).symm
    rw [houtline, houtline, Placeholder.pieces_render_of_blanked_eq heq]
  | literal content => exact ⟨rfl, rfl⟩
  | plain c => exact ⟨rfl, rfl⟩

/-! ### Statements -/

lemma ConsistsOf.isClosed {template : String} (h : ConsistsOf template parts)
    (hown : ∀ content, .literal content ∈ parts.flatMap Part.items → '\\' ∉ content) {i : Item}
    (hi : i ∈ parts.flatMap Part.items) : i.IsClosed := by
  obtain ⟨text, cs, hf⟩ := h.exists_front hi
  cases hf with
  | literal hq => exact ⟨hq, hown _ hi⟩
  | typed _ => trivial
  | bare _ => trivial
  | plain hc => exact fun heq => hc (heq ▸ List.mem_cons_self)

def lexemes (b : Binding) (parts : List Part) : List Lexeme :=
  (keptItems b 0 parts).flatMap fun x => x.2.lexemes b.params x.1

lemma lex_composed {b : Binding} (ha : AcceptsAll parts b.params)
    (hclosed : ∀ i ∈ parts.flatMap Part.items, i.IsClosed)
    (hnames : ∀ x ∈ keptItems b 0 parts, ∀ name ∈ x.2.names b.params x.1, '\'' ∉ name.toList) :
    lex (composed .mysql b 0 parts) = some (lexemes b parts) := by
  refine Lexes.lex_eq ?_
  rw [composed_eq_writeAll .mysql ((firstError?_eq_none_iff b.params parts).2 ha),
    Piece.toList_writeAll, partPieces_eq_keptItems, List.flatMap_assoc]
  refine Lexes.flatMap fun x hx => Item.lexes_pieces (hclosed _ ?_) (hnames x hx)
  exact mem_of_mem_numbered (mem_numbered_of_mem_keptItems hx)

lemma filterMap_content?_lexemes {b : Binding} (ha : AcceptsAll parts b.params) :
    (lexemes b parts).filterMap Lexeme.content? =
      (keptItems b 0 parts).flatMap fun x => x.2.contents b.params x.1 := by
  rw [lexemes, List.filterMap_flatMap]
  exact List.flatMap_congr fun x hx =>
    Item.filterMap_content?_lexemes (error?_of_mem_keptItems ha hx)

/-- A statement with backslash escapes ends outside literals, and its literals are, in order, those
of the template and the strings bound to it, in the parts that stay. With other strings in their
places, as long as the same parts stay, the code around the literals is the same. -/
theorem lex_render_mysql {template : String} {skip : Value} {sql : String}
    (h : ConsistsOf template parts)
    (hown : ∀ content, .literal content ∈ parts.flatMap Part.items → '\\' ∉ content)
    (hsql : render .mysql template params skip = .ok sql)
    (hnames : ∀ x ∈ keptItems ⟨params, skip⟩ 0 parts, ∀ name ∈ x.2.names params x.1,
      '\'' ∉ name.toList) :
    ∃ ls, lex sql = some ls ∧
      ls.filterMap Lexeme.content? =
        ((keptItems ⟨params, skip⟩ 0 parts).flatMap fun x => x.2.contents params x.1) ∧
      ∀ params', RebindsStrings parts params params' →
        keptParts ⟨params', skip⟩ 0 parts = keptParts ⟨params, skip⟩ 0 parts →
        ∃ sql' ls', render .mysql template params' skip = .ok sql' ∧ lex sql' = some ls' ∧
          ls'.map Lexeme.outline = ls.map Lexeme.outline := by
  have hclosed : ∀ i ∈ parts.flatMap Part.items, i.IsClosed := fun i hi => h.isClosed hown hi
  obtain ⟨ha, rfl⟩ := (render_eq_ok_iff_acceptsAll h).1 hsql
  refine ⟨lexemes ⟨params, skip⟩ parts, lex_composed ha hclosed hnames,
    filterMap_content?_lexemes ha, ?_⟩
  intro params' hp hkept
  have hitems : keptItems ⟨params', skip⟩ 0 parts = keptItems ⟨params, skip⟩ 0 parts := by
    rw [keptItems, hkept, keptItems]
  have hnames' : ∀ x ∈ keptItems ⟨params', skip⟩ 0 parts, ∀ name ∈ x.2.names params' x.1,
      '\'' ∉ name.toList := by
    intro x hx
    rw [hitems] at hx
    rw [(hp.item ha hx).1]
    exact hnames x hx
  have houtline : (lexemes ⟨params', skip⟩ parts).map Lexeme.outline =
      (lexemes ⟨params, skip⟩ parts).map Lexeme.outline := by
    rw [lexemes, lexemes, hitems, List.map_flatMap, List.map_flatMap]
    exact List.flatMap_congr fun x hx => (hp.item ha hx).2
  have hsql' : render .mysql template params' skip =
      .ok (composed .mysql ⟨params', skip⟩ 0 parts) :=
    (render_eq_ok_iff_acceptsAll h).2 ⟨hp.acceptsAll ha, rfl⟩
  exact ⟨_, _, hsql', lex_composed (hp.acceptsAll ha) hclosed hnames', houtline⟩

/-- Quotes and backslashes in the strings of a statement, next to a literal of the template. -/
theorem lex_render_quotesAndBackslashes :
    ∃ ls, lex "'it\\'s''x'`t`'\\\\', 1" = some ls ∧
      ls.filterMap Lexeme.content? = [['i', 't', '\'', 's'], ['x'], ['\\']] ∧
      ∃ sql' ls', render .mysql "?'x'\x7b?#?a\x7d"
          [.string "", .string "t", .list [.string "'", .int 1]] .null = .ok sql' ∧
        lex sql' = some ls' ∧ ls'.map Lexeme.outline = ls.map Lexeme.outline := by
  have h : ConsistsOf "?'x'\x7b?#?a\x7d" [.item (.placeholder .generic), .item (.literal ['x']),
      .block [.placeholder .identifier, .placeholder .array]] :=
    .next (.bare (by decide)) (.next (@Front.literal ['x'] _ (by decide))
      (.next .opening (.next (.typed rfl) (.next (.typed rfl) (.next .closing .done)))))
  have hsql : render .mysql "?'x'\x7b?#?a\x7d"
      [.string "it's", .string "t", .list [.string "\\", .int 1]] .null =
        .ok "'it\\'s''x'`t`'\\\\', 1" := by decide +kernel
  have hown : ∀ content, .literal content ∈ [Item.placeholder .generic, .literal ['x'],
      .placeholder .identifier, .placeholder .array] → '\\' ∉ content := by
    intro content hc
    simp only [List.mem_cons, Item.literal.injEq, reduceCtorEq, List.not_mem_nil, or_false,
      false_or] at hc
    subst hc
    decide
  obtain ⟨ls, hlex, hcontents, hother⟩ := lex_render_mysql h hown hsql (by decide)
  refine ⟨ls, hlex, hcontents.trans rfl, hother _ ?_ rfl⟩
  intro i p v hp hv
  match i with
  | 0 => cases hp; cases hv; exact ⟨_, rfl, rfl⟩
  | 1 => cases hp; cases hv; exact ⟨_, rfl, rfl⟩
  | 2 => cases hp; cases hv; exact ⟨_, rfl, rfl⟩
  | i + 3 => cases hp

end Template

end QueryTemplate
