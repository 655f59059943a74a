import QueryTemplate.Proofs.Media
import QueryTemplate.Proofs.TokenScan

/-!
# Running a template by its parts

A template that consists of parts has the statement that the parts compose when every placeholder
has a parameter that it accepts, and fails with the error of its first placeholder otherwise. A
template that does not consist of parts has no statement.
-/

namespace QueryTemplate.Template

namespace Scan

variable {b : Binding}

/-- Joins bound values and pieces to the open block, or to the statement when none is open. -/
def extend (vs : List Value) (ps : List Piece) (s : Scan Piece) : Scan Piece :=
  { s with
    bound := s.bound + vs.length
    calls := s.calls ++ ps.filterMap Piece.call?
    block := s.block.map fun blk => ⟨blk.start, blk.pieces ++ ps, blk.values ++ vs⟩
    pieces := if s.block.isSome then s.pieces else s.pieces ++ ps }

lemma extend_extend (vs ws : List Value) (ps qs : List Piece) (s : Scan Piece) :
    (s.extend vs ps).extend ws qs = s.extend (vs ++ ws) (ps ++ qs) := by
  cases h : s.block <;> simp [extend, h, appendList_append, Nat.add_assoc]

lemma extend_nil (s : Scan Piece) : s.extend [] [] = s := by
  rcases s with ⟨_, _, _, block, _, _, _, _⟩
  cases block <;> simp [extend]

lemma filterMap_call?_source (cs : List Char) :
    (cs.map Piece.source).filterMap Piece.call? = [] := by
  induction cs with
  | nil => rfl
  | cons c cs ih => exact ih

lemma emit_source (cs : List Char) (s : Scan Piece) :
    s.emit (cs.map .source) = s.extend [] (cs.map .source) := by
  cases hb : s.block <;>
    simp only [emit, extend, hb, Medium.calls_writeAll_piece, filterMap_call?_source] <;> simp

/-! ### Items -/

lemma takeItem_of_accepted {s : Scan Piece} {i : Item} (h : i.error? b.params s.bound = none) :
    s.takeItem b i = s.extend (i.value? b.params s.bound).toList (i.pieces b.params s.bound) := by
  cases i with
  | placeholder p =>
    cases hv : b.params[s.bound]? with
    | none => simp [Item.error?, hv] at h
    | some v =>
      have hr : (p.render v).refusal? = none := by simpa [Item.error?, hv] using h
      cases hb : s.block <;>
        simp [takeItem, resolve, hv, hr, record, emit, hb, extend, Item.value?, Item.pieces]
  | literal content => exact emit_source _ s
  | plain c => exact emit_source [c] s

lemma takeItem_of_refused {s : Scan Piece} {i : Item} {e : ArgumentError}
    (h : i.error? b.params s.bound = some e) : (s.takeItem b i).mode = .failed (.argument e) := by
  cases i with
  | placeholder p =>
    cases hv : b.params[s.bound]? with
    | none =>
      simp only [Item.error?, hv, Option.some.injEq] at h
      simp [takeItem, resolve, hv, fail, h]
    | some v =>
      simp only [Item.error?, hv, Option.map_eq_some_iff] at h
      obtain ⟨r, hr, rfl⟩ := h
      simp [takeItem, resolve, hv, hr, fail]
  | literal content => cases h
  | plain c => cases h

lemma takeToken_item {s : Scan Piece} (h : s.mode = .plain) (i : Item) :
    s.takeToken b (.item i) = (s.takeItem b i).moveBy (Text.byteLength i.text) := by
  simp [takeToken, h, Token.text]

lemma bound_takeToken_item {s : Scan Piece} (h : s.mode = .plain) {i : Item}
    (hi : i.error? b.params s.bound = none) :
    (s.takeToken b (.item i)).bound = s.bound + i.arity := by
  rw [takeToken_item h, takeItem_of_accepted hi, ← Item.length_value?_of_accepted hi]
  rfl

lemma mode_takeToken_item {s : Scan Piece} (h : s.mode = .plain) {i : Item}
    (hi : i.error? b.params s.bound = none) : (s.takeToken b (.item i)).mode = .plain := by
  rw [takeToken_item h, takeItem_of_accepted hi]
  exact h

def itemBytes (items : List Item) : Nat := (items.map fun i => Text.byteLength i.text).sum

lemma itemBytes_cons (i : Item) (items : List Item) :
    itemBytes (i :: items) = Text.byteLength i.text + itemBytes items := rfl

/-- Items without errors extend a scan by their values and pieces. -/
lemma takeTokens_items_of_accepted {s : Scan Piece} (hs : s.mode = .plain) {items : List Item}
    (h : firstError? b.params s.bound items = none) :
    s.takeTokens b (items.map .item) =
      (s.extend (values b.params s.bound items) (itemPieces b.params s.bound items)).moveBy
        (itemBytes items) := by
  induction items generalizing s with
  | nil => simp [extend_nil, moveBy, itemBytes]
  | cons i items ih =>
    rw [firstError?_cons, Option.or_eq_none_iff] at h
    obtain ⟨hi, hrest⟩ := h
    have hbound := bound_takeToken_item hs hi
    rw [List.map_cons, takeTokens_cons, ih (mode_takeToken_item hs hi) (hbound ▸ hrest), hbound,
      takeToken_item hs, takeItem_of_accepted hi, values_cons, itemPieces_cons, ← extend_extend,
      itemBytes_cons, ← moveBy_moveBy]
    rfl

/-- The first item with an error makes a scan fail with it. -/
lemma takeTokens_items_of_refused {s : Scan Piece} (hs : s.mode = .plain) {items : List Item}
    {e : ArgumentError} (h : firstError? b.params s.bound items = some e) :
    (s.takeTokens b (items.map .item)).mode = .failed (.argument e) := by
  induction items generalizing s with
  | nil => cases h
  | cons i items ih =>
    rw [firstError?_cons] at h
    rw [List.map_cons, takeTokens_cons]
    cases hi : i.error? b.params s.bound with
    | some e' =>
      rw [hi, Option.some_or, Option.some.injEq] at h
      have hfail : (s.takeToken b (.item i)).mode = .failed (.argument e) := by
        rw [takeToken_item hs, ← h]
        exact takeItem_of_refused hi
      rw [takeTokens_of_failed hfail, hfail]
    | none =>
      rw [hi, Option.none_or] at h
      exact ih (mode_takeToken_item hs hi) (bound_takeToken_item hs hi ▸ h)

lemma length_values_of_accepted {params : List Value} {n : Nat} {items : List Item}
    (h : firstError? params n items = none) :
    (values params n items).length = (items.map Item.arity).sum := by
  induction items generalizing n with
  | nil => rfl
  | cons i items ih =>
    rw [firstError?_cons, Option.or_eq_none_iff] at h
    rw [values_cons, List.length_append, Item.length_value?_of_accepted h.1, ih h.2, List.map_cons,
      List.sum_cons]

/-! ### Parts -/

/-- The scan `s'` is `s` after parts that take `n` parameters and give the pieces `ps`. -/
structure Precedes (s s' : Scan Piece) (n : Nat) (ps : List Piece) : Prop where
  mode : s'.mode = .plain
  block : s'.block = none
  bound : s'.bound = s.bound + n
  pieces : s'.pieces.toList = s.pieces.toList ++ ps

def opened (s : Scan Piece) : Scan Piece :=
  { s with block := some ⟨s.offset, #[], #[]⟩, offset := s.offset + 1 }

/-- The scan behind the brace that closes a block, which stays or is left out. -/
def closed (skip : Value) (blk : Block Piece) (s : Scan Piece) : Scan Piece :=
  if blk.isKept skip then
    { s with block := none, pieces := s.pieces ++ blk.pieces, offset := s.offset + 1 }
  else
    { s with
      block := none
      dropped := s.dropped + 1
      events := s.events.push (.blockDropped ⟨blk.start, s.offset⟩)
      offset := s.offset + 1 }

lemma takeToken_opening {s : Scan Piece} (h : s.mode = .plain) (hb : s.block = none) :
    s.takeToken b .opening = s.opened := by
  simp only [takeToken, h, openBlock, hb, Token.text, opened]
  rfl

lemma takeToken_closing {s : Scan Piece} (h : s.mode = .plain) {blk : Block Piece} (hb : s.block = some blk) :
    s.takeToken b .closing = s.closed b.skip blk := by
  simp only [takeToken, h, closeBlock, hb, Token.text, closed]
  split <;> rfl

/-- A part without errors joins its pieces to the statement. -/
lemma takeTokens_part_of_accepted {s : Scan Piece} (hs : s.mode = .plain) (hb : s.block = none)
    {part : Part} (h : firstError? b.params s.bound part.items = none) :
    s.Precedes (s.takeTokens b part.tokens) part.arity (part.pieces b s.bound) := by
  have harity : (values b.params s.bound part.items).length = part.arity :=
    length_values_of_accepted h
  cases part with
  | item i =>
    have htake : s.takeTokens b (Part.item i).tokens = _ := takeTokens_items_of_accepted hs h
    rw [htake]
    refine ⟨hs, ?_, ?_, ?_⟩
    · simp [extend, moveBy, hb]
    · simp [extend, moveBy, harity]
    · simp [extend, moveBy, hb, Part.pieces, Part.isKept]
  | block items =>
    have ho : s.opened.mode = .plain := hs
    let blk : Block Piece := ⟨s.offset, (#[] : Array Piece) ++ itemPieces b.params s.bound items,
      (#[] : Array Value) ++ values b.params s.bound items⟩
    let t : Scan Piece := (s.opened.extend (values b.params s.bound items)
      (itemPieces b.params s.bound items)).moveBy (itemBytes items)
    have htake : s.opened.takeTokens b (items.map .item) = t := takeTokens_items_of_accepted ho h
    have hm : t.mode = .plain := hs
    have hblk : t.block = some blk := rfl
    have hall : s.takeTokens b (Part.block items).tokens = t.closed b.skip blk := by
      rw [Part.tokens, takeTokens_cons, takeToken_opening hs hb, takeTokens_append, htake,
        takeTokens_cons, takeTokens_nil, takeToken_closing hm hblk]
    have hbound : t.bound = s.bound + (Part.block items).arity := congrArg (s.bound + ·) harity
    have hkept : blk.isKept b.skip = (Part.block items).isKept b s.bound := by
      simp [blk, Block.isKept, Part.isKept]
    rw [hall, closed, hkept, Part.pieces]
    cases (Part.block items).isKept b s.bound
    · exact ⟨hm, rfl, hbound, by simp [t, extend, moveBy, opened]⟩
    · exact ⟨hm, rfl, hbound, by simp [t, blk, extend, moveBy, opened, Part.items]⟩

/-- A part with an error makes a scan fail with the first one. -/
lemma takeTokens_part_of_refused {s : Scan Piece} (hs : s.mode = .plain) (hb : s.block = none)
    {part : Part} {e : ArgumentError} (h : firstError? b.params s.bound part.items = some e) :
    (s.takeTokens b part.tokens).mode = .failed (.argument e) := by
  cases part with
  | item i => exact takeTokens_items_of_refused hs h
  | block items =>
    have ho : s.opened.mode = .plain := hs
    have hfail : (s.opened.takeTokens b (items.map .item)).mode = .failed (.argument e) :=
      takeTokens_items_of_refused ho h
    rw [Part.tokens, takeTokens_cons, takeToken_opening hs hb, takeTokens_append,
      takeTokens_of_failed hfail, hfail]

lemma takeTokens_parts_of_accepted {s : Scan Piece} (hs : s.mode = .plain) (hb : s.block = none)
    {parts : List Part} (h : firstError? b.params s.bound (parts.flatMap Part.items) = none) :
    s.Precedes (s.takeTokens b (parts.flatMap Part.tokens)) (arity parts)
      (partPieces b s.bound parts) := by
  induction parts generalizing s with
  | nil => exact ⟨hs, hb, rfl, by simp [partPieces_nil]⟩
  | cons part parts ih =>
    rw [List.flatMap_cons, firstError?_append, Option.or_eq_none_iff] at h
    have hpart := takeTokens_part_of_accepted hs hb h.1
    have hrest := ih hpart.mode hpart.block (by rw [hpart.bound]; exact h.2)
    rw [List.flatMap_cons, takeTokens_append, partPieces_cons]
    refine ⟨hrest.mode, hrest.block, ?_, ?_⟩
    · rw [hrest.bound, hpart.bound, arity_cons, Nat.add_assoc]
    · rw [hrest.pieces, hpart.pieces, hpart.bound, List.append_assoc]

lemma takeTokens_parts_of_refused {s : Scan Piece} (hs : s.mode = .plain) (hb : s.block = none)
    {parts : List Part} {e : ArgumentError}
    (h : firstError? b.params s.bound (parts.flatMap Part.items) = some e) :
    (s.takeTokens b (parts.flatMap Part.tokens)).mode = .failed (.argument e) := by
  induction parts generalizing s with
  | nil => cases h
  | cons part parts ih =>
    rw [List.flatMap_cons, firstError?_append] at h
    rw [List.flatMap_cons, takeTokens_append]
    cases hp : firstError? b.params s.bound part.items with
    | some e' =>
      rw [hp, Option.some_or, Option.some.injEq] at h
      have hfail := takeTokens_part_of_refused hs hb (hp.trans (congrArg some h))
      rw [takeTokens_of_failed hfail, hfail]
    | none =>
      rw [hp, Option.none_or] at h
      have hpart := takeTokens_part_of_accepted hs hb hp
      exact ih hpart.mode hpart.block (by rw [hpart.bound]; exact h)

end Scan

/-! ### Runs -/

variable {template : String} {parts : List Part}

lemma run_eq_toRun (b : Binding) (h : ConsistsOf template parts) :
    run b template = (Scan.initial.takeTokens b (parts.flatMap Part.tokens)).toRun :=
  Scan.outcome_of_balances h (.inl rfl) (fun _ => exists_braces_parts parts)

/-- A template that consists of parts has the pieces of the parts or fails with the first error of
an item. -/
theorem statement_run (b : Binding) (h : ConsistsOf template parts) :
    (run b template).statement = match firstError? b.params 0 (parts.flatMap Part.items) with
      | some e => .error (.argument e)
      | none => .ok (partPieces b 0 parts) := by
  rw [run_eq_toRun b h]
  cases he : firstError? b.params 0 (parts.flatMap Part.items) with
  | some e =>
    have hfail : (Scan.initial.takeTokens b (parts.flatMap Part.tokens)).mode =
        .failed (.argument e) := Scan.takeTokens_parts_of_refused rfl rfl he
    simp [Scan.toRun, hfail]
  | none =>
    have hall : Scan.initial.Precedes (Scan.initial.takeTokens b (parts.flatMap Part.tokens)) _
        (partPieces b 0 parts) := Scan.takeTokens_parts_of_accepted rfl rfl he
    rw [Scan.toRun, hall.mode]
    exact congrArg Except.ok hall.pieces

/-- A template with a statement consists of parts. -/
theorem exists_parts_of_statement_eq_ok {b : Binding} {ps : List Piece}
    (h : (run b template).statement = .ok ps) : ∃ parts, ConsistsOf template parts := by
  obtain ⟨ts, rest, hs, hr⟩ := exists_splits template.toList
  obtain ⟨rfl, -, n, hn⟩ := Scan.balances_of_outcome_eq_ok hs hr (.inl rfl) h
  obtain ⟨parts, rfl⟩ := exists_parts_of_braces hn
  exact ⟨parts, hs⟩

lemma render_eq_error_iff {e : Escaper} {params : List Value} {skip : Value}
    {error : TemplateError} : render e template params skip = .error error ↔
      (run ⟨params, skip⟩ template).statement = .error error := by
  rw [render_eq]
  cases (run ⟨params, skip⟩ template).statement <;> simp [Except.map]

lemma exists_statement_of_render_eq_ok {e : Escaper} {params : List Value} {skip : Value}
    {sql : String} (h : render e template params skip = .ok sql) :
    ∃ ps, (run ⟨params, skip⟩ template).statement = .ok ps ∧ sql = Piece.writeAll e ps := by
  rw [render_eq] at h
  cases hs : (run ⟨params, skip⟩ template).statement with
  | error error => rw [hs] at h; cases h
  | ok ps => rw [hs] at h; exact ⟨ps, rfl, (Except.ok.inj h).symm⟩

lemma render_of_consistsOf (e : Escaper) (params : List Value) (skip : Value)
    (h : ConsistsOf template parts) :
    render e template params skip = match firstError? params 0 (parts.flatMap Part.items) with
      | some error => .error (.argument error)
      | none => .ok (composed e ⟨params, skip⟩ 0 parts) := by
  rw [render_eq, statement_run _ h]
  cases he : firstError? params 0 (parts.flatMap Part.items) with
  | some error => rfl
  | none => exact congrArg Except.ok (composed_eq_writeAll e he).symm

lemma exists_parts_of_render_eq_ok {e : Escaper} {params : List Value} {skip : Value}
    {sql : String} (h : render e template params skip = .ok sql) :
    ∃ parts, ConsistsOf template parts := by
  obtain ⟨ps, hs, -⟩ := exists_statement_of_render_eq_ok h
  exact exists_parts_of_statement_eq_ok hs

/-- The parts of a template decide with which parameters it is rendered, and as what. -/
lemma render_eq_ok_iff_acceptsAll {e : Escaper} {params : List Value} {skip : Value} {sql : String}
    (h : ConsistsOf template parts) :
    render e template params skip = .ok sql ↔
      AcceptsAll parts params ∧ sql = composed e ⟨params, skip⟩ 0 parts := by
  rw [render_of_consistsOf e params skip h, ← firstError?_eq_none_iff]
  cases firstError? params 0 (parts.flatMap Part.items) with
  | some error => simp
  | none => simp [eq_comm]

/-- A statement is rendered exactly when the template consists of parts and each placeholder
accepts the parameter at its own place in textual order, inside blocks and outside. The text is
then composed of the parts. -/
theorem render_eq_ok_iff (e : Escaper) (template : String) (params : List Value) (skip : Value)
    (sql : String) :
    render e template params skip = .ok sql ↔
      ∃ parts, ConsistsOf template parts ∧ AcceptsAll parts params ∧
        sql = composed e ⟨params, skip⟩ 0 parts := by
  constructor
  · intro h
    obtain ⟨parts, hparts⟩ := exists_parts_of_render_eq_ok h
    exact ⟨parts, hparts, (render_eq_ok_iff_acceptsAll hparts).1 h⟩
  · rintro ⟨parts, hparts, h⟩
    exact (render_eq_ok_iff_acceptsAll hparts).2 h

end QueryTemplate.Template
