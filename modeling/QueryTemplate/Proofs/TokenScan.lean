import QueryTemplate.Proofs.Statement
import QueryTemplate.Text.Utf8

/-!
# Scanning by tokens

A scan of a text does the same as one that takes the tokens of the text one by one. The scan by
characters leaves a question mark open until it has seen the next character, so the two differ
where a text ends in a question mark inside a block: there the block is reported and the
placeholder is not resolved.
-/

namespace QueryTemplate.Template

def Item.text : Item → List Char
  | literal content => '\'' :: (content ++ ['\''])
  | placeholder p => p.text.toList
  | plain c => [c]

def Token.text : Token → List Char
  | item i => i.text
  | opening => ['\x7b']
  | closing => ['\x7d']

namespace Scan

variable (b : Binding)

/-- Moves behind a text. -/
def moveBy (bytes : Nat) (s : Scan Piece) : Scan Piece := { s with offset := s.offset + bytes }

def withMode (m : Mode) (s : Scan Piece) : Scan Piece := { s with mode := m }

def bindNext (s : Scan Piece) : Scan Piece := { s with bound := s.bound + 1 }

def takeItem (s : Scan Piece) (i : Item) : Scan Piece :=
  match i with
  | .placeholder p => s.resolve b p
  | i => s.emit (i.text.map .source)

/-- Takes a token in one step. A failed scan stays as it is. -/
def takeToken (s : Scan Piece) (t : Token) : Scan Piece :=
  match s.mode with
  | .failed _ => s
  | _ =>
    let next := match t with
      | .item i => s.takeItem b i
      | .opening => s.openBlock
      | .closing => s.closeBlock b.skip
    next.moveBy (Text.byteLength t.text)

def takeTokens (s : Scan Piece) (ts : List Token) : Scan Piece := ts.foldl (takeToken b) s

@[simp] lemma takeTokens_nil (s : Scan Piece) : s.takeTokens b [] = s := rfl

@[simp] lemma takeTokens_cons (s : Scan Piece) (t : Token) (ts : List Token) :
    s.takeTokens b (t :: ts) = (s.takeToken b t).takeTokens b ts := rfl

lemma takeTokens_append (s : Scan Piece) (ts us : List Token) :
    s.takeTokens b (ts ++ us) = (s.takeTokens b ts).takeTokens b us := by
  simp [takeTokens, List.foldl_append]

/-- The run that a scan comes to when a text is left to read. -/
def outcome (s : Scan Piece) (cs : List Char) : Run Piece := ((s.read b cs).finish b).toRun

lemma outcome_cons (s : Scan Piece) (c : Char) (cs : List Char) :
    s.outcome b (c :: cs) = (s.step b c).outcome b cs := rfl

lemma outcome_append (s : Scan Piece) (cs ds : List Char) :
    s.outcome b (cs ++ ds) = (s.read b cs).outcome b ds := by
  rw [outcome, read_append, outcome]

variable {b}

lemma outcome_of_failed {s : Scan Piece} {e : TemplateError} (h : s.mode = .failed e) (cs : List Char) :
    s.outcome b cs = s.toRun := by
  rw [outcome, read_of_failed b s cs h, finish, h]

lemma takeTokens_of_failed {s : Scan Piece} {e : TemplateError} (h : s.mode = .failed e)
    (ts : List Token) : s.takeTokens b ts = s := by
  induction ts with
  | nil => rfl
  | cons t ts ih => rw [takeTokens_cons, show s.takeToken b t = s by simp [takeToken, h], ih]

/-! ### Emitting and moving -/

@[simp] lemma emit_mode (ps : List Piece) (s : Scan Piece) : (s.emit ps).mode = s.mode := by
  cases h : s.block <;> simp [emit, h]

@[simp] lemma emit_offset (ps : List Piece) (s : Scan Piece) : (s.emit ps).offset = s.offset := by
  cases h : s.block <;> simp [emit, h]

@[simp] lemma emit_bound (ps : List Piece) (s : Scan Piece) : (s.emit ps).bound = s.bound := by
  cases h : s.block <;> simp [emit, h]

@[simp] lemma emit_dropped (ps : List Piece) (s : Scan Piece) :
    (s.emit ps).dropped = s.dropped := by
  cases h : s.block <;> simp [emit, h]

@[simp] lemma emit_events (ps : List Piece) (s : Scan Piece) :
    (s.emit ps).events = s.events := by
  cases h : s.block <;> simp [emit, h]

@[simp] lemma emit_calls (ps : List Piece) (s : Scan Piece) :
    (s.emit ps).calls = s.calls ++ ps.filterMap Piece.call? := by
  cases h : s.block <;> simp [emit, h]

/-- The blocks that a scan has left out, as its log tells. -/
def drops (s : Scan Piece) : List Drop := s.events.toList.filterMap Event.drop?

lemma drops_of_push {s t : Scan Piece} {d : Drop}
    (h : t.events = s.events.push (.blockDropped d)) : t.drops = s.drops ++ [d] := by
  simp [drops, h, Event.drop?]

@[simp] lemma emit_drops (ps : List Piece) (s : Scan Piece) : (s.emit ps).drops = s.drops := by
  simp [drops]

lemma emit_withMode (ps : List Piece) (m : Mode) (s : Scan Piece) :
    (s.withMode m).emit ps = (s.emit ps).withMode m := by
  cases h : s.block <;> simp [emit, withMode, h]

lemma emit_moveBy (ps : List Piece) (n : Nat) (s : Scan Piece) :
    (s.moveBy n).emit ps = (s.emit ps).moveBy n := by
  cases h : s.block <;> simp [emit, moveBy, h]

lemma appendList_append {α : Type} (xs : Array α) (as bs : List α) :
    xs ++ as ++ bs = xs ++ (as ++ bs) := Array.ext' (by simp)

@[simp] lemma emit_nil (s : Scan Piece) : s.emit [] = s := by
  rcases s with ⟨_, _, _, block, _, _, _, _⟩
  cases block <;> simp [emit]

lemma emit_emit (ps qs : List Piece) (s : Scan Piece) : (s.emit ps).emit qs = s.emit (ps ++ qs) := by
  cases h : s.block <;> simp [emit, h, appendList_append]

lemma moveBy_withMode (n : Nat) (m : Mode) (s : Scan Piece) :
    (s.withMode m).moveBy n = (s.moveBy n).withMode m := rfl

@[simp] lemma withMode_withMode (m m' : Mode) (s : Scan Piece) :
    (s.withMode m).withMode m' = s.withMode m' := rfl

@[simp] lemma withMode_self {s : Scan Piece} {m : Mode} (h : s.mode = m) : s.withMode m = s := by
  rw [← h, withMode]

lemma moveBy_moveBy (m n : Nat) (s : Scan Piece) : (s.moveBy m).moveBy n = s.moveBy (m + n) := by
  simp [moveBy, Nat.add_assoc]

lemma read_inLiteral {s : Scan Piece} {start : Nat} (h : s.mode = .literal start) {content : List Char}
    (hq : '\'' ∉ content) :
    s.read b content = (s.emit (content.map .source)).moveBy (Text.byteLength content) := by
  induction content generalizing s with
  | nil => simp [moveBy, Text.byteLength]
  | cons c content ih =>
    have hc : c ≠ '\'' := fun he => hq (he ▸ List.mem_cons_self)
    have hs : s.step b c = (s.emit [.source c]).moveBy c.utf8Size := by
      simp [step, h, inLiteral, hc, advance, moveBy]
    have hm : (s.step b c).mode = .literal start := by rw [hs]; simpa [moveBy] using h
    rw [read_cons, ih hm (fun hm => hq (.tail _ hm)), hs, emit_moveBy, emit_emit, moveBy_moveBy]
    rfl

/-! ### Resolving a placeholder -/

@[simp] lemma record_mode (v : Value) (s : Scan Piece) : (s.record v).mode = s.mode := by
  cases h : s.block <;> simp [record, h]

@[simp] lemma record_offset (v : Value) (s : Scan Piece) : (s.record v).offset = s.offset := by
  cases h : s.block <;> simp [record, h]

@[simp] lemma record_bound (v : Value) (s : Scan Piece) : (s.record v).bound = s.bound := by
  cases h : s.block <;> simp [record, h]

@[simp] lemma record_dropped (v : Value) (s : Scan Piece) :
    (s.record v).dropped = s.dropped := by
  cases h : s.block <;> simp [record, h]

@[simp] lemma record_events (v : Value) (s : Scan Piece) : (s.record v).events = s.events := by
  cases h : s.block <;> simp [record, h]

@[simp] lemma record_drops (v : Value) (s : Scan Piece) : (s.record v).drops = s.drops := by
  simp [drops]

@[simp] lemma record_calls (v : Value) (s : Scan Piece) : (s.record v).calls = s.calls := by
  cases h : s.block <;> simp [record, h]

lemma record_moveBy (v : Value) (n : Nat) (s : Scan Piece) :
    (s.moveBy n).record v = (s.record v).moveBy n := by
  cases h : s.block <;> simp [record, moveBy, h]

lemma resolve_of_missing {s : Scan Piece} (h : b.params[s.bound]? = none) (p : Placeholder) :
    s.resolve b p = s.fail (.argument (.missing s.bound b.params.length)) := by
  simp only [resolve, h]

/-- A placeholder binds its parameter and writes what comes before a refusal, if it refuses the
parameter. -/
lemma resolve_of_param {s : Scan Piece} {v : Value} (h : b.params[s.bound]? = some v)
    (p : Placeholder) :
    s.resolve b p =
      ((s.bindNext.record v).emit (p.render v).pieces).withMode
        ((p.render v).refusal?.elim s.mode fun refusal => .failed (.argument (.refused refusal))) := by
  simp only [resolve, h]
  cases (p.render v).refusal? with
  | some refusal => rfl
  | none => exact (withMode_self (by simp)).symm

@[simp] lemma resolve_offset (b : Binding) (p : Placeholder) (s : Scan Piece) :
    (s.resolve b p).offset = s.offset := by
  cases hv : b.params[s.bound]? with
  | none => rw [resolve_of_missing hv, fail]
  | some v => simp [resolve_of_param hv, withMode, bindNext]

/-! ### The token at the front -/

/-- The scan reads plain text, or it has failed. -/
def IsSettled (s : Scan Piece) : Prop := s.mode = .plain ∨ ∃ e, s.mode = .failed e

lemma resolve_moveBy (p : Placeholder) (n : Nat) (s : Scan Piece) :
    (s.moveBy n).resolve b p = (s.resolve b p).moveBy n := by
  have hparam : b.params[(s.moveBy n).bound]? = b.params[s.bound]? := rfl
  cases hv : b.params[s.bound]? with
  | none =>
    rw [resolve_of_missing hv, resolve_of_missing (hparam.trans hv)]
    rfl
  | some v =>
    have hbind : (s.moveBy n).bindNext = s.bindNext.moveBy n := rfl
    rw [resolve_of_param hv, resolve_of_param (hparam.trans hv), hbind, record_moveBy, emit_moveBy]
    rfl

lemma isSome_block_resolve (p : Placeholder) (s : Scan Piece) :
    (s.resolve b p).block.isSome = s.block.isSome := by
  cases hv : b.params[s.bound]? with
  | none => rw [resolve_of_missing hv, fail]
  | some v =>
    rw [resolve_of_param hv]
    cases hb : s.block <;> simp [bindNext, record, emit, withMode, hb]

lemma isSettled_resolve {s : Scan Piece} (h : s.mode = .plain) (p : Placeholder) :
    (s.resolve b p).IsSettled := by
  cases hv : b.params[s.bound]? with
  | none => exact .inr ⟨_, congrArg mode (resolve_of_missing hv p)⟩
  | some v =>
    rw [resolve_of_param hv]
    cases (p.render v).refusal? with
    | none => exact .inl h
    | some refusal => exact .inr ⟨.argument (.refused refusal), rfl⟩

lemma isSettled_takeToken {s : Scan Piece} (h : s.IsSettled) (t : Token) :
    (s.takeToken b t).IsSettled := by
  rcases h with h | ⟨e, h⟩
  · simp only [takeToken, h]
    cases t with
    | item i =>
      cases i with
      | placeholder p => exact isSettled_resolve h p
      | literal content => exact .inl (by simpa [takeItem, moveBy] using h)
      | plain c => exact .inl (by simpa [takeItem, moveBy] using h)
    | opening =>
      cases hb : s.block with
      | none => exact .inl (by simpa [openBlock, moveBy, hb] using h)
      | some blk => exact .inr ⟨_, by simp [openBlock, moveBy, fail, hb]; rfl⟩
    | closing =>
      cases hb : s.block with
      | none => exact .inr ⟨_, by simp [closeBlock, moveBy, fail, hb]; rfl⟩
      | some blk => exact .inl (by simp only [closeBlock, hb]; split <;> simpa [moveBy] using h)
  · exact .inr ⟨e, by simp [takeToken, h]⟩

lemma finish_of_isSettled {s : Scan Piece} (h : s.IsSettled) (hb : s.block = none) : s.finish b = s := by
  rcases h with h | ⟨e, h⟩ <;> simp [finish, h, hb]

lemma byteLength_placeholder {c : Char} {p : Placeholder} (h : Placeholder.ofSuffix? c = some p) :
    Text.byteLength p.text.toList = '?'.utf8Size + c.utf8Size := by
  unfold Placeholder.ofSuffix? at h
  split at h <;> cases h <;> rfl

lemma step_question {s : Scan Piece} (h : s.mode = .plain) :
    s.step b '?' = (s.moveBy '?'.utf8Size).withMode .question := by
  simp [step, h, plain, advance, moveBy, withMode]

lemma step_quote {s : Scan Piece} (h : s.mode = .plain) : s.step b '\'' =
    ((s.emit [.source '\'']).moveBy '\''.utf8Size).withMode (.literal s.offset) := by
  rw [← moveBy_withMode, ← emit_withMode]
  simp [step, h, plain, advance, moveBy, withMode]

lemma mode_step_quote {s : Scan Piece} (h : s.mode = .plain) :
    (s.step b '\'').mode = .literal s.offset := by
  rw [step_quote h, withMode]

lemma mode_read_openLiteral {s : Scan Piece} (h : s.mode = .plain) {content : List Char}
    (hq : '\'' ∉ content) : (s.read b ('\'' :: content)).mode = .literal s.offset := by
  rw [read_cons, read_inLiteral (mode_step_quote h) hq]
  simpa [moveBy] using mode_step_quote h

lemma read_literal {s : Scan Piece} (h : s.mode = .plain) {content : List Char} (hq : '\'' ∉ content) :
    s.read b ('\'' :: (content ++ ['\''])) = s.takeToken b (.item (.literal content)) := by
  have hclose : ∀ t : Scan Piece, t.mode = .literal s.offset →
      t.step b '\'' = ((t.emit [.source '\'']).moveBy '\''.utf8Size).withMode .plain := by
    intro t ht
    rw [← moveBy_withMode, ← emit_withMode]
    simp [step, ht, inLiteral, advance, moveBy, withMode]
  have hs : '\'' :: (content ++ ['\'']) = '\'' :: content ++ ['\''] := rfl
  rw [hs, read_append, read_cons _ _ _ [], read_nil, hclose _ (mode_read_openLiteral h hq),
    read_cons, read_inLiteral (mode_step_quote h) hq, step_quote h]
  simp only [emit_withMode, moveBy_withMode, withMode_withMode, emit_moveBy, emit_emit,
    moveBy_moveBy]
  rw [withMode_self (by simpa [moveBy] using h)]
  simp [takeToken, h, takeItem, Token.text, Item.text, Text.byteLength, Text.byteLength_append,
    Nat.add_assoc]

lemma read_typed {s : Scan Piece} (h : s.mode = .plain) {c : Char} {p : Placeholder}
    (hp : Placeholder.ofSuffix? c = some p) :
    s.read b ['?', c] = s.takeToken b (.item (.placeholder p)) := by
  have hc : c ≠ '?' := fun he => by rw [he] at hp; cases hp
  have hstep : (s.step b '?').step b c =
      ((s.moveBy '?'.utf8Size).resolve b p).moveBy c.utf8Size := by
    rw [step_question h]
    simp [step, withMode, moveBy, afterQuestion, hc, hp, advance, ← h]
  rw [read_cons, read_cons, read_nil, hstep, resolve_moveBy, moveBy_moveBy,
    ← byteLength_placeholder hp]
  simp [takeToken, h, takeItem, Token.text, Item.text]

lemma read_opening {s : Scan Piece} (h : s.mode = .plain) :
    s.read b ['\x7b'] = s.takeToken b .opening := by
  simp [step, takeToken, h, plain, advance, moveBy, Token.text, Text.byteLength]

lemma read_closing {s : Scan Piece} (h : s.mode = .plain) :
    s.read b ['\x7d'] = s.takeToken b .closing := by
  simp [step, takeToken, h, plain, advance, moveBy, Token.text, Text.byteLength]

lemma read_plain {s : Scan Piece} (h : s.mode = .plain) {c : Char} (hc : c ∉ marks) :
    s.read b [c] = s.takeToken b (.item (.plain c)) := by
  have hp : s.plain b c = s.emit [.source c] := by
    unfold plain
    split <;> first | rfl | exact absurd (by decide) hc
  simp [step, takeToken, h, hp, takeItem, Item.text, Token.text, advance, moveBy, Text.byteLength]

lemma outcome_question_cons {s : Scan Piece} (h : s.mode = .plain) {c : Char} {cs : List Char}
    (hs : StandsAlone (c :: cs)) :
    (s.withMode .question).outcome b (c :: cs) = (s.resolve b .generic).outcome b (c :: cs) := by
  have hplain : ({ s.withMode .question with mode := .plain } : Scan Piece) = s := withMode_self h
  have hstep : (s.withMode .question).step b c = (match (s.resolve b .generic).mode with
      | .failed _ => s.resolve b .generic
      | _ => (s.resolve b .generic).plain b c).advance c := by
    simp only [step, afterQuestion, withMode, if_neg hs.1, hs.2]
    rewrite [← hplain]
    rfl
  rcases isSettled_resolve h .generic with hr | ⟨e, hr⟩
  · rw [outcome_cons, outcome_cons, hstep, hr, step, hr]
  · have ha : ((s.resolve b .generic).advance c).mode = .failed e := hr
    rw [outcome_cons, hstep, hr, outcome_of_failed hr]
    exact outcome_of_failed ha cs

/-- A question mark without a suffix is resolved when the next character shows that there is none.
At the end of a text this happens outside blocks only. -/
lemma outcome_bare {s : Scan Piece} (h : s.mode = .plain) {cs : List Char} (hs : StandsAlone cs)
    (hend : cs = [] → s.block = none) :
    s.outcome b ('?' :: cs) = (s.takeToken b (.item (.placeholder .generic))).outcome b cs := by
  have hmove : (s.moveBy '?'.utf8Size).mode = .plain := h
  have htake : s.takeToken b (.item (.placeholder .generic)) =
      (s.moveBy '?'.utf8Size).resolve b .generic := by
    rw [resolve_moveBy]
    simp [takeToken, h, takeItem, Token.text, Item.text, Placeholder.text, Text.byteLength]
  rw [outcome_cons, step_question h, htake]
  cases cs with
  | cons c cs => exact outcome_question_cons hmove hs
  | nil =>
    have hb : s.block = none := hend rfl
    have hclosed : ((s.moveBy '?'.utf8Size).resolve b .generic).block = none := by
      rw [← Option.not_isSome_iff_eq_none, isSome_block_resolve]
      simp [moveBy, hb]
    have hfinish : ((s.moveBy '?'.utf8Size).withMode .question).finish b =
        (s.moveBy '?'.utf8Size).resolve b .generic := by
      rw [← withMode_self hmove]
      simp [finish, withMode, moveBy, hb]
    rw [outcome, read_nil, hfinish, outcome, read_nil,
      finish_of_isSettled (isSettled_resolve hmove _) hclosed]

/-- A token at the front of a text is taken in one step. -/
theorem outcome_front {s : Scan Piece} (h : s.mode = .plain) {cs cs' : List Char} {t : Token}
    (hf : Front cs t cs')
    (hend : cs' = [] → t = .item (.placeholder .generic) → s.block = none) :
    s.outcome b cs = (s.takeToken b t).outcome b cs' := by
  cases hf with
  | @literal content _ hq =>
    have hs : '\'' :: (content ++ '\'' :: cs') = '\'' :: (content ++ ['\'']) ++ cs' := by simp
    rw [hs, outcome_append, read_literal h hq]
  | @typed c p _ hp =>
    rw [show '?' :: c :: cs' = ['?', c] ++ cs' from rfl, outcome_append, read_typed h hp]
  | bare hs => exact outcome_bare h hs (fun he => hend he rfl)
  | opening => rw [← List.singleton_append, outcome_append, read_opening h]
  | closing => rw [← List.singleton_append, outcome_append, read_closing h]
  | plain hc => rw [← List.singleton_append, outcome_append, read_plain h hc]

/-! ### Runs that end in a statement -/

lemma statement_ne_ok_of_failed {s : Scan Piece} {e : TemplateError} (h : s.mode = .failed e)
    (ps : List Piece) : s.toRun.statement ≠ .ok ps := by
  simp [toRun, h]

lemma outcome_openBlock_ne_ok {s : Scan Piece} {blk : Block Piece} (hb : s.block = some blk)
    (ps : List Piece) : (s.outcome b []).statement ≠ .ok ps := by
  cases h : s.mode <;> simp [outcome, finish, toRun, fail, h, hb]

lemma outcome_inLiteral_ne_ok {s : Scan Piece} {start : Nat} (h : s.mode = .literal start)
    (ps : List Piece) : (s.outcome b []).statement ≠ .ok ps := by
  cases hb : s.block <;> simp [outcome, finish, toRun, fail, h, hb]

/-- A text without a token at its front has no statement, unless it is empty. -/
lemma outcome_stuck_ne_ok {s : Scan Piece} (h : s.mode = .plain) {cs : List Char} (hs : Stuck cs)
    (hne : cs ≠ []) (ps : List Piece) : (s.outcome b cs).statement ≠ .ok ps := by
  cases hs with
  | empty => exact absurd rfl hne
  | double =>
    rw [outcome_cons, outcome_cons, step_question h]
    have hf : (((s.moveBy '?'.utf8Size).withMode .question).step b '?').mode =
        .failed (.malformed .doublePlaceholder (s.offset + '?'.utf8Size)) := by
      simp [step, withMode, moveBy, afterQuestion, fail, advance]
    rw [outcome_of_failed hf]
    exact statement_ne_ok_of_failed hf ps
  | @openLiteral content hq =>
    rw [← List.append_nil ('\'' :: content), outcome_append]
    exact outcome_inLiteral_ne_ok (mode_read_openLiteral h hq) ps

/-- The braces of tokens close the open block, if there is one, and alternate from then on. -/
def Balances (s : Scan Piece) (ts : List Token) : Prop :=
  ∃ n, braces ts = if s.block.isSome then '\x7d' :: pairs n else pairs n

lemma balances_nil_iff (s : Scan Piece) : s.Balances [] ↔ s.block = none := by
  cases hb : s.block with
  | none => exact ⟨fun _ => rfl, fun _ => ⟨0, by simp [braces, hb]⟩⟩
  | some blk => simp [Balances, braces, hb]

lemma isSome_block_takeItem (s : Scan Piece) (i : Item) :
    (s.takeItem b i).block.isSome = s.block.isSome := by
  cases i with
  | placeholder p => exact isSome_block_resolve p s
  | literal content => cases hb : s.block <;> simp [takeItem, emit, hb]
  | plain c => cases hb : s.block <;> simp [takeItem, emit, hb]

/-- Unless a token makes a scan fail, what balances the scan before it balances the scan after
it. -/
lemma balances_cons_iff {s : Scan Piece} (h : s.mode = .plain) {t : Token}
    (ht : (s.takeToken b t).mode = .plain) (ts : List Token) :
    s.Balances (t :: ts) ↔ (s.takeToken b t).Balances ts := by
  cases t with
  | item i => simp [Balances, takeToken, h, moveBy, isSome_block_takeItem]
  | opening =>
    cases hb : s.block with
    | some blk => simp [takeToken, h, openBlock, hb, fail, moveBy] at ht
    | none =>
      simp only [Balances, braces_opening, takeToken, h, openBlock, hb, moveBy, Option.isSome_none,
        Option.isSome_some, if_true, Bool.false_eq_true, if_false]
      constructor
      · rintro ⟨n, hn⟩
        cases n with
        | zero => cases hn
        | succ n => exact ⟨n, (List.cons.inj hn).2⟩
      · rintro ⟨n, hn⟩
        exact ⟨n + 1, by rw [hn, pairs_succ]⟩
  | closing =>
    cases hb : s.block with
    | none => simp [takeToken, h, closeBlock, hb, fail, moveBy] at ht
    | some blk =>
      have hc : (s.takeToken b .closing).block = none := by
        simp only [takeToken, h, closeBlock, hb, moveBy]
        split <;> rfl
      simp [Balances, hb, hc]

lemma front_lastQuestion {cs : List Char} (h : Front cs (.item (.placeholder .generic)) []) :
    cs = ['?'] := by
  cases h with
  | bare _ => rfl
  | @typed c p _ hp =>
    unfold Placeholder.ofSuffix? at hp
    split at hp <;> cases hp

/-- A text with a statement splits into tokens whose braces balance. -/
theorem balances_of_outcome_eq_ok {cs rest : List Char} {ts : List Token} (h : Splits cs ts rest)
    (hr : Stuck rest) {s : Scan Piece} (hs : s.IsSettled) {ps : List Piece}
    (hok : (s.outcome b cs).statement = .ok ps) : rest = [] ∧ s.mode = .plain ∧ s.Balances ts := by
  induction h generalizing s with
  | @done cs =>
    rcases hs with hs | ⟨e, hs⟩
    · by_cases hne : cs = []
      · subst hne
        refine ⟨rfl, hs, (balances_nil_iff s).2 ?_⟩
        rw [← Option.not_isSome_iff_eq_none, Option.isSome_iff_exists]
        rintro ⟨blk, hb⟩
        exact outcome_openBlock_ne_ok hb ps hok
      · exact absurd hok (outcome_stuck_ne_ok hs hr hne ps)
    · rw [outcome_of_failed hs] at hok
      exact absurd hok (statement_ne_ok_of_failed hs ps)
  | @next cs t cs' ts rest hf h ih =>
    rcases hs with hs | ⟨e, hs⟩
    · have hend : cs' = [] → t = .item (.placeholder .generic) → s.block = none := by
        rintro rfl rfl
        rw [← Option.not_isSome_iff_eq_none, Option.isSome_iff_exists]
        rintro ⟨blk, hb⟩
        have hq : ((s.moveBy '?'.utf8Size).withMode .question).block = some blk := hb
        rw [front_lastQuestion hf, outcome_cons, step_question hs] at hok
        exact outcome_openBlock_ne_ok hq ps hok
      rw [outcome_front hs hf hend] at hok
      obtain ⟨rfl, hm, hb⟩ := ih hr (isSettled_takeToken (.inl hs) t) hok
      exact ⟨rfl, hs, (balances_cons_iff hs hm ts).2 hb⟩
    · rw [outcome_of_failed hs] at hok
      exact absurd hok (statement_ne_ok_of_failed hs ps)

/-- A text whose braces balance is taken token by token. -/
theorem outcome_of_balances {cs : List Char} {ts : List Token} (h : Splits cs ts []) {s : Scan Piece}
    (hs : s.IsSettled) (hb : s.mode = .plain → s.Balances ts) :
    s.outcome b cs = (s.takeTokens b ts).toRun := by
  generalize hr : ([] : List Char) = rest at h
  induction h generalizing s with
  | done =>
    subst hr
    rcases hs with hs | ⟨e, hs⟩
    · rw [outcome, read_nil, finish_of_isSettled (.inl hs) ((balances_nil_iff s).1 (hb hs))]
      rfl
    · rw [outcome_of_failed hs, takeTokens_nil]
  | @next cs t cs' ts rest hf h ih =>
    rcases hs with hs | ⟨e, hs⟩
    · have hend : cs' = [] → t = .item (.placeholder .generic) → s.block = none := by
        rintro rfl rfl
        subst hr
        cases h with
        | done => exact (balances_nil_iff s).1 (hb hs)
        | next hf' => exact absurd hf'.length_lt (Nat.not_lt_zero _)
      rw [outcome_front hs hf hend, takeTokens_cons]
      have hb' : (s.takeToken b t).mode = .plain → (s.takeToken b t).Balances ts :=
        fun hm => (balances_cons_iff hs hm ts).1 (hb hs)
      exact ih (isSettled_takeToken (.inl hs) t) hb' hr
    · rw [outcome_of_failed hs, takeTokens_of_failed hs]

end Scan

end QueryTemplate.Template
