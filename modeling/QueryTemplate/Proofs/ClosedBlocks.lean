import QueryTemplate.Proofs.Offsets

/-!
# Blocks that are closed

A run closes a block when it comes to the live brace that ends it: no character up to this brace is
a defect, and every placeholder up to it accepts its parameter. The parameters bound in the block
are those whose numbers lie between the numbers at its two braces, and the block is left out when
one of them equals the skip value. A scan records the blocks that it closed and left out, each of
them once and in the order of the text, whatever it reads behind them.
-/

namespace QueryTemplate.Template

/-- A run of a text closes the block whose braces stand behind `outside` and behind `before`. -/
structure Closes (params : List Value) (cs outside before : List Char) : Prop where
  closing : before ++ ['\x7d'] <+: cs
  live : IsLive before
  opens : OpensBlock outside before
  viable : Viable before
  served : ∀ start p, Asks (before ++ ['\x7d']) start p → IsServed params start p

/-- Among the parameters bound between two braces there is one that equals the skip value. -/
def BindsSkip (b : Binding) (outside before : List Char) : Prop :=
  ∃ i v, number outside ≤ i ∧ i < number before ∧ b.params[i]? = some v ∧ v.same b.skip = true

/-- A run of a text closes a block and leaves it out. -/
def LeavesOut (b : Binding) (cs outside before : List Char) : Prop :=
  Closes b.params cs outside before ∧ BindsSkip b outside before

/-- The block between two braces that stand behind the given texts. -/
def Drop.between (outside before : List Char) : Drop :=
  ⟨Text.byteLength outside, Text.byteLength before⟩

variable {b : Binding} {cs outside before : List Char} {c : Char}

lemma OpensBlock.of_concat (h : OpensBlock outside (cs ++ [c])) (hc : c ≠ '\x7b') :
    OpensBlock outside cs := by
  rcases opensBlock_concat.1 h with ⟨h, -⟩ | ⟨he, -⟩
  · exact h
  · exact absurd he hc

/-- A live closing brace in a text stands before the brace of the block that is open at its end. -/
lemma OpensBlock.isPrefix_of_closing (h : OpensBlock outside cs) (hl : IsLive before)
    (hp : before ++ ['\x7d'] <+: cs) : before ++ ['\x7d'] <+: outside := by
  induction cs using List.reverseRecOn with
  | nil => exact absurd h (not_opensBlock_nil outside)
  | append_singleton cs c ih =>
    rcases List.prefix_concat_iff.1 hp with he | hp
    · obtain ⟨rfl, rfl⟩ := List.append_singleton_inj.1 he
      rcases opensBlock_concat.1 h with ⟨-, hb⟩ | ⟨he, -⟩
      · exact absurd (hb hl) (by decide)
      · exact absurd he (by decide)
    · rcases opensBlock_concat.1 h with ⟨h, -⟩ | ⟨-, rfl, -⟩
      · exact ih h hp
      · exact hp

lemma Closes.byteLength_lt (h : Closes b.params cs outside before) :
    Text.byteLength outside < Text.byteLength before := by
  obtain ⟨content, he, -⟩ := h.opens
  have hpos : 0 < '\x7b'.utf8Size := Char.utf8Size_pos _
  rw [he, Text.byteLength_append, Text.byteLength]
  omega

lemma leavesOut_concat :
    LeavesOut b (cs ++ [c]) outside before ↔
      LeavesOut b cs outside before ∨ before = cs ∧ LeavesOut b (cs ++ [c]) outside cs := by
  constructor
  · rintro ⟨h, hskip⟩
    rcases List.prefix_concat_iff.1 h.closing with he | hp
    · obtain ⟨rfl, -⟩ := List.append_singleton_inj.1 he
      exact .inr ⟨rfl, h, hskip⟩
    · exact .inl ⟨⟨hp, h.live, h.opens, h.viable, h.served⟩, hskip⟩
  · rintro (⟨h, hskip⟩ | ⟨rfl, h⟩)
    · have hp : before ++ ['\x7d'] <+: cs ++ [c] := h.closing.trans (List.prefix_append cs [c])
      exact ⟨⟨hp, h.live, h.opens, h.viable, h.served⟩, hskip⟩
    · exact h

namespace Scan

variable {s r : Scan Piece} {p : Placeholder}

/-! ### What a step records -/

/-- A scan has left out as many blocks as another one and has logged the same events. -/
structure HasLogOf (t s : Scan Piece) : Prop where
  dropped : t.dropped = s.dropped
  events : t.events = s.events

lemma HasLogOf.trans {t u : Scan Piece} (h : u.HasLogOf t) (h' : t.HasLogOf s) : u.HasLogOf s :=
  ⟨h.dropped.trans h'.dropped, h.events.trans h'.events⟩

lemma HasLogOf.advance {t : Scan Piece} (h : t.HasLogOf s) (c : Char) :
    (t.advance c).HasLogOf s := ⟨h.dropped, h.events⟩

lemma HasLogOf.of_withMode {t : Scan Piece} {m : Mode} (h : t.HasLogOf (s.withMode m)) :
    t.HasLogOf s := ⟨h.dropped, h.events⟩

lemma HasLogOf.drops {t : Scan Piece} (h : t.HasLogOf s) : t.drops = s.drops := by
  rw [Scan.drops, h.events, Scan.drops]

lemma resolve_log (b : Binding) (p : Placeholder) (s : Scan Piece) :
    (s.resolve b p).HasLogOf s := by
  cases hv : b.params[s.bound]? with
  | none =>
    rw [resolve_of_missing hv]
    exact ⟨rfl, rfl⟩
  | some v =>
    rw [resolve_of_param hv]
    constructor <;> simp [withMode, bindNext]

lemma inLiteral_log (s : Scan Piece) (c : Char) : (s.inLiteral c).HasLogOf s := by
  unfold inLiteral
  split <;> constructor <;> simp

lemma plain_log (hc : c ≠ '\x7d') : (s.plain b c).HasLogOf s := by
  unfold plain
  split
  · exact ⟨rfl, rfl⟩
  · constructor <;> simp
  · cases hb : s.block <;> constructor <;> simp [openBlock, hb, fail]
  · exact absurd rfl hc
  · constructor <;> simp

/-- Only a closing brace adds to what a scan has recorded. -/
lemma step_log (hc : c ≠ '\x7d') : (s.step b c).HasLogOf s := by
  cases hm : s.mode with
  | failed e =>
    rw [step_of_failed hm]
    exact ⟨rfl, rfl⟩
  | plain =>
    rw [step_of_plain hm]
    exact (plain_log hc).advance c
  | literal start =>
    rw [step_of_literal hm]
    exact (inLiteral_log s c).advance c
  | question =>
    by_cases hq : c = '?'
    · subst hq
      rw [step_doublePlaceholder hm]
      exact ⟨rfl, rfl⟩
    · rcases step_of_question_cases b hm hq with hs | ⟨-, hs⟩
      · rw [hs]
        exact (resolve_log b _ _).of_withMode.advance c
      · rw [hs]
        exact ((plain_log hc).trans (resolve_log b _ _).of_withMode).advance c

lemma finish_log (b : Binding) (s : Scan Piece) : (s.finish b).HasLogOf s := by
  rcases finish_cases b s with h | ⟨blk, -, h⟩ | ⟨start, -, h⟩ | h
  · rw [h]
    exact ⟨rfl, rfl⟩
  · rw [h]
    exact ⟨rfl, rfl⟩
  · rw [h]
    exact ⟨rfl, rfl⟩
  · rw [h]
    exact (resolve_log b _ _).of_withMode

/-! ### The values of the open block -/

def values? (s : Scan Piece) : Option (Array Value) := s.block.map Block.values

@[simp] lemma emit_values? (ps : List Piece) (s : Scan Piece) : (s.emit ps).values? = s.values? := by
  cases h : s.block <;> simp [emit, values?, h]

lemma record_values? (v : Value) (s : Scan Piece) :
    (s.record v).values? = s.values?.map fun values => values.push v := by
  cases h : s.block <;> simp [record, values?, h]

/-- The values of the open block are the parameters bound since its brace was read. -/
def HoldsValues (b : Binding) (cs : List Char) (s : Scan Piece) : Prop :=
  ∀ values outside, s.values? = some values → OpensBlock outside cs →
    number outside ≤ s.bound ∧
      values.toList = (b.params.take s.bound).drop (number outside)

lemma holdsValues_initial (b : Binding) : initial.HoldsValues b [] := by
  intro values outside hvalues
  cases hvalues

lemma HoldsValues.of_eq {t : Scan Piece} {ds : List Char} (h : s.HoldsValues b cs)
    (hvalues : t.values? = s.values?) (hbound : t.bound = s.bound)
    (ho : ∀ outside, OpensBlock outside ds → OpensBlock outside cs) : t.HoldsValues b ds := by
  intro values outside ht hopen
  rw [hbound]
  exact h values outside (hvalues ▸ ht) (ho outside hopen)

/-- A placeholder adds its parameter to the values of the open block. -/
lemma HoldsValues.resolve {v : Value} (h : s.HoldsValues b cs) (hv : b.params[s.bound]? = some v)
    (p : Placeholder) : (s.resolve b p).HoldsValues b cs := by
  have hr := resolve_of_param hv p
  have hbound : (s.resolve b p).bound = s.bound + 1 := by simp [hr, withMode, bindNext]
  have hvalues : (s.resolve b p).values? = s.values?.map fun values => values.push v := by
    have hnext : s.bindNext.values? = s.values? := rfl
    have hmode : ∀ (m : Mode) (t : Scan Piece), (t.withMode m).values? = t.values? := fun _ _ => rfl
    rw [hr, hmode, emit_values?, record_values?, hnext]
  intro values outside ht hopen
  rw [hvalues, Option.map_eq_some_iff] at ht
  obtain ⟨old, hold, rfl⟩ := ht
  obtain ⟨hle, heq⟩ := h old outside hold hopen
  have hlt : s.bound < b.params.length := (List.getElem?_eq_some_iff.1 hv).1
  have hlength : number outside ≤ (b.params.take s.bound).length := by
    rw [List.length_take]
    omega
  rw [hbound]
  refine ⟨by omega, ?_⟩
  rw [Array.toList_push, heq, List.take_add_one, hv, List.drop_append_of_le_length hlength]
  rfl

lemma HoldsValues.plain (h : r.HoldsValues b cs) (hr : r.IsReady cs)
    (hd : ∀ defect, ¬DefectAt cs c defect) :
    ((r.plain b c).advance c).HoldsValues b (cs ++ [c]) := by
  unfold Scan.plain
  split
  · exact h.of_eq rfl rfl fun outside ho => ho.of_concat (by decide)
  · exact h.of_eq (emit_values? _ (r.withMode (.literal r.offset))) (emit_bound _ _)
      fun outside ho => ho.of_concat (by decide)
  · -- A block that is opened holds no value yet.
    have hb : r.block = none := by
      apply block_eq_none hr.block
      intro ho
      exact hd _ (.nestedBlock hr.live ho)
    intro values outside hvalues hopen
    have hout : outside = cs := by
      rcases opensBlock_concat.1 hopen with ⟨-, hbrace⟩ | ⟨-, ho, -⟩
      · exact absurd (hbrace hr.live) (by decide)
      · exact ho
    simp only [openBlock, hb, advance, values?, Option.map_some, Option.some.injEq] at hvalues ⊢
    rw [hout, ← hvalues, ← hr.bound]
    refine ⟨Nat.le_refl _, ?_⟩
    rw [List.drop_eq_nil_of_le (List.length_take_le _ _)]
  · intro values outside hvalues hopen
    rcases opensBlock_concat.1 hopen with ⟨-, hbrace⟩ | ⟨he, -⟩
    · exact absurd (hbrace hr.live) (by decide)
    · exact absurd he (by decide)
  · rename_i hopening _
    exact h.of_eq (emit_values? _ r) (emit_bound _ r) fun outside ho => ho.of_concat hopening

lemma IsBehind.exists_param (h : s.IsBehind cs) {start : List Char}
    (ho : OpensPlaceholder start cs) (hs : IsServed b.params start p) :
    ∃ v, b.params[(s.withMode .plain).bound]? = some v := by
  obtain ⟨v, hv, -⟩ := hs
  rw [← (h.mode_eq_question ho).2] at hv
  exact ⟨v, hv⟩

lemma IsBehind.holdsValues_step (h : s.IsBehind cs) (hv : s.HoldsValues b cs)
    (hp : CompletesServed b.params cs c) (hd : ∀ defect, ¬DefectAt cs c defect) :
    (s.step b c).HoldsValues b (cs ++ [c]) := by
  rcases h.mode_cases with ⟨hready, -⟩ | ⟨start, ho, hm, -⟩ | ⟨outside, -, hl, hm, -⟩
  · rw [step_of_plain hready.mode]
    exact hv.plain hready hd
  · have hc : c ≠ '?' := by
      rintro rfl
      exact hd _ (.doublePlaceholder ho ho.isLive)
    have hserved := hp start ho hc
    have hready := h.isReady_resolve ho (errorBehind?_eq_none_iff.2 hserved)
    obtain ⟨v, hparam⟩ := h.exists_param ho hserved
    have hplain : (s.withMode .plain).HoldsValues b cs := hv.of_eq rfl rfl fun _ ho => ho
    have hr := hplain.resolve hparam (completedBy c)
    rw [step_of_question hm hc, hready.mode]
    cases hsuffix : Placeholder.ofSuffix? c with
    | none => exact hr.plain hready hd
    | some p =>
      have hbrace := (isBrace_of_ofSuffix? hsuffix).2
      refine hr.of_eq rfl rfl fun outside ho => ho.of_concat ?_
      rintro rfl
      cases hbrace
  · rw [step_of_literal hm]
    refine hv.of_eq ?_ (inLiteral_account s c).bound fun outside ho => ?_
    · unfold inLiteral
      split
      · exact emit_values? _ (s.withMode .plain)
      · exact emit_values? _ s
    · rcases opensBlock_concat.1 ho with ⟨ho, -⟩ | ⟨-, -, hlive⟩
      · exact ho
      · exact absurd hlive hl

lemma viable_of_not_failed (h : ∀ error, (initial.read b cs).mode ≠ .failed error) :
    Viable cs := by
  rcases viable_or_exists_defectAt cs with hv | ⟨before, c, after, defect, rfl, hv, hd⟩
  · exact hv
  · obtain ⟨error, hm⟩ := exists_failed_of_defectAt b hv hd
    rw [List.append_cons, read_append, read_of_failed b _ after hm] at h
    exact absurd hm (h error)

/-- A text that is viable and served is read to its end. -/
lemma isBehind_of_served (hv : Viable cs)
    (hs : ∀ start p, Asks cs start p → IsServed b.params start p) :
    (initial.read b cs).IsBehind cs := by
  rcases read_of_viable b hv with ⟨error, -, start, p, ha, he, -⟩ | ⟨h, -⟩
  · exact absurd he ((hs start p ha).errorBehind?_ne error)
  · exact h

lemma completesServed_of_served
    (hs : ∀ start p, Asks (cs ++ [c]) start p → IsServed b.params start p) :
    CompletesServed b.params cs c := by
  intro start ho hc
  exact hs start _ (asks_concat.2 (.inr ⟨ho, hc, rfl⟩))

lemma holdsValues_read (hv : Viable cs)
    (hs : ∀ start p, Asks cs start p → IsServed b.params start p) :
    (initial.read b cs).HoldsValues b cs := by
  induction cs using List.reverseRecOn with
  | nil => exact holdsValues_initial b
  | append_singleton cs c ih =>
    obtain ⟨hv, hd⟩ := viable_concat.1 hv
    have hbefore : ∀ start p, Asks cs start p → IsServed b.params start p :=
      fun start p ha => hs start p (ha.append [c])
    rw [read_append]
    exact (isBehind_of_served hv hbefore).holdsValues_step (ih hv hbefore)
      (completesServed_of_served hs) hd

/-! ### The closing brace -/

lemma any_same_iff {n m : Nat} {skip : Value} {params : List Value} {values : Array Value}
    (h : values.toList = (params.take m).drop n) :
    values.any (·.same skip) = true ↔
      ∃ i v, n ≤ i ∧ i < m ∧ params[i]? = some v ∧ v.same skip = true := by
  rw [← Array.any_toList, h, List.any_eq_true]
  constructor
  · rintro ⟨v, hm, hv⟩
    obtain ⟨j, hj⟩ := List.mem_iff_getElem?.1 hm
    rw [List.getElem?_drop] at hj
    have hlt : n + j < m := by
      by_contra hge
      rw [List.getElem?_eq_none (by rw [List.length_take]; omega)] at hj
      cases hj
    rw [List.getElem?_take_of_lt hlt] at hj
    exact ⟨n + j, v, by omega, hlt, hj, hv⟩
  · rintro ⟨i, v, hn, hm, hi, hv⟩
    refine ⟨v, List.mem_iff_getElem?.2 ⟨i - n, ?_⟩, hv⟩
    rw [List.getElem?_drop, Nat.add_sub_cancel' hn, List.getElem?_take_of_lt hm]
    exact hi

/-- A closing brace leaves the open block out when a value bound in it equals the skip value. -/
lemma IsReady.plain_closing (h : r.IsReady cs) (hv : r.HoldsValues b cs)
    (ho : OpensBlock outside cs) :
    (BindsSkip b outside cs →
        (r.plain b '\x7d').drops = r.drops ++ [Drop.between outside cs]) ∧
      (¬BindsSkip b outside cs → (r.plain b '\x7d').drops = r.drops) := by
  obtain ⟨blk, hb⟩ : ∃ blk, r.block = some blk := by
    rw [← Option.isSome_iff_exists, ← isSome_blockStart?, h.block.isSome_iff]
    exact ⟨outside, ho⟩
  have hstart : blk.start = Text.byteLength outside := by
    have hblock := h.block
    rw [blockStart?, hb] at hblock
    obtain ⟨outside', ho', hstart⟩ := hblock
    rw [ho.unique ho']
    exact hstart
  have hvalues : blk.values.toList = (b.params.take (number cs)).drop (number outside) := by
    rw [← h.bound]
    exact (hv blk.values outside (by simp [values?, hb]) ho).2
  have hkept : blk.isKept b.skip = true ↔ ¬BindsSkip b outside cs := by
    rw [BindsSkip, ← any_same_iff hvalues, Block.isKept]
    simp
  have hplain : r.plain b '\x7d' = r.closeBlock b.skip := rfl
  rw [hplain]
  constructor
  · intro hskip
    have hk : ¬blk.isKept b.skip = true := fun hk => hkept.1 hk hskip
    rw [closeBlock_of_not_isKept hb hk, hstart, h.offset]
    exact drops_of_push rfl
  · intro hskip
    rw [closeBlock_of_isKept hb (hkept.2 hskip)]
    rfl

lemma IsBehind.step_closing (h : s.IsBehind cs) (hv : s.HoldsValues b cs)
    (hp : CompletesServed b.params cs '\x7d') (hl : IsLive cs) (ho : OpensBlock outside cs) :
    (BindsSkip b outside cs →
        (s.step b '\x7d').drops = s.drops ++ [Drop.between outside cs]) ∧
      (¬BindsSkip b outside cs → (s.step b '\x7d').drops = s.drops) := by
  rcases h.mode_cases with ⟨hready, -⟩ | ⟨start, hq, hm, -⟩ | ⟨outside', -, hquote, -, -⟩
  · rw [step_of_plain hready.mode]
    exact hready.plain_closing hv ho
  · have hserved := hp start hq (by decide)
    have hready := h.isReady_resolve hq (errorBehind?_eq_none_iff.2 hserved)
    obtain ⟨v, hparam⟩ := h.exists_param hq hserved
    have hplain : (s.withMode .plain).HoldsValues b cs := hv.of_eq rfl rfl fun _ ho => ho
    have hdrops := hready.plain_closing (hplain.resolve hparam _) ho
    rw [(resolve_log b _ _).drops] at hdrops
    rw [step_of_question hm (by decide), hready.mode]
    exact hdrops
  · exact absurd hl hquote

/-- A closing brace that closes no block leaves what a scan has recorded as it is. -/
lemma IsBehind.step_closing_of_not (h : s.IsBehind cs)
    (hn : IsLive cs → InOpenBlock cs → ¬CompletesServed b.params cs '\x7d') :
    (s.step b '\x7d').drops = s.drops := by
  have hclosed : ∀ r : Scan Piece, IsBlockStart cs r.blockStart? → ¬InOpenBlock cs →
      (r.plain b '\x7d').drops = r.drops := by
    intro r hblock ho
    have hplain : r.plain b '\x7d' = r.closeBlock b.skip := rfl
    rw [hplain, closeBlock, block_eq_none hblock ho]
    rfl
  rcases h.mode_cases with ⟨hready, hq⟩ | ⟨start, hq, hm, -⟩ | ⟨outside, -, -, hm, -⟩
  · have ho : ¬InOpenBlock cs := fun ho => hn hready.live ho fun start h => absurd h (hq start)
    rw [step_of_plain hready.mode]
    exact hclosed s hready.block ho
  · have hc : '\x7d' ≠ '?' := by decide
    rcases step_of_question_cases b hm hc with hs | ⟨hr, hs⟩
    · rw [hs]
      exact (resolve_log b _ _).drops
    · -- The placeholder before the brace has been resolved, so it accepts its parameter.
      have hserved : IsServed b.params start (completedBy '\x7d') := by
        rw [← errorBehind?_eq_none_iff]
        by_contra he
        obtain ⟨error, he⟩ := Option.ne_none_iff_exists'.1 he
        rw [h.mode_resolve hq he] at hr
        cases hr
      have ho : ¬InOpenBlock cs := by
        intro ho
        apply hn hq.isLive ho
        intro start' hq' _
        rwa [(List.append_singleton_inj.1 (hq'.1.symm.trans hq.1)).1]
      rw [hs]
      refine (hclosed _ ?_ ho).trans (resolve_log b _ _).drops
      rw [resolve_blockStart?]
      exact h.block
  · rw [step_of_literal hm]
    exact (inLiteral_log s _).drops

/-! ### Reading a text -/

/-- The recorded blocks are those that the text read so far leaves out, in their order. -/
structure Records (b : Binding) (cs : List Char) (s : Scan Piece) : Prop where
  mem : ∀ d, d ∈ s.drops ↔
    ∃ outside before, LeavesOut b cs outside before ∧ d = Drop.between outside before
  sorted : s.drops.Pairwise fun d d' => d.stop < d'.start

lemma records_initial (b : Binding) : initial.Records b [] := by
  refine ⟨fun d => ?_, .nil⟩
  constructor
  · intro hd
    simp [initial, drops] at hd
  · rintro ⟨outside, before, ⟨h, -⟩, -⟩
    have hp := h.closing
    simp at hp

/-- A character at which no block is left out leaves what has been recorded as it is. -/
lemma drops_read_concat (hn : ∀ outside, ¬LeavesOut b (cs ++ [c]) outside cs) :
    (initial.read b (cs ++ [c])).drops = (initial.read b cs).drops := by
  rw [read_append, read_cons, read_nil]
  by_cases hf : ∃ error, (initial.read b cs).mode = .failed error
  · obtain ⟨error, hm⟩ := hf
    rw [step_of_failed hm]
  · have hviable : Viable cs := viable_of_not_failed (not_exists.1 hf)
    rcases read_of_viable b hviable with ⟨error, hm, -⟩ | ⟨h, hs⟩
    · exact absurd ⟨_, hm⟩ hf
    · by_cases hc : c = '\x7d'
      · subst hc
        by_cases hclose : IsLive cs ∧ InOpenBlock cs ∧ CompletesServed b.params cs '\x7d'
        · obtain ⟨hl, ⟨outside, ho⟩, hp⟩ := hclose
          have hserved : ∀ start p, Asks (cs ++ ['\x7d']) start p → IsServed b.params start p := by
            intro start p ha
            rcases asks_concat.1 ha with ha | ⟨hq, hc, rfl⟩
            · exact hs start p ha
            · exact hp start hq hc
          have hvalues := holdsValues_read hviable hs
          apply (h.step_closing hvalues hp hl ho).2
          intro hskip
          exact hn outside ⟨⟨List.prefix_refl _, hl, ho, hviable, hserved⟩, hskip⟩
        · exact h.step_closing_of_not fun hl ho hp => hclose ⟨hl, ho, hp⟩
      · exact (step_log hc).drops

/-- The brace of a block that is left out adds the block to what has been recorded. -/
lemma drops_read_of_leavesOut (h : LeavesOut b (cs ++ [c]) outside cs) :
    (initial.read b (cs ++ [c])).drops =
      (initial.read b cs).drops ++ [Drop.between outside cs] := by
  obtain ⟨hclose, hskip⟩ := h
  obtain rfl : c = '\x7d' := by
    have he := hclose.closing.eq_of_length (by simp)
    exact (List.append_singleton_inj.1 he).2.symm
  have hs : ∀ start p, Asks cs start p → IsServed b.params start p :=
    fun start p ha => hclose.served start p (ha.append _)
  rw [read_append, read_cons, read_nil]
  exact ((isBehind_of_served hclose.viable hs).step_closing (holdsValues_read hclose.viable hs)
    (completesServed_of_served hclose.served) hclose.live hclose.opens).1 hskip

/-- A scan records the blocks that it closes and leaves out, and keeps them when it fails. -/
theorem records_read (b : Binding) (cs : List Char) : (initial.read b cs).Records b cs := by
  -- The text grows at its end: a character records one block or none.
  induction cs using List.reverseRecOn with
  | nil => exact records_initial b
  | append_singleton cs c ih =>
    by_cases hleave : ∃ outside, LeavesOut b (cs ++ [c]) outside cs
    · obtain ⟨outside, hleave⟩ := hleave
      have hdrops := drops_read_of_leavesOut hleave
      refine ⟨fun d => ?_, ?_⟩
      · rw [hdrops, List.mem_append, List.mem_singleton, ih.mem d]
        constructor
        · rintro (⟨outside', before, h, hd⟩ | rfl)
          · exact ⟨outside', before, leavesOut_concat.2 (.inl h), hd⟩
          · exact ⟨outside, cs, hleave, rfl⟩
        · rintro ⟨outside', before, h, rfl⟩
          rcases leavesOut_concat.1 h with h | ⟨rfl, h⟩
          · exact .inl ⟨outside', before, h, rfl⟩
          · rw [h.1.opens.unique hleave.1.opens]
            exact .inr rfl
      · rw [hdrops, List.pairwise_append]
        refine ⟨ih.sorted, List.pairwise_singleton _ _, fun d hd d' hd' => ?_⟩
        -- What was closed before stands before the brace that opens the new block.
        obtain ⟨outside', before, h, rfl⟩ := (ih.mem d).1 hd
        obtain rfl := List.mem_singleton.1 hd'
        obtain ⟨rest, hrest⟩ := hleave.1.opens.isPrefix_of_closing h.1.live h.1.closing
        have hpos : 0 < '\x7d'.utf8Size := Char.utf8Size_pos _
        simp only [Drop.between, ← hrest, Text.byteLength_append, Text.byteLength]
        omega
    · have hdrops := drops_read_concat (not_exists.1 hleave)
      refine ⟨fun d => ?_, by rw [hdrops]; exact ih.sorted⟩
      rw [hdrops, ih.mem d]
      constructor
      · rintro ⟨outside, before, h, hd⟩
        exact ⟨outside, before, leavesOut_concat.2 (.inl h), hd⟩
      · rintro ⟨outside, before, h, hd⟩
        rcases leavesOut_concat.1 h with h | ⟨-, h⟩
        · exact ⟨outside, before, h, hd⟩
        · exact absurd ⟨outside, h⟩ hleave

end Scan

end QueryTemplate.Template
