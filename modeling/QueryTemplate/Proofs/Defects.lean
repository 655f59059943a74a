import QueryTemplate.Proofs.WellFormed
import QueryTemplate.Text.Utf8
import Mathlib.Data.List.Induction

/-!
# The first defect of a template

A character of a template is a defect when it is a live question mark behind another one, a live
opening brace inside a block or a live closing brace outside blocks. A text without such a
character may still end inside a block or inside a literal. The first defect, with its byte
offset, depends on the text alone, and the templates that have one are those that are not
well-formed.
-/

namespace QueryTemplate.Template

/-- The last live brace of a text is an opening one and stands behind `outside`. -/
def OpensBlock (outside cs : List Char) : Prop :=
  ∃ content, cs = outside ++ '\x7b' :: content ∧ IsLive outside ∧
    (liveAfter (outside ++ ['\x7b']) content).filter isBrace = []

/-- A block is open behind a text. -/
def InOpenBlock (cs : List Char) : Prop := ∃ outside, OpensBlock outside cs

/-- The last quote of a text stands behind `outside`. -/
def OpensLiteral (outside cs : List Char) : Prop :=
  ∃ content, cs = outside ++ '\'' :: content ∧ '\'' ∉ content

/-- The text ends in a live question mark, which stands behind `start`. -/
def OpensPlaceholder (start cs : List Char) : Prop := cs = start ++ ['?'] ∧ IsLive start

/-- A character is a defect behind the text `before`. -/
inductive DefectAt (before : List Char) : Char → Defect → Prop where
  | doublePlaceholder {start} : OpensPlaceholder start before → IsLive before →
      DefectAt before '?' .doublePlaceholder
  | nestedBlock : IsLive before → InOpenBlock before → DefectAt before '\x7b' .nestedBlock
  | unmatchedBlockClose : IsLive before → ¬InOpenBlock before →
      DefectAt before '\x7d' .unmatchedBlockClose

/-- No character of a text is a defect. -/
def Viable (cs : List Char) : Prop :=
  ∀ before c after defect, cs = before ++ c :: after → ¬DefectAt before c defect

/-- The first defect of a template, at its byte offset. Without a character that is one, it is the
block that is open at the end, else the literal that is. -/
inductive FirstDefect (cs : List Char) : Defect → Nat → Prop where
  | inside {before c after defect} : cs = before ++ c :: after → Viable before →
      DefectAt before c defect → FirstDefect cs defect (Text.byteLength before)
  | unterminatedBlock {outside} : Viable cs → OpensBlock outside cs →
      FirstDefect cs .unterminatedBlock (Text.byteLength outside)
  | unterminatedString {outside} : Viable cs → ¬InOpenBlock cs → ¬IsLive cs →
      OpensLiteral outside cs → FirstDefect cs .unterminatedString (Text.byteLength outside)

/-! ### Texts that grow at the end -/

lemma concat_eq_append_cons {cs ds es : List Char} {c d : Char} (h : cs ++ [c] = ds ++ d :: es) :
    es = [] ∧ ds = cs ∧ d = c ∨ ∃ fs, es = fs ++ [c] ∧ cs = ds ++ d :: fs := by
  rcases List.eq_nil_or_concat' es with rfl | ⟨fs, x, rfl⟩
  · obtain ⟨rfl, rfl⟩ := List.append_singleton_inj.1 h
    exact .inl ⟨rfl, rfl, rfl⟩
  · have hs : ds ++ d :: (fs ++ [x]) = ds ++ d :: fs ++ [x] := by simp
    obtain ⟨rfl, rfl⟩ := List.append_singleton_inj.1 (h.trans hs)
    exact .inr ⟨fs, rfl, rfl⟩

lemma live_concat (cs : List Char) (c : Char) :
    live (cs ++ [c]) = if IsLive cs then live cs ++ [c] else live cs := by
  rw [live, liveAfter_append, live]
  split <;> simp [liveAfter, *]

lemma isLive_concat (cs : List Char) (c : Char) :
    IsLive (cs ++ [c]) ↔ if c = '\'' then ¬IsLive cs else IsLive cs := by
  rw [isLive_append, isLive_cons]
  split <;> simp

lemma OpensPlaceholder.isLive {start cs : List Char} (h : OpensPlaceholder start cs) :
    IsLive cs := by
  rw [h.1, isLive_concat, if_neg (by decide)]
  exact h.2

lemma not_opensPlaceholder_concat {start cs : List Char} {c : Char} (hc : c ≠ '?') :
    ¬OpensPlaceholder start (cs ++ [c]) :=
  fun h => hc (List.append_singleton_inj.1 h.1).2

lemma opensBlock_concat {outside cs : List Char} {c : Char} :
    OpensBlock outside (cs ++ [c]) ↔
      OpensBlock outside cs ∧ (IsLive cs → isBrace c = false) ∨
        c = '\x7b' ∧ outside = cs ∧ IsLive cs := by
  constructor
  · rintro ⟨content, he, hl, hb⟩
    rcases concat_eq_append_cons he with ⟨-, rfl, rfl⟩ | ⟨content, rfl, rfl⟩
    · exact .inr ⟨rfl, rfl, hl⟩
    · rw [liveAfter_append, List.filter_append, List.append_eq_nil_iff] at hb
      refine .inl ⟨⟨content, rfl, hl, hb.1⟩, fun hlive => ?_⟩
      have hlast := hb.2
      rw [List.append_assoc, List.singleton_append, liveAfter, if_pos hlive] at hlast
      simpa [liveAfter] using hlast
  · rintro (⟨⟨content, rfl, hl, hb⟩, hc⟩ | ⟨rfl, rfl, hl⟩)
    · refine ⟨content ++ [c], by simp, hl, ?_⟩
      rw [liveAfter_append, List.filter_append, hb, List.nil_append, List.append_assoc,
        List.singleton_append, liveAfter]
      split
      · rename_i hlive
        simp [liveAfter, hc hlive]
      · simp [liveAfter]
    · exact ⟨[], rfl, hl, rfl⟩

lemma not_opensBlock_nil (outside : List Char) : ¬OpensBlock outside [] := by
  rintro ⟨content, he, -⟩
  simp at he

lemma not_inOpenBlock_nil : ¬InOpenBlock [] := fun ⟨outside, h⟩ => not_opensBlock_nil outside h

lemma inOpenBlock_concat {cs : List Char} {c : Char} :
    InOpenBlock (cs ++ [c]) ↔
      InOpenBlock cs ∧ (IsLive cs → isBrace c = false) ∨ c = '\x7b' ∧ IsLive cs := by
  simp only [InOpenBlock, opensBlock_concat]
  constructor
  · rintro ⟨outside, ⟨h, hc⟩ | ⟨hc, -, hl⟩⟩
    · exact .inl ⟨⟨outside, h⟩, hc⟩
    · exact .inr ⟨hc, hl⟩
  · rintro (⟨⟨outside, h⟩, hc⟩ | ⟨hc, hl⟩)
    · exact ⟨outside, .inl ⟨h, hc⟩⟩
    · exact ⟨cs, .inr ⟨hc, rfl, hl⟩⟩

lemma OpensBlock.unique {outside outside' cs : List Char} (h : OpensBlock outside cs)
    (h' : OpensBlock outside' cs) : outside = outside' := by
  induction cs using List.reverseRecOn with
  | nil => exact absurd h (not_opensBlock_nil _)
  | append_singleton cs c ih =>
    rcases opensBlock_concat.1 h with ⟨hs, hc⟩ | ⟨rfl, rfl, hl⟩
    · rcases opensBlock_concat.1 h' with ⟨hs', -⟩ | ⟨rfl, rfl, hl⟩
      · exact ih hs hs'
      · exact absurd (hc hl) (by decide)
    · rcases opensBlock_concat.1 h' with ⟨-, hc⟩ | ⟨-, rfl, -⟩
      · exact absurd (hc hl) (by decide)
      · rfl

lemma opensLiteral_concat {outside cs : List Char} {c : Char} :
    OpensLiteral outside (cs ++ [c]) ↔
      OpensLiteral outside cs ∧ c ≠ '\'' ∨ c = '\'' ∧ outside = cs := by
  constructor
  · rintro ⟨content, he, hq⟩
    rcases concat_eq_append_cons he with ⟨-, rfl, rfl⟩ | ⟨content, rfl, rfl⟩
    · exact .inr ⟨rfl, rfl⟩
    · rw [List.mem_append, List.mem_singleton, not_or] at hq
      exact .inl ⟨⟨content, rfl, hq.1⟩, Ne.symm hq.2⟩
  · rintro (⟨⟨content, rfl, hq⟩, hc⟩ | ⟨rfl, rfl⟩)
    · exact ⟨content ++ [c], by simp, by simp [hq, Ne.symm hc]⟩
    · exact ⟨[], rfl, List.not_mem_nil⟩

lemma OpensLiteral.unique {outside outside' cs : List Char} (h : OpensLiteral outside cs)
    (h' : OpensLiteral outside' cs) : outside = outside' := by
  induction cs using List.reverseRecOn with
  | nil =>
    obtain ⟨content, he, -⟩ := h
    simp at he
  | append_singleton cs c ih =>
    rcases opensLiteral_concat.1 h with ⟨hs, hc⟩ | ⟨rfl, rfl⟩
    · rcases opensLiteral_concat.1 h' with ⟨hs', -⟩ | ⟨hc', -⟩
      · exact ih hs hs'
      · exact absurd hc' hc
    · rcases opensLiteral_concat.1 h' with ⟨-, hc⟩ | ⟨-, rfl⟩
      · exact absurd rfl hc
      · rfl

lemma exists_opensLiteral {cs : List Char} (h : ¬IsLive cs) :
    ∃ outside, OpensLiteral outside cs := by
  induction cs using List.reverseRecOn with
  | nil => exact absurd isLive_nil h
  | append_singleton cs c ih =>
    by_cases hc : c = '\''
    · exact ⟨cs, opensLiteral_concat.2 (.inr ⟨hc, rfl⟩)⟩
    · rw [isLive_concat, if_neg hc] at h
      obtain ⟨outside, ho⟩ := ih h
      exact ⟨outside, opensLiteral_concat.2 (.inl ⟨ho, hc⟩)⟩

/-! ### Viable texts -/

lemma viable_nil : Viable [] := by
  intro before c after defect he
  simp at he

lemma viable_concat {cs : List Char} {c : Char} :
    Viable (cs ++ [c]) ↔ Viable cs ∧ ∀ defect, ¬DefectAt cs c defect := by
  constructor
  · intro h
    exact ⟨fun before d after defect he => h before d (after ++ [c]) defect (by simp [he]),
      fun defect => h cs c [] defect rfl⟩
  · rintro ⟨h, hc⟩ before d after defect he
    rcases concat_eq_append_cons he with ⟨-, rfl, rfl⟩ | ⟨after, -, rfl⟩
    · exact hc defect
    · exact h before d after defect rfl

/-- A text is viable up to the first of its characters that is a defect. -/
lemma viable_or_exists_defectAt (cs : List Char) :
    Viable cs ∨ ∃ before c after defect, cs = before ++ c :: after ∧ Viable before ∧
      DefectAt before c defect := by
  induction cs using List.reverseRecOn with
  | nil => exact .inl viable_nil
  | append_singleton cs c ih =>
    rcases ih with h | ⟨before, d, after, defect, rfl, h⟩
    · by_cases hc : ∃ defect, DefectAt cs c defect
      · obtain ⟨defect, hc⟩ := hc
        exact .inr ⟨cs, c, [], defect, rfl, h, hc⟩
      · exact .inl (viable_concat.2 ⟨h, not_exists.1 hc⟩)
    · exact .inr ⟨before, d, after ++ [c], defect, by simp, h⟩

lemma DefectAt.isLive {before : List Char} {c : Char} {defect : Defect}
    (h : DefectAt before c defect) : IsLive before := by
  cases h <;> assumption

lemma DefectAt.unique {before : List Char} {c : Char} {defect defect' : Defect}
    (h : DefectAt before c defect) (h' : DefectAt before c defect') : defect = defect' := by
  cases h <;> cases h' <;> rfl

lemma pairs_concat (n : Nat) : pairs n ++ ['\x7b', '\x7d'] = pairs (n + 1) := by
  induction n with
  | zero => rfl
  | succ n ih => rw [pairs_succ, pairs_succ, ← ih, List.cons_append, List.cons_append]

/-- What follows pairs of braces in such pairs are pairs again. -/
lemma exists_pairs_of_append {n k : Nat} {cs : List Char} (h : pairs n = pairs k ++ cs) :
    ∃ m, cs = pairs m := by
  induction k generalizing n with
  | zero => exact ⟨n, h.symm⟩
  | succ k ih =>
    cases n with
    | zero => simp at h
    | succ n => exact ih (List.cons.inj (List.cons.inj h).2).2

/-- The live braces of a viable text are pairs, and one more when a block is open. -/
lemma Viable.exists_braces {cs : List Char} (h : Viable cs) :
    ∃ n, (live cs).filter isBrace = pairs n ∧ ¬InOpenBlock cs ∨
      (live cs).filter isBrace = pairs n ++ ['\x7b'] ∧ InOpenBlock cs := by
  induction cs using List.reverseRecOn with
  | nil => exact ⟨0, .inl ⟨rfl, not_inOpenBlock_nil⟩⟩
  | append_singleton cs c ih =>
    obtain ⟨hv, hc⟩ := viable_concat.1 h
    obtain ⟨n, hn⟩ := ih hv
    rw [live_concat, inOpenBlock_concat]
    by_cases hl : IsLive cs
    · rw [if_pos hl, List.filter_append]
      by_cases hb : isBrace c = true
      · have hcases : c = '\x7b' ∨ c = '\x7d' := by simpa [isBrace] using hb
        rcases hcases with rfl | rfl
        · rcases hn with ⟨hn, ho⟩ | ⟨-, ho⟩
          · exact ⟨n, .inr ⟨by rw [hn]; rfl, .inr ⟨rfl, hl⟩⟩⟩
          · exact absurd (.nestedBlock hl ho) (hc _)
        · rcases hn with ⟨-, ho⟩ | ⟨hn, ho⟩
          · exact absurd (.unmatchedBlockClose hl ho) (hc _)
          · refine ⟨n + 1, .inl ⟨?_, by simp [hl, hb]⟩⟩
            rw [hn, ← pairs_concat, List.append_assoc]
            rfl
      · have hf : [c].filter isBrace = [] := by simp [hb]
        have hne : c ≠ '\x7b' := fun he => hb (he ▸ rfl)
        refine ⟨n, ?_⟩
        simpa [hf, hb, hne] using hn
    · exact ⟨n, by simpa [hl] using hn⟩

lemma exists_pairs_of_live_brace {before after : List Char} {c : Char} {n : Nat}
    (h : (live (before ++ c :: after)).filter isBrace = pairs n) (hl : IsLive before)
    (hb : isBrace c = true) :
    ∃ ds, pairs n = (live before).filter isBrace ++ c :: ds := by
  have hq : c ≠ '\'' := by
    rintro rfl
    cases hb
  refine ⟨(live after).filter isBrace, ?_⟩
  rw [← h, live_append hl, live_cons hq, List.filter_append, List.filter_cons_of_pos hb]

/-- No template goes on behind a defect as a well-formed one. -/
lemma DefectAt.not_wellFormed {before after : List Char} {c : Char} {defect : Defect}
    (hd : DefectAt before c defect) (hv : Viable before) : ¬WellFormed (before ++ c :: after) := by
  rintro ⟨-, hquestions, n, hbraces⟩
  -- The braces before the defect are pairs, and one more inside a block: no pair begins with the
  -- brace that comes next.
  obtain ⟨k, hk⟩ := hv.exists_braces
  cases hd with
  | doublePlaceholder hs hl =>
    obtain ⟨rfl, hstart⟩ := hs
    exact hquestions _ after (by simp) ⟨hstart, hl⟩
  | nestedBlock hl ho =>
    obtain ⟨ds, hds⟩ := exists_pairs_of_live_brace hbraces hl rfl
    rcases hk with ⟨-, hn⟩ | ⟨hk, -⟩
    · exact hn ho
    · rw [hk, List.append_assoc] at hds
      obtain ⟨m, hm⟩ := exists_pairs_of_append hds
      cases m <;> simp at hm
  | unmatchedBlockClose hl ho =>
    obtain ⟨ds, hds⟩ := exists_pairs_of_live_brace hbraces hl rfl
    rcases hk with ⟨hk, -⟩ | ⟨-, hn⟩
    · rw [hk] at hds
      obtain ⟨m, hm⟩ := exists_pairs_of_append hds
      cases m <;> simp at hm
    · exact ho hn

/-- The well-formed templates are the viable texts behind which neither a block nor a literal is
open. -/
theorem wellFormed_iff_viable (cs : List Char) :
    WellFormed cs ↔ Viable cs ∧ ¬InOpenBlock cs ∧ IsLive cs := by
  constructor
  · intro h
    have hviable : Viable cs := by
      rcases viable_or_exists_defectAt cs with hv | ⟨before, c, after, defect, rfl, hv, hd⟩
      · exact hv
      · exact absurd h (hd.not_wellFormed hv)
    refine ⟨hviable, fun ho => ?_, h.quotes⟩
    obtain ⟨n, hn⟩ := h.braces
    obtain ⟨k, ⟨-, hk⟩ | ⟨hk, -⟩⟩ := hviable.exists_braces
    · exact hk ho
    · rw [hn] at hk
      obtain ⟨m, hm⟩ := exists_pairs_of_append hk
      cases m <;> simp at hm
  · rintro ⟨hv, ho, hl⟩
    refine ⟨hl, ?_, ?_⟩
    · rintro before after rfl ⟨hb, hnext⟩
      exact hv (before ++ ['?']) '?' after _ (by simp) (.doublePlaceholder ⟨rfl, hb⟩ hnext)
    · obtain ⟨n, ⟨hn, -⟩ | ⟨-, hn⟩⟩ := hv.exists_braces
      · exact ⟨n, hn⟩
      · exact absurd hn ho

/-! ### The first defect -/

lemma exists_firstDefect {cs : List Char} (h : ¬WellFormed cs) :
    ∃ defect offset, FirstDefect cs defect offset := by
  rcases viable_or_exists_defectAt cs with hv | ⟨before, c, after, defect, he, hv, hd⟩
  · by_cases ho : InOpenBlock cs
    · obtain ⟨outside, ho⟩ := ho
      exact ⟨_, _, .unterminatedBlock hv ho⟩
    · have hl : ¬IsLive cs := fun hl => h ((wellFormed_iff_viable cs).2 ⟨hv, ho, hl⟩)
      obtain ⟨outside, hq⟩ := exists_opensLiteral hl
      exact ⟨_, _, .unterminatedString hv ho hl hq⟩
  · exact ⟨defect, _, .inside he hv hd⟩

lemma FirstDefect.not_wellFormed {cs : List Char} {defect : Defect} {offset : Nat}
    (h : FirstDefect cs defect offset) : ¬WellFormed cs := by
  rw [wellFormed_iff_viable]
  rintro ⟨hv, ho, hl⟩
  cases h with
  | inside he _ hd => exact hv _ _ _ _ he hd
  | unterminatedBlock _ hb => exact ho ⟨_, hb⟩
  | unterminatedString _ _ hq _ => exact hq hl

lemma eq_of_first_defectAt {before before' after after' : List Char} {c c' : Char}
    {defect defect' : Defect} (he : before ++ c :: after = before' ++ c' :: after')
    (hv : Viable before) (hd : DefectAt before c defect) (hv' : Viable before')
    (hd' : DefectAt before' c' defect') : before = before' ∧ c = c' := by
  rcases List.append_eq_append_iff.1 he with ⟨xs, rfl, hx⟩ | ⟨xs, rfl, hx⟩
  · cases xs with
    | nil => exact ⟨by simp, (List.cons.inj hx).1⟩
    | cons x xs =>
      obtain ⟨rfl, -⟩ := List.cons.inj hx
      exact absurd hd (hv' _ _ _ _ rfl)
  · cases xs with
    | nil => exact ⟨by simp, (List.cons.inj hx).1.symm⟩
    | cons x xs =>
      obtain ⟨rfl, -⟩ := List.cons.inj hx
      exact absurd hd' (hv _ _ _ _ rfl)

/-- A template has at most one first defect. -/
theorem FirstDefect.unique {cs : List Char} {defect defect' : Defect} {offset offset' : Nat}
    (h : FirstDefect cs defect offset) (h' : FirstDefect cs defect' offset') :
    defect' = defect ∧ offset' = offset := by
  cases h with
  | inside he hv hd =>
    cases h' with
    | inside he' hv' hd' =>
      obtain ⟨rfl, rfl⟩ := eq_of_first_defectAt (he.symm.trans he') hv hd hv' hd'
      exact ⟨hd'.unique hd, rfl⟩
    | unterminatedBlock hv' _ => exact absurd hd (hv' _ _ _ _ he)
    | unterminatedString hv' _ _ _ => exact absurd hd (hv' _ _ _ _ he)
  | unterminatedBlock hv ho =>
    cases h' with
    | inside he' _ hd' => exact absurd hd' (hv _ _ _ _ he')
    | unterminatedBlock _ ho' => exact ⟨rfl, by rw [ho.unique ho']⟩
    | unterminatedString _ hn _ _ => exact absurd ⟨_, ho⟩ hn
  | unterminatedString hv hn hl hq =>
    cases h' with
    | inside he' _ hd' => exact absurd hd' (hv _ _ _ _ he')
    | unterminatedBlock _ ho' => exact absurd ⟨_, ho'⟩ hn
    | unterminatedString _ _ _ hq' => exact ⟨rfl, by rw [hq.unique hq']⟩

end QueryTemplate.Template
