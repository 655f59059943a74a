import QueryTemplate.Template.Run
import Mathlib.Data.List.Basic

/-!
# Parts of a template

Read from left to right, a template splits into items and braces, and a pair of braces with the
items between them is a block. `Splits` relates a text to the tokens at its front and to the rest
that they leave; the rest is empty, or it starts with two question marks, or it is a literal
without an end. A list of tokens is that of a list of parts when its braces alternate.
-/

namespace QueryTemplate.Template

/-- What a template consists of, apart from braces. -/
inductive Item where
  /-- A literal, by the characters between its quotes. -/
  | literal (content : List Char)
  | placeholder (p : Placeholder)
  /-- Any other character. -/
  | plain (c : Char)
  deriving DecidableEq

/-- An item or a brace. -/
inductive Token where
  | item (i : Item)
  | opening
  | closing
  deriving DecidableEq

/-- An item outside blocks, or a block. -/
inductive Part where
  | item (i : Item)
  | block (items : List Item)
  deriving DecidableEq

/-- The characters that start something else than plain text. -/
def marks : List Char := ['\'', '?', '\x7b', '\x7d']

/-- Whether a question mark stands without a suffix before a text. -/
def StandsAlone : List Char → Prop
  | [] => True
  | c :: _ => c ≠ '?' ∧ Placeholder.ofSuffix? c = none

instance : DecidablePred StandsAlone
  | [] => inferInstanceAs (Decidable True)
  | c :: _ => inferInstanceAs (Decidable (c ≠ '?' ∧ Placeholder.ofSuffix? c = none))

/-- The token at the front of a text, with the text behind it. -/
inductive Front : List Char → Token → List Char → Prop where
  | literal {content cs} : '\'' ∉ content →
      Front ('\'' :: (content ++ '\'' :: cs)) (.item (.literal content)) cs
  | typed {c p cs} : Placeholder.ofSuffix? c = some p →
      Front ('?' :: c :: cs) (.item (.placeholder p)) cs
  | bare {cs} : StandsAlone cs → Front ('?' :: cs) (.item (.placeholder .generic)) cs
  | opening {cs} : Front ('\x7b' :: cs) .opening cs
  | closing {cs} : Front ('\x7d' :: cs) .closing cs
  | plain {c cs} : c ∉ marks → Front (c :: cs) (.item (.plain c)) cs

/-- `Splits cs ts rest`: a text `cs` consists of the tokens `ts` and of `rest`. -/
inductive Splits : List Char → List Token → List Char → Prop where
  | done {cs} : Splits cs [] cs
  | next {cs t cs' ts rest} : Front cs t cs' → Splits cs' ts rest → Splits cs (t :: ts) rest

def Part.tokens : Part → List Token
  | item i => [.item i]
  | block items => .opening :: (items.map .item ++ [.closing])

def Part.items : Part → List Item
  | item i => [i]
  | block items => items

/-- A template consists of parts: it splits into their tokens without a rest. -/
def ConsistsOf (template : String) (parts : List Part) : Prop :=
  Splits template.toList (parts.flatMap Part.tokens) []

lemma Splits.exists_front {cs rest : List Char} {ts : List Token} {t : Token}
    (h : Splits cs ts rest) (ht : t ∈ ts) : ∃ text cs', Front text t cs' := by
  induction h with
  | done => cases ht
  | next hf _ ih =>
    rcases List.mem_cons.1 ht with rfl | ht
    · exact ⟨_, _, hf⟩
    · exact ih ht

lemma Part.item_mem_tokens {part : Part} {i : Item} (h : i ∈ part.items) :
    .item i ∈ part.tokens := by
  cases part with
  | item j =>
    rw [List.mem_singleton.1 h]
    exact List.mem_singleton_self _
  | block items =>
    exact List.mem_cons_of_mem _ (List.mem_append_left _ (List.mem_map_of_mem h))

/-- Each item of a template stands at the front of a part of it. -/
lemma ConsistsOf.exists_front {template : String} {parts : List Part} {i : Item}
    (h : ConsistsOf template parts) (hi : i ∈ parts.flatMap Part.items) :
    ∃ text cs, Front text (.item i) cs := by
  obtain ⟨part, hpart, hi⟩ := List.mem_flatMap.1 hi
  exact Splits.exists_front h (List.mem_flatMap.2 ⟨part, hpart, Part.item_mem_tokens hi⟩)

/-! ### Where splitting stops -/

/-- A text at whose front there is no token. -/
inductive Stuck : List Char → Prop where
  | empty : Stuck []
  | double {cs} : Stuck ('?' :: '?' :: cs)
  | openLiteral {content} : '\'' ∉ content → Stuck ('\'' :: content)

lemma Front.length_lt {cs cs' : List Char} {t : Token} (h : Front cs t cs') :
    cs'.length < cs.length := by
  cases h <;> simp only [List.length_cons, List.length_append] <;> omega

lemma stuck_or_exists_front (cs : List Char) : Stuck cs ∨ ∃ t cs', Front cs t cs' := by
  match cs with
  | [] => exact .inl .empty
  | c :: cs =>
    by_cases hc : c ∈ marks
    · simp only [marks, List.mem_cons, List.not_mem_nil, or_false] at hc
      rcases hc with rfl | rfl | rfl | rfl
      · by_cases hq : '\'' ∈ cs
        · obtain ⟨content, cs', rfl, hcontent⟩ := List.eq_append_cons_of_mem hq
          exact .inr ⟨_, cs', .literal hcontent⟩
        · exact .inl (.openLiteral hq)
      · match cs with
        | [] => exact .inr ⟨_, [], .bare trivial⟩
        | d :: cs =>
          by_cases hd : d = '?'
          · exact .inl (hd ▸ .double)
          · cases hp : Placeholder.ofSuffix? d with
            | some p => exact .inr ⟨_, cs, .typed hp⟩
            | none => exact .inr ⟨_, d :: cs, .bare ⟨hd, hp⟩⟩
      · exact .inr ⟨_, cs, .opening⟩
      · exact .inr ⟨_, cs, .closing⟩
    · exact .inr ⟨_, cs, .plain hc⟩

/-- Every text splits into tokens up to a rest without a token at its front. -/
theorem exists_splits (cs : List Char) : ∃ ts rest, Splits cs ts rest ∧ Stuck rest := by
  induction h : cs.length using Nat.strongRecOn generalizing cs with
  | ind n ih =>
    rcases stuck_or_exists_front cs with hs | ⟨t, cs', hf⟩
    · exact ⟨[], cs, .done, hs⟩
    · obtain ⟨ts, rest, hs, hr⟩ := ih cs'.length (h ▸ hf.length_lt) cs' rfl
      exact ⟨t :: ts, rest, .next hf hs, hr⟩

/-! ### Braces -/

def Token.brace? : Token → Option Char
  | item _ => none
  | opening => some '\x7b'
  | closing => some '\x7d'

def braces (ts : List Token) : List Char := ts.filterMap Token.brace?

lemma braces_cons (t : Token) (ts : List Token) :
    braces (t :: ts) = t.brace?.toList ++ braces ts := by
  cases t <;> rfl

@[simp] lemma braces_item (i : Item) (ts : List Token) : braces (.item i :: ts) = braces ts := rfl

@[simp] lemma braces_opening (ts : List Token) :
    braces (.opening :: ts) = '\x7b' :: braces ts := rfl

@[simp] lemma braces_closing (ts : List Token) :
    braces (.closing :: ts) = '\x7d' :: braces ts := rfl

@[simp] lemma braces_append (ts us : List Token) : braces (ts ++ us) = braces ts ++ braces us :=
  List.filterMap_append

@[simp] lemma braces_items (items : List Item) : braces (items.map .item) = [] := by
  induction items with
  | nil => rfl
  | cons i items ih => exact ih

/-- `n` pairs of braces. -/
def pairs (n : Nat) : List Char := (List.replicate n ['\x7b', '\x7d']).flatten

@[simp] lemma pairs_zero : pairs 0 = [] := rfl

@[simp] lemma pairs_succ (n : Nat) : pairs (n + 1) = '\x7b' :: '\x7d' :: pairs n := rfl

lemma exists_braces_parts (parts : List Part) :
    ∃ n, braces (parts.flatMap Part.tokens) = pairs n := by
  induction parts with
  | nil => exact ⟨0, rfl⟩
  | cons part parts ih =>
    obtain ⟨n, hn⟩ := ih
    cases part with
    | item i => exact ⟨n, by simpa [Part.tokens] using hn⟩
    | block items => exact ⟨n + 1, by simp [Part.tokens, hn]⟩

/-- Tokens whose braces alternate are those of parts. The second half is about tokens inside a
block. -/
lemma exists_parts_aux (ts : List Token) :
    (∀ n, braces ts = pairs n → ∃ parts : List Part, ts = parts.flatMap Part.tokens) ∧
      ∀ n, braces ts = '\x7d' :: pairs n → ∃ (items : List Item) (parts : List Part),
        ts = items.map .item ++ .closing :: parts.flatMap Part.tokens := by
  induction ts with
  | nil => exact ⟨fun _ _ => ⟨[], rfl⟩, fun _ h => by cases h⟩
  | cons t ts ih =>
    obtain ⟨outside, inside⟩ := ih
    cases t with
    | item i =>
      constructor
      · intro n h
        obtain ⟨parts, rfl⟩ := outside n h
        exact ⟨.item i :: parts, rfl⟩
      · intro n h
        obtain ⟨items, parts, rfl⟩ := inside n h
        exact ⟨i :: items, parts, rfl⟩
    | opening =>
      constructor
      · intro n h
        cases n with
        | zero => cases h
        | succ n =>
          obtain ⟨items, parts, rfl⟩ := inside n (List.cons.inj h).2
          exact ⟨.block items :: parts, by simp [Part.tokens]⟩
      · intro n h
        exact absurd (List.cons.inj h).1 (by decide)
    | closing =>
      constructor
      · intro n h
        cases n with
        | zero => cases h
        | succ n => exact absurd (List.cons.inj h).1 (by decide)
      · intro n h
        obtain ⟨parts, rfl⟩ := outside n (List.cons.inj h).2
        exact ⟨[], parts, rfl⟩

theorem exists_parts_of_braces {ts : List Token} {n : Nat} (h : braces ts = pairs n) :
    ∃ parts : List Part, ts = parts.flatMap Part.tokens :=
  (exists_parts_aux ts).1 n h

/-! ### A template has one list of parts -/

/-- Lists are equal up to the first of the elements that both contain, and after it. -/
lemma append_cons_inj {α : Type} {a : α} {xs xs' ys ys' : List α} (h : a ∉ xs) (h' : a ∉ xs')
    (he : xs ++ a :: ys = xs' ++ a :: ys') : xs = xs' ∧ ys = ys' := by
  induction xs generalizing xs' with
  | nil =>
    cases xs' with
    | nil => exact ⟨rfl, (List.cons.inj he).2⟩
    | cons x' xs' => exact absurd (List.mem_cons.2 (.inl (List.cons.inj he).1)) h'
  | cons x xs ih =>
    cases xs' with
    | nil => exact absurd (List.mem_cons.2 (.inl (List.cons.inj he).1.symm)) h
    | cons x' xs' =>
      obtain ⟨rfl, ht⟩ := List.cons.inj he
      obtain ⟨rfl, rfl⟩ := ih (fun hm => h (.tail _ hm)) (fun hm => h' (.tail _ hm)) ht
      exact ⟨rfl, rfl⟩

/-- A text has one token at its front. -/
lemma Front.unique {cs cs' cs'' : List Char} {t u : Token} (h : Front cs t cs')
    (h' : Front cs u cs'') : t = u ∧ cs' = cs'' := by
  generalize he : cs = ds at h'
  have hmarks : ∀ {c d : Char} {xs ys : List Char}, c ∈ marks → d ∉ marks → c :: xs ≠ d :: ys :=
    fun hc hd he => hd ((List.cons.inj he).1 ▸ hc)
  have hhead : ∀ {c d : Char} {xs ys : List Char}, c ≠ d → c :: xs ≠ d :: ys :=
    fun hne he => hne (List.cons.inj he).1
  cases h with
  | literal hq =>
    cases h' with
    | literal hq' =>
      obtain ⟨rfl, rfl⟩ := append_cons_inj hq hq' (List.cons.inj he).2
      exact ⟨rfl, rfl⟩
    | plain hc => exact absurd he (hmarks (by decide) hc)
    | _ => exact absurd he (hhead (by decide))
  | typed hp =>
    cases h' with
    | typed hp' =>
      obtain ⟨rfl, rfl⟩ := List.cons.inj (List.cons.inj he).2
      rw [hp, Option.some.injEq] at hp'
      exact ⟨by rw [hp'], rfl⟩
    | bare hs =>
      rw [← (List.cons.inj he).2] at hs
      rw [hs.2] at hp
      cases hp
    | plain hc => exact absurd he (hmarks (by decide) hc)
    | _ => exact absurd he (hhead (by decide))
  | bare hs =>
    cases h' with
    | typed hp =>
      rw [(List.cons.inj he).2] at hs
      rw [hs.2] at hp
      cases hp
    | bare _ => exact ⟨rfl, (List.cons.inj he).2⟩
    | plain hc => exact absurd he (hmarks (by decide) hc)
    | _ => exact absurd he (hhead (by decide))
  | opening =>
    cases h' with
    | opening => exact ⟨rfl, (List.cons.inj he).2⟩
    | plain hc => exact absurd he (hmarks (by decide) hc)
    | _ => exact absurd he (hhead (by decide))
  | closing =>
    cases h' with
    | closing => exact ⟨rfl, (List.cons.inj he).2⟩
    | plain hc => exact absurd he (hmarks (by decide) hc)
    | _ => exact absurd he (hhead (by decide))
  | plain hc =>
    cases h' with
    | plain _ => obtain ⟨rfl, rfl⟩ := List.cons.inj he; exact ⟨rfl, rfl⟩
    | _ => exact absurd he.symm (hmarks (by decide) hc)

lemma Splits.unique {cs : List Char} {ts us : List Token} (h : Splits cs ts [])
    (h' : Splits cs us []) : ts = us := by
  generalize hr : ([] : List Char) = rest at h
  induction h generalizing us with
  | done =>
    subst hr
    cases h' with
    | done => rfl
    | next hf _ => exact absurd hf.length_lt (Nat.not_lt_zero _)
  | next hf _ ih =>
    cases h' with
    | done => exact absurd hf.length_lt (Nat.not_lt_zero _)
    | next hf' hs' =>
      obtain ⟨rfl, rfl⟩ := hf.unique hf'
      rw [ih hs' hr]

lemma tokens_injective {parts parts' : List Part}
    (h : parts.flatMap Part.tokens = parts'.flatMap Part.tokens) : parts = parts' := by
  have hclosing : ∀ items : List Item, Token.closing ∉ items.map Token.item := by simp
  induction parts generalizing parts' with
  | nil =>
    cases parts' with
    | nil => rfl
    | cons part' _ => cases part' <;> cases h
  | cons part parts ih =>
    cases parts' with
    | nil => cases part <;> cases h
    | cons part' parts' =>
      cases part with
      | item i =>
        cases part' with
        | item i' =>
          obtain ⟨hi, ht⟩ := List.cons.inj h
          rw [Token.item.inj hi, ih ht]
        | block items' => cases h
      | block items =>
        cases part' with
        | item i' => cases h
        | block items' =>
          simp only [List.flatMap_cons, Part.tokens, List.cons_append, List.append_assoc,
            List.nil_append, List.cons.injEq, true_and] at h
          obtain ⟨hitems, ht⟩ := append_cons_inj (hclosing items) (hclosing items') h
          rw [List.map_injective_iff.2 (fun _ _ => Token.item.inj) hitems, ih ht]

/-- A template consists of one list of parts. -/
theorem ConsistsOf.unique {template : String} {parts parts' : List Part}
    (h : ConsistsOf template parts) (h' : ConsistsOf template parts') : parts = parts' :=
  tokens_injective (Splits.unique h h')

end QueryTemplate.Template
