import QueryTemplate.Command
import Mathlib.Data.List.Infix
import Mathlib.Tactic.Common

/-!
# Entries of a command line

The arguments behind the name of a command form entries: an option with its value, which stands
behind an equals sign or is the next argument, or the text of a template. What an argument is can
be told from its text, except that the argument behind an option is a value whatever its text.
Reading an entry puts one value into the draft of the command.
-/

namespace QueryTemplate.Command

/-- The text of an option with the equals sign in front of its value. -/
def Flag.mark (flag : Flag) : String := flag.text ++ "="

/-- The value that is read behind an option and an equals sign: copies of both at the head of the
value do not count. -/
def Flag.taken (flag : Flag) (value : String) : String :=
  match flag.mark.toList with
  | [] => value
  | head :: tail => String.ofList (dropCopies head tail value.toList)

/-- What is left of a value without the copies of an option and an equals sign at its head. -/
structure IsTaken (flag : Flag) (value taken : String) : Prop where
  copies : ∃ n, value.toList = (List.replicate n flag.mark.toList).flatten ++ taken.toList
  bare : ¬flag.mark.toList <+: taken.toList

/-- An argument that is neither an option nor a call for help. -/
def IsTemplate (text : String) : Prop := ¬"--".toList <+: text.toList ∧ text ≠ "-h"

inductive Spelling where
  | joined
  | apart
  deriving DecidableEq

/-- An option with its value, or a template. -/
inductive Entry where
  | option (flag : Flag) (spelling : Spelling) (value : String)
  | template (text : String) (isTemplate : IsTemplate text)

namespace Entry

/-- The arguments that an entry is made of. -/
def tokens : Entry → List String
  | option flag .joined value => [flag.mark ++ value]
  | option flag .apart value => [flag.text, value]
  | template text _ => [text]

/-- The option of an entry; a template has none. -/
def flag? : Entry → Option Flag
  | option flag _ _ => some flag
  | template _ _ => none

/-- The value that an entry gives to its option, or the text of the template. -/
def value : Entry → String
  | option flag .joined value => flag.taken value
  | option _ .apart value => value
  | template text _ => text

end Entry

/-! ### Copies at the head of a value -/

lemma Flag.mark_toList (flag : Flag) : flag.mark.toList = flag.text.toList ++ ['='] := by
  rw [mark, String.toList_append]
  rfl

lemma Flag.mark_toList_eq_cons (flag : Flag) :
    ∃ tail, flag.mark.toList = '-' :: '-' :: tail := by
  cases flag <;> exact ⟨_, rfl⟩

lemma dropCopies_append {head : Char} {tail rest : List Char} :
    dropCopies head tail (head :: tail ++ rest) = dropCopies head tail rest := by
  rw [List.cons_append, dropCopies, if_pos (by simp), List.drop_left]

lemma dropCopies_of_not {head : Char} {tail cs : List Char} (h : ¬head :: tail <+: cs) :
    dropCopies head tail cs = cs := by
  cases cs with
  | nil => rw [dropCopies]
  | cons c rest => rw [dropCopies, if_neg (by rwa [List.isPrefixOf_iff_prefix])]

lemma exists_dropCopies (head : Char) (tail cs : List Char) :
    (∃ n, cs = (List.replicate n (head :: tail)).flatten ++ dropCopies head tail cs) ∧
      ¬head :: tail <+: dropCopies head tail cs := by
  by_cases h : head :: tail <+: cs
  · obtain ⟨rest, rfl⟩ := h
    obtain ⟨⟨n, hn⟩, hbare⟩ := exists_dropCopies head tail rest
    rw [dropCopies_append]
    refine ⟨⟨n + 1, ?_⟩, hbare⟩
    rw [List.replicate_succ, List.flatten_cons, List.append_assoc, ← hn]
  · rw [dropCopies_of_not h]
    exact ⟨⟨0, rfl⟩, h⟩
termination_by cs.length
decreasing_by subst cs; simp only [List.length_append, List.length_cons]; omega

lemma Flag.taken_toList {flag : Flag} {head : Char} {tail : List Char}
    (h : flag.mark.toList = head :: tail) (value : String) :
    (flag.taken value).toList = dropCopies head tail value.toList := by
  rw [taken, h]
  exact String.toList_ofList

lemma isTaken_taken (flag : Flag) (value : String) : IsTaken flag value (flag.taken value) := by
  obtain ⟨tail, h⟩ := flag.mark_toList_eq_cons
  have htaken := Flag.taken_toList h value
  obtain ⟨hcopies, hbare⟩ := exists_dropCopies '-' ('-' :: tail) value.toList
  rw [← htaken, ← h] at hcopies hbare
  exact ⟨hcopies, hbare⟩

/-- A value is read as it stands exactly when no copy is at its head. -/
lemma Flag.taken_eq_self_iff {flag : Flag} {value : String} :
    flag.taken value = value ↔ ¬flag.mark.toList <+: value.toList := by
  obtain ⟨tail, h⟩ := flag.mark_toList_eq_cons
  constructor
  · intro he
    have hbare := (isTaken_taken flag value).bare
    rwa [he] at hbare
  · intro hbare
    rw [← String.toList_inj, taken_toList h, dropCopies_of_not (by rwa [← h])]

/-! ### What an argument is -/

lemma Flag.text_ne (flag : Flag) : flag.text ≠ "-h" ∧ flag.text ≠ "--help" := by
  cases flag <;> decide

lemma Flag.find?_text (flag : Flag) : Flag.all.find? (·.text == flag.text) = some flag := by
  cases flag <;> rfl

lemma Token.ofText_flag (flag : Flag) : Token.ofText flag.text = .flag flag := by
  rw [Token.ofText, if_neg (not_or.2 flag.text_ne), Flag.find?_text]

lemma Flag.eq_of_mark_isPrefix {flag other : Flag} {cs : List Char}
    (h : other.mark.toList <+: flag.mark.toList ++ cs) : other = flag := by
  cases other <;> cases flag <;> simp_all [mark, text]

/-- Only the option that a text starts with is assigned a value by it. -/
lemma Flag.assignedValue?_eq (flag : Flag) (cs : List Char) :
    flag.assignedValue? cs = if flag.mark.toList <+: cs then
      some (flag.taken (String.ofList (cs.drop flag.mark.toList.length))).toList else none := by
  obtain ⟨tail, h⟩ := flag.mark_toList_eq_cons
  rw [assignedValue?, ← mark_toList, taken_toList h, String.toList_ofList, h]
  by_cases hp : '-' :: '-' :: tail <+: cs
  · obtain ⟨rest, rfl⟩ := hp
    simp only [dropCopies_append, List.drop_left, List.prefix_append, if_true,
      List.isPrefixOf_iff_prefix]
  · simp only [hp, if_false, List.isPrefixOf_iff_prefix]

lemma Flag.mark_append_ne (flag : Flag) (value : String) :
    ¬(flag.mark ++ value = "-h" ∨ flag.mark ++ value = "--help") ∧
      ∀ other : Flag, other.text ≠ flag.mark ++ value := by
  simp only [ne_eq, ← String.toList_inj, String.toList_append]
  refine ⟨?_, fun other => ?_⟩
  · cases flag <;> simp [mark, text]
  · cases flag <;> cases other <;> simp [mark, text]

lemma Token.ofText_mark (flag : Flag) (value : String) :
    Token.ofText (flag.mark ++ value) = .assigned flag (flag.taken value) := by
  obtain ⟨hhelp, htexts⟩ := flag.mark_append_ne value
  have hfind : Flag.all.find? (·.text == flag.mark ++ value) = none := by
    rw [List.find?_eq_none]
    intro other _
    simpa using htexts other
  have hassigned : (Flag.all.findSome? fun f =>
      (f.assignedValue? (flag.mark ++ value).toList).map fun v => (f, v)) =
        some (flag, (flag.taken value).toList) := by
    have hvalue : ∀ f : Flag, f.assignedValue? (flag.mark ++ value).toList =
        if f = flag then some (flag.taken value).toList else none := by
      intro f
      rw [Flag.assignedValue?_eq, String.toList_append]
      by_cases hf : f = flag
      · subst hf
        rw [if_pos (List.prefix_append _ _), if_pos rfl, List.drop_left, String.ofList_toList]
      · rw [if_neg fun h => hf (Flag.eq_of_mark_isPrefix h), if_neg hf]
    simp only [hvalue]
    cases flag <;> rfl
  rw [Token.ofText, if_neg hhelp, hfind, hassigned]
  simp

/-- Every argument is one of five kinds, by its text alone. -/
lemma Token.ofText_cases (text : String) :
    Token.ofText text = .help ∧ (text = "-h" ∨ text = "--help") ∨
      (∃ flag, Token.ofText text = .flag flag ∧ text = flag.text) ∨
      (∃ flag value, Token.ofText text = .assigned flag (flag.taken value) ∧
        text = flag.mark ++ value) ∨
      Token.ofText text = .unknown ∧ "--".toList <+: text.toList ∨
      Token.ofText text = .template ∧ IsTemplate text := by
  by_cases hhelp : text = "-h" ∨ text = "--help"
  · exact .inl ⟨by rw [Token.ofText, if_pos hhelp], hhelp⟩
  · cases hfind : Flag.all.find? (·.text == text) with
    | some flag =>
      obtain rfl : flag.text = text := by simpa using List.find?_some hfind
      exact .inr (.inl ⟨flag, Token.ofText_flag flag, rfl⟩)
    | none =>
      cases hassigned : Flag.all.findSome? fun f =>
          (f.assignedValue? text.toList).map fun v => (f, v) with
      | some assigned =>
        obtain ⟨flag, -, hflag⟩ := List.exists_of_findSome?_eq_some hassigned
        have hp : flag.mark.toList <+: text.toList := by
          rw [Flag.assignedValue?_eq] at hflag
          by_contra hp
          rw [if_neg hp] at hflag
          cases hflag
        obtain ⟨rest, hrest⟩ := hp
        obtain rfl : text = flag.mark ++ String.ofList rest := by
          rw [← String.toList_inj, String.toList_append, String.toList_ofList, hrest]
        exact .inr (.inr (.inl ⟨flag, _, Token.ofText_mark flag _, rfl⟩))
      | none =>
        have htoken : Token.ofText text =
            if "--".toList.isPrefixOf text.toList then .unknown else .template := by
          rw [Token.ofText, if_neg hhelp, hfind, hassigned]
          rfl
        by_cases hp : "--".toList <+: text.toList
        · rw [if_pos (List.isPrefixOf_iff_prefix.2 hp)] at htoken
          exact .inr (.inr (.inr (.inl ⟨htoken, hp⟩)))
        · rw [if_neg fun h => hp (List.isPrefixOf_iff_prefix.1 h)] at htoken
          exact .inr (.inr (.inr (.inr ⟨htoken, hp, fun h => hhelp (.inl h)⟩)))

lemma IsTemplate.ofText_eq {text : String} (h : IsTemplate text) :
    Token.ofText text = .template := by
  obtain ⟨hdashes, hshort⟩ := h
  rcases Token.ofText_cases text with ⟨-, rfl | rfl⟩ | ⟨flag, -, rfl⟩ | ⟨flag, value, -, rfl⟩ |
    ⟨-, hp⟩ | ⟨htoken, -⟩
  · exact absurd rfl hshort
  · exact absurd (by decide) hdashes
  · exact absurd (by cases flag <;> decide) hdashes
  · obtain ⟨tail, hmark⟩ := flag.mark_toList_eq_cons
    exact absurd (by simp [hmark]) hdashes
  · exact absurd hp hdashes
  · exact htoken

/-! ### Reading entries -/

namespace Draft

/-- The value that a draft holds for an option, or its template. -/
def held (d : Draft) : Option Flag → Option String
  | none => d.inline
  | some .config => d.config
  | some .file => d.file
  | some .params => d.params
  | some .skip => d.skip

/-- A draft with the value of an entry in place of an earlier one. -/
def put (d : Draft) : Entry → Draft
  | .template text _ => { d with inline := some text }
  | .option flag spelling value => d.assign flag (Entry.option flag spelling value).value

variable {d d' : Draft} {u : Entry}

lemma eq_of_held_eq (h : ∀ key, d.held key = d'.held key) : d = d' := by
  rcases d with ⟨config, file, inline, params, skip⟩
  rcases d' with ⟨config', file', inline', params', skip'⟩
  obtain rfl : config = config' := h (some .config)
  obtain rfl : file = file' := h (some .file)
  obtain rfl : inline = inline' := h none
  obtain rfl : params = params' := h (some .params)
  obtain rfl : skip = skip' := h (some .skip)
  rfl

lemma held_assign (d : Draft) (flag : Flag) (value : String) (key : Option Flag) :
    (d.assign flag value).held key = if some flag = key then some value else d.held key := by
  cases flag <;> rcases key with _ | _ | _ | _ | _ <;> rfl

lemma held_put (d : Draft) (u : Entry) (key : Option Flag) :
    (d.put u).held key = if u.flag? = key then some u.value else d.held key := by
  cases u with
  | option flag spelling value => exact held_assign d flag _ key
  | template text _ => rcases key with _ | _ | _ | _ | _ <;> rfl

lemma read_help {text : String} (h : text = "-h" ∨ text = "--help") (rest : List String) :
    d.read (text :: rest) = .ok (.help .render) := by
  rw [read, Token.ofText, if_pos h]

lemma read_apart (d : Draft) (flag : Flag) (value : String) (rest : List String) :
    d.read (flag.text :: value :: rest) = (d.assign flag value).read rest := by
  rw [read, Token.ofText_flag]

lemma read_joined (d : Draft) (flag : Flag) (value : String) (rest : List String) :
    d.read ((flag.mark ++ value) :: rest) = (d.assign flag (flag.taken value)).read rest := by
  rw [read, Token.ofText_mark]

lemma read_of_isTemplate {text : String} (h : IsTemplate text) (rest : List String) :
    d.read (text :: rest) =
      if d.inline = none then read { d with inline := some text } rest
      else .error (.extraTemplate text) := by
  rw [read, h.ofText_eq]
  cases hinline : d.inline <;> simp

lemma read_of_unknown {text : String} (h : Token.ofText text = .unknown) (rest : List String) :
    d.read (text :: rest) = .error (.unknownArgument text) := by
  rw [read, h]

/-- Reading an entry puts its value into the draft; a second template is refused. -/
lemma read_entry (h : u.flag? = none → d.inline = none) (rest : List String) :
    d.read (u.tokens ++ rest) = (d.put u).read rest := by
  cases u with
  | option flag spelling value =>
    cases spelling with
    | joined => exact read_joined d flag value rest
    | apart => exact read_apart d flag value rest
  | template text ht =>
    have hread := read_of_isTemplate (d := d) ht rest
    rwa [if_pos (h rfl)] at hread

end Draft

end QueryTemplate.Command
