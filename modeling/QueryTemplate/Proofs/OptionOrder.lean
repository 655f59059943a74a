import QueryTemplate.Proofs.CommandEntries
import Mathlib.Data.List.Perm.Basic

/-!
# The order of options

A command line of whole entries, at most one of them a template, is read into the last value of
each option. So entries of different options may change places, and the answer is told from these
values: a command, the refusal of two templates, or the help when there is none. A call for help
behind the entries gives the help whatever follows it.
-/

namespace QueryTemplate.Command

/-- The value of the last entry of an option, or of the template. -/
def lastValue? (key : Option Flag) (us : List Entry) : Option String :=
  ((us.filter (·.flag? = key)).getLast?).map Entry.value

/-- The command with the last value of each option, and a template. -/
def commandOf (us : List Entry) (template : TemplateSource) : RenderCommand where
  config := (lastValue? (some .config) us).getD defaultConfig
  configExplicit := (lastValue? (some .config) us).isSome
  template := template
  params := lastValue? (some .params) us
  skip := lastValue? (some .skip) us

/-- At most one of some entries is a template. -/
def HasOneTemplate (us : List Entry) : Prop := us.countP (·.flag? = none) ≤ 1

variable {key : Option Flag} {us vs : List Entry}

lemma lastValue?_cons (key : Option Flag) (u : Entry) (us : List Entry) :
    lastValue? key (u :: us) =
      (lastValue? key us).or (if u.flag? = key then some u.value else none) := by
  by_cases h : u.flag? = key
  · cases hl : (us.filter (·.flag? = key)).getLast? <;>
      simp [lastValue?, h, hl, List.getLast?_cons]
  · simp [lastValue?, h]

lemma lastValue?_append (key : Option Flag) (us vs : List Entry) :
    lastValue? key (us ++ vs) = (lastValue? key vs).or (lastValue? key us) := by
  simp [lastValue?, List.getLast?_append, Option.map_or]

namespace Draft

/-- A draft with the values of entries, one after the other. -/
def putAll (d : Draft) (us : List Entry) : Draft := us.foldl put d

lemma held_putAll (d : Draft) (us : List Entry) (key : Option Flag) :
    (d.putAll us).held key = (lastValue? key us).or (d.held key) := by
  induction us generalizing d with
  | nil => rfl
  | cons u us ih =>
    have hstep : d.putAll (u :: us) = (d.put u).putAll us := rfl
    rw [hstep, ih, held_put, lastValue?_cons]
    by_cases h : u.flag? = key <;> simp [h]

lemma held_putAll_empty (us : List Entry) (key : Option Flag) :
    (empty.putAll us).held key = lastValue? key us := by
  have hempty : empty.held key = none := by
    rcases key with _ | _ | _ | _ | _ <;> rfl
  rw [held_putAll, hempty, Option.or_none]

/-- Entries are read into the draft when there is one template at most, that of the draft
included. -/
lemma read_entries (d : Draft)
    (h : us.countP (·.flag? = none) + (d.held none).toList.length ≤ 1) (rest : List String) :
    d.read (us.flatMap Entry.tokens ++ rest) = (d.putAll us).read rest := by
  induction us generalizing d with
  | nil => rfl
  | cons u us ih =>
    rw [List.countP_cons] at h
    have hput : u.flag? = none → d.inline = none := by
      intro hu
      cases hd : d.inline with
      | none => rfl
      | some _ => simp [hu, hd, held] at h
    rw [List.flatMap_cons, List.append_assoc, read_entry hput]
    refine ih (d.put u) ?_
    rw [held_put]
    by_cases hu : u.flag? = none
    · rw [if_pos (decide_eq_true hu)] at h
      rw [if_pos hu, Option.toList_some, List.length_singleton]
      omega
    · rw [if_neg (by simpa using hu)] at h
      rw [if_neg hu]
      omega

end Draft

lemma ofArguments_eq_read (program : String) (h : HasOneTemplate us) (rest : List String) :
    ofArguments (program :: "render" :: (us.flatMap Entry.tokens ++ rest)) =
      (Draft.empty.putAll us).read rest :=
  Draft.empty.read_entries h rest

lemma ofArguments_eq_finish (program : String) (h : HasOneTemplate us) :
    ofArguments (program :: "render" :: us.flatMap Entry.tokens) =
      (Draft.empty.putAll us).finish := by
  have hread := ofArguments_eq_read program h []
  rwa [List.append_nil, Draft.read] at hread

/-- Command lines with the same last values give the same answer. -/
lemma ofArguments_congr (program : String) (hu : HasOneTemplate us) (hv : HasOneTemplate vs)
    (h : ∀ key, lastValue? key vs = lastValue? key us) :
    ofArguments (program :: "render" :: vs.flatMap Entry.tokens) =
      ofArguments (program :: "render" :: us.flatMap Entry.tokens) := by
  have hdraft : Draft.empty.putAll vs = Draft.empty.putAll us := by
    apply Draft.eq_of_held_eq
    intro key
    rw [Draft.held_putAll_empty, Draft.held_putAll_empty, h]
  rw [ofArguments_eq_finish program hu, ofArguments_eq_finish program hv, hdraft]

/-- Entries in another order have the same template when there is one at most. -/
lemma HasOneTemplate.filter_eq (h : HasOneTemplate us) (hp : vs.Perm us) :
    vs.filter (·.flag? = none) = us.filter (·.flag? = none) := by
  have hfilter := hp.filter (·.flag? = none)
  rw [HasOneTemplate, List.countP_eq_length_filter] at h
  generalize us.filter (·.flag? = none) = templates at *
  match templates with
  | [] => exact List.perm_nil.1 hfilter
  | [u] => exact List.perm_singleton.1 hfilter
  | u :: v :: _ => simp at h

/-- Entries may change places with those of other options. -/
lemma lastValue?_eq_of_perm (h : HasOneTemplate us) (hp : vs.Perm us)
    (hkeeps : ∀ flag, vs.filter (·.flag? = some flag) = us.filter (·.flag? = some flag))
    (key : Option Flag) : lastValue? key vs = lastValue? key us := by
  rw [lastValue?, lastValue?]
  cases key with
  | none => rw [h.filter_eq hp]
  | some flag => rw [hkeeps flag]

/-- An entry hides the entries of its option in front of it. -/
lemma lastValue?_hidden {before after : List Entry} {u : Entry} {flag : Flag}
    (hu : u.flag? = some flag) (key : Option Flag) :
    lastValue? key (before.filter (·.flag? ≠ some flag) ++ u :: after) =
      lastValue? key (before ++ u :: after) := by
  rw [lastValue?_append, lastValue?_append]
  by_cases hkey : key = some flag
  · subst hkey
    rw [lastValue?_cons, if_pos hu]
    simp
  · have hfilter : (before.filter (·.flag? ≠ some flag)).filter (·.flag? = key) =
        before.filter (·.flag? = key) := by
      rw [List.filter_filter]
      apply List.filter_congr
      intro w _
      grind
    have hbefore :
        lastValue? key (before.filter (·.flag? ≠ some flag)) = lastValue? key before := by
      rw [lastValue?, hfilter, ← lastValue?]
    rw [hbefore]

/-- The answer to a command line of entries, at most one of them a template, does not depend on the
order of entries of different options, and of each option only the last entry counts. A template
and a file together are refused, one of them gives a command, and neither of them the help, which
is also the answer when a call for help stands behind the entries. -/
theorem ofArguments_entries (program : String) {us : List Entry} (h : HasOneTemplate us) :
    let answer := fun vs : List Entry =>
      ofArguments (program :: "render" :: vs.flatMap Entry.tokens)
    (∀ vs : List Entry, vs.Perm us →
        (∀ flag, vs.filter (·.flag? = some flag) = us.filter (·.flag? = some flag)) →
        answer vs = answer us) ∧
      (∀ before u after flag, us = before ++ u :: after → u.flag? = some flag →
        answer (before.filter (·.flag? ≠ some flag) ++ u :: after) = answer us) ∧
      (∀ text path, lastValue? none us = some text → lastValue? (some .file) us = some path →
        answer us = .error .twoTemplates) ∧
      (∀ text, lastValue? none us = some text → lastValue? (some .file) us = none →
        answer us = .ok (.render (commandOf us (.inline text)))) ∧
      (∀ path, lastValue? none us = none → lastValue? (some .file) us = some path →
        answer us = .ok (.render (commandOf us (.file path)))) ∧
      (lastValue? none us = none → lastValue? (some .file) us = none →
        answer us = .ok (.help .render)) ∧
      ∀ text, text = "-h" ∨ text = "--help" → ∀ rest,
        ofArguments (program :: "render" :: (us.flatMap Entry.tokens ++ text :: rest)) =
          .ok (.help .render) := by
  intro answer
  have hanswer : answer us = (Draft.empty.putAll us).finish := ofArguments_eq_finish program h
  have hinline : (Draft.empty.putAll us).inline = lastValue? none us :=
    Draft.held_putAll_empty us none
  have hfile : (Draft.empty.putAll us).file = lastValue? (some .file) us :=
    Draft.held_putAll_empty us (some .file)
  have hconfig : (Draft.empty.putAll us).config = lastValue? (some .config) us :=
    Draft.held_putAll_empty us (some .config)
  have hparams : (Draft.empty.putAll us).params = lastValue? (some .params) us :=
    Draft.held_putAll_empty us (some .params)
  have hskip : (Draft.empty.putAll us).skip = lastValue? (some .skip) us :=
    Draft.held_putAll_empty us (some .skip)
  rw [Draft.finish, hinline, hfile, hconfig, hparams, hskip] at hanswer
  refine ⟨?_, ?_, ?_, ?_, ?_, ?_, ?_⟩
  · intro vs hp hkeeps
    have hv : HasOneTemplate vs := by rwa [HasOneTemplate, hp.countP_eq]
    exact ofArguments_congr program h hv (lastValue?_eq_of_perm h hp hkeeps)
  · rintro before u after flag rfl hu
    refine ofArguments_congr program h ?_ (lastValue?_hidden hu)
    rw [HasOneTemplate, List.countP_append] at h ⊢
    refine le_trans (Nat.add_le_add_right ?_ _) h
    exact (List.filter_sublist (l := before)).countP_le
  · intro text path ht hf
    rw [hanswer, ht, hf]
  · intro text ht hf
    rw [hanswer, ht, hf]
    rfl
  · intro path ht hf
    rw [hanswer, ht, hf]
    rfl
  · intro ht hf
    rw [hanswer, ht, hf]
  · intro text htext rest
    rw [ofArguments_eq_read program h]
    exact Draft.read_help htext rest

/-- Parameters that look like a call for help move behind the template, and the parameters that are
given later count. -/
theorem ofArguments_movedParameters :
    ∃ us vs : List Entry, HasOneTemplate us ∧ vs.Perm us ∧
      (∀ flag, vs.filter (·.flag? = some flag) = us.filter (·.flag? = some flag)) ∧
      us.flatMap Entry.tokens = ["--params", "-h", "select ?", "--skip=1", "--params=[2]"] ∧
      vs.flatMap Entry.tokens = ["select ?", "--skip=1", "--params", "-h", "--params=[2]"] ∧
      ofArguments ["sqltmpl", "render", "select ?", "--skip=1", "--params", "-h", "--params=[2]"] =
        .ok (.render ⟨"sqltmpl.toml", false, .inline "select ?", some "[2]", some "1"⟩) := by
  have ht : IsTemplate "select ?" := ⟨by decide, by decide⟩
  let template : Entry := .template "select ?" ht
  let skip : Entry := .option .skip .joined "1"
  let earlier : Entry := .option .params .apart "-h"
  let later : Entry := .option .params .joined "[2]"
  have h : HasOneTemplate [earlier, template, skip, later] := Nat.le_refl 1
  have hp : [template, skip, earlier, later].Perm [earlier, template, skip, later] := by
    have hmoved : ([template, skip] ++ [earlier]).Perm ([earlier] ++ [template, skip]) :=
      List.perm_append_comm
    exact hmoved.append_right [later]
  have hkeeps : ∀ flag, [template, skip, earlier, later].filter (·.flag? = some flag) =
      [earlier, template, skip, later].filter (·.flag? = some flag) := by
    intro flag
    cases flag <;> rfl
  have hskip : Flag.taken .skip "1" = "1" := Flag.taken_eq_self_iff.2 (by decide)
  have hparams : Flag.taken .params "[2]" = "[2]" := Flag.taken_eq_self_iff.2 (by decide)
  obtain ⟨hmoved, -, -, hinline, -⟩ := ofArguments_entries "sqltmpl" h
  have hanswer := (hmoved _ hp hkeeps).trans (hinline "select ?" rfl rfl)
  refine ⟨_, _, h, hp, hkeeps, rfl, rfl, ?_⟩
  rw [← hskip, ← hparams]
  exact hanswer

end QueryTemplate.Command
