import QueryTemplate.Program
import QueryTemplate.Proofs.Configurations

/-!
# Stages of a rendering

A rendering on the command line has five stages: the configuration, the template, the parameters,
the skip value and the statement. The program prints a statement when all of them succeed, and
otherwise nothing, with the error of the first stage that fails. A configuration that has been
loaded has a skip text that denotes a value. All this holds for any parsers of JSON and TOML.
-/

namespace QueryTemplate

/-! ### Line ends -/

def IsLineEnd (c : Char) : Prop := c = '\r' ∨ c = '\n'

lemma dropLineEnds_eq_iff {cs ds : List Char} :
    Text.dropLineEnds cs = ds ↔ ∃ ends, cs = ds ++ ends ∧ (∀ c ∈ ends, IsLineEnd c) ∧
      ∀ c ∈ ds.getLast?, ¬IsLineEnd c := by
  have hline : ∀ c, (c == '\r' || c == '\n') = true ↔ IsLineEnd c := by simp [IsLineEnd]
  have hdrop : Text.dropLineEnds cs = cs.rdropWhile fun c => c == '\r' || c == '\n' := rfl
  rw [hdrop, rdropWhile_eq_iff]
  simp only [hline]

/-! ### Stages -/

namespace RenderCommand

/-- The configuration file has to be read: it was asked for, or it is there. -/
def ReadsConfig (r : RenderCommand) (files : Files) : Prop :=
  r.configExplicit = true ∨ files.isPresent r.config = true

/-- The configuration of a command: that of its file, or the default one. -/
def ConfigIs (r : RenderCommand) (parsers : Parsers) (files : Files) (env : Environment)
    (config : Config) : Prop :=
  ¬r.ReadsConfig files ∧ config = ⟨"1", .mysql, "null"⟩ ∨
    r.ReadsConfig files ∧ ∃ text, files.text r.config = .ok text ∧
      Config.Accepts parsers env text config

def ConfigFails (r : RenderCommand) (parsers : Parsers) (files : Files) (env : Environment)
    (failure : Failure) : Prop :=
  r.ReadsConfig files ∧
    ((∃ fault, files.text r.config = .error fault ∧
        failure = .configUnreadable r.config fault) ∨
      ∃ text error, files.text r.config = .ok text ∧ Config.Refuses parsers env text error ∧
        failure = .configRefused r.config error)

/-- The template of a command: the one that it gives, or the text of a file up to the line ends at
its end. -/
def TemplateIs (r : RenderCommand) (files : Files) (template : String) : Prop :=
  r.template = .inline template ∨
    ∃ path text ends, r.template = .file path ∧ files.text path = .ok text ∧
      text.toList = template.toList ++ ends ∧ (∀ c ∈ ends, IsLineEnd c) ∧
      ∀ c ∈ template.toList.getLast?, ¬IsLineEnd c

def TemplateFails (r : RenderCommand) (files : Files) (failure : Failure) : Prop :=
  ∃ path fault, r.template = .file path ∧ files.text path = .error fault ∧
    failure = .templateUnreadable path fault

/-- The parameters of a command: the items of a JSON array, or none. -/
def ParamsAre (r : RenderCommand) (parsers : Parsers) (params : List Value) : Prop :=
  r.params = none ∧ params = [] ∨
    ∃ text items, r.params = some text ∧ parsers.json text = some (.array items) ∧
      params = items.map Json.toValue

def ParamsFail (r : RenderCommand) (parsers : Parsers) (failure : Failure) : Prop :=
  ∃ text, r.params = some text ∧
    (parsers.json text = none ∧ failure = .params .notJson ∨
      ∃ found, parsers.json text = some found ∧ (∀ items, found ≠ .array items) ∧
        failure = .params (.notArray found))

/-- The skip value of a command: the one that it gives, or that of the configuration. -/
def SkipIs (r : RenderCommand) (parsers : Parsers) (config : Config) (skip : Value) : Prop :=
  ∃ j, parsers.json (r.skip.getD config.skip) = some j ∧ skip = j.toValue

/-- Only a skip value that a command gives can fail to be one. -/
def SkipFails (r : RenderCommand) (parsers : Parsers) (failure : Failure) : Prop :=
  ∃ text, r.skip = some text ∧ parsers.json text = none ∧ failure = .skipNotJson

/-- All stages succeed, and the statement is the given text. -/
def Prints (r : RenderCommand) (parsers : Parsers) (files : Files) (env : Environment)
    (sql : String) : Prop :=
  ∃ config template params skip, r.ConfigIs parsers files env config ∧
    r.TemplateIs files template ∧ r.ParamsAre parsers params ∧ r.SkipIs parsers config skip ∧
    Template.render .mysql template params skip = .ok sql

/-- A stage fails, and the stages before it succeed. -/
inductive Reports (r : RenderCommand) (parsers : Parsers) (files : Files) (env : Environment) :
    Failure → Prop where
  | config {failure} : r.ConfigFails parsers files env failure →
      Reports r parsers files env failure
  | template {config failure} : r.ConfigIs parsers files env config →
      r.TemplateFails files failure → Reports r parsers files env failure
  | params {config template failure} : r.ConfigIs parsers files env config →
      r.TemplateIs files template → r.ParamsFail parsers failure →
      Reports r parsers files env failure
  | skip {config template params failure} : r.ConfigIs parsers files env config →
      r.TemplateIs files template → r.ParamsAre parsers params → r.SkipFails parsers failure →
      Reports r parsers files env failure
  | statement {config template params skip error} : r.ConfigIs parsers files env config →
      r.TemplateIs files template → r.ParamsAre parsers params → r.SkipIs parsers config skip →
      Template.render .mysql template params skip = .error error →
      Reports r parsers files env (.template error)

variable {r : RenderCommand} {parsers : Parsers} {files : Files} {env : Environment}
  {config : Config} {template sql : String} {params : List Value} {skip : Value}
  {failure : Failure}

lemma loadConfig_of_readsConfig (h : r.ReadsConfig files) :
    r.loadConfig parsers files env = match files.text r.config with
      | .error fault => .error (.configUnreadable r.config fault)
      | .ok text => (Config.ofText parsers env text).mapError (.configRefused r.config) := by
  have hreads : ¬(!r.configExplicit && !files.isPresent r.config) = true := by
    rcases h with h | h <;> simp [h]
  unfold loadConfig
  exact if_neg hreads

lemma loadConfig_of_not_readsConfig (h : ¬r.ReadsConfig files) :
    r.loadConfig parsers files env = .ok Config.default := by
  have hskips : (!r.configExplicit && !files.isPresent r.config) = true := by
    simpa [ReadsConfig] using h
  rw [loadConfig, if_pos hskips]

lemma loadConfig_eq_ok_iff :
    r.loadConfig parsers files env = .ok config ↔ r.ConfigIs parsers files env config := by
  by_cases hr : r.ReadsConfig files
  · rw [loadConfig_of_readsConfig hr]
    cases ht : files.text r.config with
    | error fault => simp [ConfigIs, hr, ht]
    | ok text =>
      simp [ConfigIs, hr, ht, mapError_eq_ok_iff, Config.ofText_eq_ok_iff]
  · rw [loadConfig_of_not_readsConfig hr]
    simp [ConfigIs, hr, Config.default, eq_comm]

lemma loadConfig_eq_error_iff :
    r.loadConfig parsers files env = .error failure ↔ r.ConfigFails parsers files env failure := by
  by_cases hr : r.ReadsConfig files
  · rw [loadConfig_of_readsConfig hr]
    cases ht : files.text r.config with
    | error fault => simp [ConfigFails, hr, ht, eq_comm]
    | ok text =>
      simp [ConfigFails, hr, ht, mapError_eq_error_iff, Config.ofText_eq_error_iff]
  · rw [loadConfig_of_not_readsConfig hr]
    simp [ConfigFails, hr]

lemma loadTemplate_eq_ok_iff :
    r.loadTemplate files = .ok template ↔ r.TemplateIs files template := by
  rw [loadTemplate, TemplateIs]
  cases hr : r.template with
  | inline text => simp
  | file path =>
    cases ht : files.text path with
    | error fault => simp [ht]
    | ok text =>
      have htext : String.ofList (Text.dropLineEnds text.toList) = template ↔
          Text.dropLineEnds text.toList = template.toList := by
        rw [← String.toList_inj, String.toList_ofList]
      simp [ht, htext, dropLineEnds_eq_iff]

lemma loadTemplate_eq_error_iff :
    r.loadTemplate files = .error failure ↔ r.TemplateFails files failure := by
  rw [loadTemplate, TemplateFails]
  cases hr : r.template with
  | inline text => simp
  | file path => cases ht : files.text path <;> simp [ht, eq_comm]

lemma loadParams_eq_ok_iff : r.loadParams parsers = .ok params ↔ r.ParamsAre parsers params := by
  rw [loadParams, ParamsAre]
  cases hr : r.params with
  | none => simp [eq_comm]
  | some text =>
    cases hj : parsers.json text with
    | none => simp [paramsOfJson, hj, Except.mapError]
    | some j => cases j <;> simp [paramsOfJson, hj, Except.mapError, Json.toValues_eq_map, eq_comm]

lemma loadParams_eq_error_iff :
    r.loadParams parsers = .error failure ↔ r.ParamsFail parsers failure := by
  rw [loadParams, ParamsFail]
  cases hr : r.params with
  | none => simp
  | some text =>
    cases hj : parsers.json text with
    | none => simp [paramsOfJson, hj, Except.mapError, eq_comm]
    | some j => cases j <;> simp [paramsOfJson, hj, Except.mapError, eq_comm]

lemma loadSkip_eq_ok_iff : r.loadSkip parsers config = .ok skip ↔ r.SkipIs parsers config skip := by
  rw [loadSkip, SkipIs]
  cases hr : r.skip with
  | none =>
    cases hj : parsers.json config.skip with
    | none => simp [Config.skipValue_of_not_isJson hj, hj, Except.mapError]
    | some j => simp [Config.skipValue_of_isJson hj, hj, Except.mapError, eq_comm]
  | some text => cases hj : parsers.json text <;> simp [Value.ofJson?, hj, eq_comm]

lemma loadSkip_eq_error_iff (h : ∃ j, parsers.json config.skip = some j) :
    r.loadSkip parsers config = .error failure ↔ r.SkipFails parsers failure := by
  obtain ⟨j, hj⟩ := h
  rw [loadSkip, SkipFails]
  cases hr : r.skip with
  | none => simp [Config.skipValue_of_isJson hj, Except.mapError]
  | some text => cases ht : parsers.json text <;> simp [Value.ofJson?, ht, eq_comm]

/-- The skip text of a configuration that has been loaded is read as JSON. -/
lemma ConfigIs.exists_json (hnull : parsers.json "null" = some .null)
    (h : r.ConfigIs parsers files env config) : ∃ j, parsers.json config.skip = some j := by
  rcases h with ⟨-, rfl⟩ | ⟨-, text, -, hconfig⟩
  · exact ⟨.null, hnull⟩
  · exact hconfig.isJson

/-- Without a skip value of its own, a command takes that of the configuration. -/
lemma ConfigIs.exists_skip (hnull : parsers.json "null" = some .null)
    (h : r.ConfigIs parsers files env config) (hnone : r.skip = none) :
    ∃ skip, r.SkipIs parsers config skip ∧ (¬r.ReadsConfig files → skip = .null) := by
  obtain ⟨j, hj⟩ := h.exists_json hnull
  refine ⟨j.toValue, ⟨j, ?_, rfl⟩, fun hreads => ?_⟩
  · rw [hnone]
    exact hj
  · rcases h with ⟨-, rfl⟩ | ⟨hr, -⟩
    · obtain rfl : j = .null := Option.some.inj (hj.symm.trans hnull)
      rfl
    · exact absurd hr hreads

/-- The only dialect is that of MySQL. -/
lemma build_eq_render (config : Config) (template : String) (params : List Value) (skip : Value) :
    ((Builder.ofEscaper config.dialect.escaper).withSkip skip).build template params =
      Template.render .mysql template params skip := by
  cases hd : config.dialect
  rfl

lemma statement_eq_ok_iff :
    r.statement parsers files env = .ok sql ↔ r.Prints parsers files env sql := by
  simp only [statement, bind_eq_ok_iff, mapError_eq_ok_iff, build_eq_render, loadConfig_eq_ok_iff,
    loadTemplate_eq_ok_iff, loadParams_eq_ok_iff, loadSkip_eq_ok_iff]
  constructor
  · rintro ⟨config, hconfig, template, htemplate, params, hparams, skip, hskip, hrender⟩
    exact ⟨config, template, params, skip, hconfig, htemplate, hparams, hskip, hrender⟩
  · rintro ⟨config, template, params, skip, hconfig, htemplate, hparams, hskip, hrender⟩
    exact ⟨config, hconfig, template, htemplate, params, hparams, skip, hskip, hrender⟩

lemma statement_eq_error_iff (hnull : parsers.json "null" = some .null) :
    r.statement parsers files env = .error failure ↔ r.Reports parsers files env failure := by
  simp only [statement, bind_eq_error_iff, mapError_eq_error_iff, build_eq_render,
    loadConfig_eq_ok_iff, loadConfig_eq_error_iff, loadTemplate_eq_ok_iff,
    loadTemplate_eq_error_iff, loadParams_eq_ok_iff, loadParams_eq_error_iff, loadSkip_eq_ok_iff]
  constructor
  · rintro (h | ⟨config, hconfig, h | ⟨template, htemplate, h | ⟨params, hparams, h⟩⟩⟩)
    · exact .config h
    · exact .template hconfig h
    · exact .params hconfig htemplate h
    · rcases h with h | ⟨skip, hskip, error, h, rfl⟩
      · rw [loadSkip_eq_error_iff (hconfig.exists_json hnull)] at h
        exact .skip hconfig htemplate hparams h
      · exact .statement hconfig htemplate hparams hskip h
  · intro h
    cases h with
    | config h => exact .inl h
    | @template config _ hconfig h => exact .inr ⟨config, hconfig, .inl h⟩
    | @params config template _ hconfig htemplate h =>
      exact .inr ⟨config, hconfig, .inr ⟨template, htemplate, .inl h⟩⟩
    | @skip config template params _ hconfig htemplate hparams h =>
      have hskip := (loadSkip_eq_error_iff (hconfig.exists_json hnull)).2 h
      exact .inr ⟨config, hconfig, .inr ⟨template, htemplate, .inr ⟨params, hparams, .inl hskip⟩⟩⟩
    | @statement config template params skip error hconfig htemplate hparams hskip h =>
      exact .inr ⟨config, hconfig, .inr ⟨template, htemplate, .inr ⟨params, hparams,
        .inr ⟨skip, hskip, error, h, rfl⟩⟩⟩⟩

end RenderCommand

open RenderCommand

/-- The program that is asked for a rendering succeeds exactly when all stages do, and it prints
the statement with a line end. Otherwise it prints nothing and fails with the error of the first
stage that fails, whatever the later ones would do. A configuration that has been loaded always has
a skip value, so that only a skip value of the command itself can fail to be one; without a file it
is null. Of the parser of JSON it is only assumed that it reads null. -/
theorem runProgram_render {parsers : Parsers} (hnull : parsers.json "null" = some .null)
    {arguments : List String} {r : RenderCommand}
    (h : Command.ofArguments arguments = .ok (.render r)) (files : Files) (env : Environment) :
    ((runProgram parsers files env arguments).failure = none ↔
        ∃ sql, r.Prints parsers files env sql) ∧
      (∀ sql, r.Prints parsers files env sql →
        (runProgram parsers files env arguments).printed = sql ++ "\n") ∧
      (∀ failure, (runProgram parsers files env arguments).failure = some failure ↔
        r.Reports parsers files env failure) ∧
      ((runProgram parsers files env arguments).failure ≠ none →
        (runProgram parsers files env arguments).printed = "") ∧
      ∀ config, r.ConfigIs parsers files env config →
        (∃ j, parsers.json config.skip = some j) ∧
          (r.skip = none → ∃ skip, r.SkipIs parsers config skip ∧
            (¬r.ReadsConfig files → skip = .null)) := by
  have hrun : runProgram parsers files env arguments = (Command.render r).run parsers files env := by
    rw [runProgram, h]
  have hskip : ∀ config, r.ConfigIs parsers files env config →
      (∃ j, parsers.json config.skip = some j) ∧
        (r.skip = none → ∃ skip, r.SkipIs parsers config skip ∧
          (¬r.ReadsConfig files → skip = .null)) :=
    fun _ hconfig => ⟨hconfig.exists_json hnull, hconfig.exists_skip hnull⟩
  simp only [hrun, Command.run, ← statement_eq_ok_iff, ← statement_eq_error_iff hnull]
  cases r.statement parsers files env with
  | ok sql =>
    refine ⟨?_, ?_, ?_, ?_, hskip⟩
    all_goals simp
  | error failure =>
    refine ⟨?_, ?_, ?_, ?_, hskip⟩
    all_goals simp

/-- The skip value is that of the configuration file, whose reference has a value, and an option takes
its place. Without the value of the reference the file is refused, and the option, which is no JSON
there, is not looked at. -/
theorem runProgram_skipOfFile :
    let files : Files := ⟨fun path => path == "c.toml" || path == "q.sql", fun path =>
      if path = "c.toml" then .ok "version = ' 1'\n[render]\nskip = '$\x7bS\x7d'\n"
      else if path = "q.sql" then .ok "a\x7b ?\x7d\x7b ?d\x7d\r\n"
      else .error .notFound⟩
    let env : Environment := fun name => if name = "S" then some "\"x\"" else none
    let arguments := ["sqltmpl", "render", "--config", "c.toml", "--file", "q.sql", "--params",
      "[\"x\", 1]"]
    (runProgram .standard files env arguments).printed = "a 1\n" ∧
      (runProgram .standard files env (arguments ++ ["--skip", "1"])).printed = "a 'x'\n" ∧
      (runProgram .standard files (fun _ => none) (arguments ++ ["--skip", "x"])).failure =
        some (.configRefused "c.toml" (.expansion (.unset "S"))) ∧
      (runProgram .standard files (fun _ => none) (arguments ++ ["--skip", "x"])).printed = "" := by
  intro files env arguments
  let command (skip : Option String) : RenderCommand :=
    ⟨"c.toml", true, .file "q.sql", some "[\"x\", 1]", skip⟩
  have hconfig : ∀ skip, (command skip).ConfigIs .standard files env ⟨" 1", .mysql, "\"x\""⟩ :=
    fun _ => .inr ⟨.inl rfl, _, rfl, Config.ofText_eq_ok_iff.1 (by decide +kernel)⟩
  have htemplate : ∀ skip, (command skip).TemplateIs files "a\x7b ?\x7d\x7b ?d\x7d" :=
    fun _ => .inr ⟨_, _, ['\r', '\n'], rfl, rfl, by decide, by simp [IsLineEnd],
      by simp [IsLineEnd]⟩
  have hparams : ∀ skip, (command skip).ParamsAre .standard [.string "x", .int 1] :=
    fun _ => .inr ⟨_, [.string "x", .number (.natural 1)], rfl, rfl, rfl⟩
  have hnull : Parsers.standard.json "null" = some .null := rfl
  have hword : Parsers.standard.json "\"x\"" = some (.string "x") := rfl
  have hone : Parsers.standard.json "1" = some (.number (.natural 1)) := rfl
  have hfile : Command.ofArguments arguments = .ok (.render (command none)) := rfl
  have hoption : ∀ text, Command.ofArguments (arguments ++ ["--skip", text]) =
      .ok (.render (command (some text))) := fun _ => rfl
  refine ⟨?_, ?_, ?_, ?_⟩
  · refine (runProgram_render hnull hfile files env).2.1 "a 1" ?_
    exact ⟨_, _, _, .string "x", hconfig none, htemplate none, hparams none,
      ⟨_, hword, rfl⟩, by decide +kernel⟩
  · refine (runProgram_render hnull (hoption "1") files env).2.1 "a 'x'" ?_
    exact ⟨_, _, _, .int 1, hconfig (some "1"), htemplate (some "1"), hparams (some "1"),
      ⟨_, hone, rfl⟩, by decide +kernel⟩
  · refine ((runProgram_render hnull (hoption "x") files fun _ => none).2.2.1 _).2 ?_
    exact .config ⟨.inl rfl, .inr ⟨_, _, rfl,
      Config.ofText_eq_error_iff.1 (by decide +kernel), rfl⟩⟩
  · refine (runProgram_render hnull (hoption "x") files fun _ => none).2.2.2.1 ?_
    decide +kernel

-- Three stages fail here, and the first of them is reported.
example : (runProgram .standard (FileTree.directory []).files (fun _ => none)
    ["sqltmpl", "render", "??", "--config", "c.toml", "--params", "x"]).failure =
    some (.configUnreadable "c.toml" .notFound) := by
  rfl

end QueryTemplate
