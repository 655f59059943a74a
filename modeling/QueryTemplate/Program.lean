import QueryTemplate.Builder
import QueryTemplate.Config.Basic
import QueryTemplate.Files
import QueryTemplate.Help

/-!
# The program

A run reads the arguments and prints a help text or one statement. The stages of a rendering
come one after the other, configuration, template, parameters, skip value and statement, and the
first one that fails ends the run with nothing printed.
-/

namespace QueryTemplate

inductive Failure where
  | command (error : Command.Error)
  | configUnreadable (path : String) (fault : FileFault)
  | configRefused (path : String) (error : Config.Error)
  | templateUnreadable (path : String) (fault : FileFault)
  | params (error : ParamsError)
  | skipNotJson
  | skipRefused (error : Config.Error)
  | template (error : TemplateError)

def Failure.message : Failure → String
  | command error => error.message
  | configUnreadable path fault => "failed to read config file " ++ path ++ ": " ++ fault.message
  | configRefused path error => "failed to parse config file " ++ path ++ ": " ++ error.message
  | templateUnreadable path fault => "failed to read template " ++ path ++ ": " ++ fault.message
  | params error => error.message
  | skipNotJson => "invalid --skip JSON"
  | skipRefused error => error.message
  | template error => error.chainMessage

namespace RenderCommand

/-- The configuration. The default applies when no file was asked for and none is there. -/
def loadConfig (r : RenderCommand) (parsers : Parsers) (files : Files) (env : Environment) :
    Except Failure Config :=
  if !r.configExplicit && !files.isPresent r.config then .ok Config.default
  else match files.text r.config with
    | .error fault => .error (.configUnreadable r.config fault)
    | .ok text => (Config.ofText parsers env text).mapError (.configRefused r.config)

/-- The text of the template; that of a file loses the line ends at its end. -/
def loadTemplate (r : RenderCommand) (files : Files) : Except Failure String :=
  match r.template with
  | .inline text => .ok text
  | .file path =>
    match files.text path with
    | .error fault => .error (.templateUnreadable path fault)
    | .ok text => .ok (String.ofList (Text.dropLineEnds text.toList))

/-- The parameters, none if there is no option for them. -/
def loadParams (r : RenderCommand) (parsers : Parsers) : Except Failure (List Value) :=
  match r.params with
  | none => .ok []
  | some text => (paramsOfJson parsers.json text).mapError .params

/-- The skip value: that of the option, or that of the configuration. -/
def loadSkip (r : RenderCommand) (parsers : Parsers) (config : Config) :
    Except Failure Value :=
  match r.skip with
  | none => (config.skipValue parsers).mapError .skipRefused
  | some text =>
    match Value.ofJson? parsers.json text with
    | some v => .ok v
    | none => .error .skipNotJson

def statement (r : RenderCommand) (parsers : Parsers) (files : Files) (env : Environment) :
    Except Failure String := do
  let config ← r.loadConfig parsers files env
  let template ← r.loadTemplate files
  let params ← r.loadParams parsers
  let skip ← r.loadSkip parsers config
  let builder := (Builder.ofEscaper config.dialect.escaper).withSkip skip
  (builder.build template params).mapError .template

end RenderCommand

/-- What a run leaves: the text it printed, and why it failed if it did. -/
structure Outcome where
  printed : String
  failure : Option Failure

/-- Runs a command. -/
def Command.run (parsers : Parsers) (files : Files) (env : Environment) : Command → Outcome
  | help topic => ⟨topic.text, none⟩
  | render r =>
    match r.statement parsers files env with
    | .ok sql => ⟨sql ++ "\n", none⟩
    | .error failure => ⟨"", some failure⟩

/-- Runs the program with its arguments, the first of which is its own name. -/
def runProgram (parsers : Parsers) (files : Files) (env : Environment)
    (arguments : List String) : Outcome :=
  match Command.ofArguments arguments with
  | .error error => ⟨"", some (.command error)⟩
  | .ok command => command.run parsers files env

end QueryTemplate
