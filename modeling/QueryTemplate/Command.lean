/-!
# Command line

The arguments after the program's name select the help or a rendering. An option takes its value
from the next argument or after an equals sign, and the last one of an option counts.
-/

namespace QueryTemplate

inductive TemplateSource where
  | inline (text : String)
  | file (path : String)
  deriving DecidableEq

inductive HelpTopic where
  | root
  | render
  deriving DecidableEq

structure RenderCommand where
  config : String
  /-- Whether the configuration file was asked for, so that it has to be there. -/
  configExplicit : Bool
  template : TemplateSource
  params : Option String
  skip : Option String
  deriving DecidableEq

/-- What the arguments ask for. -/
inductive Command where
  | help (topic : HelpTopic)
  | render (command : RenderCommand)
  deriving DecidableEq

namespace Command

/-- The configuration file that is read when none is asked for. -/
def defaultConfig : String := "sqltmpl.toml"

inductive Flag where
  | config
  | file
  | params
  | skip
  deriving DecidableEq

def Flag.text : Flag → String
  | config => "--config"
  | file => "--file"
  | params => "--params"
  | skip => "--skip"

def Flag.all : List Flag := [config, file, params, skip]

inductive Error where
  | unknownCommand (name : String)
  | missingValue (flag : Flag)
  | unknownArgument (text : String)
  | extraTemplate (text : String)
  | twoTemplates
  deriving DecidableEq

def Error.message : Error → String
  | unknownCommand name => "unknown command: " ++ name
  | missingValue flag => flag.text ++ " requires a value"
  | unknownArgument text => "unknown argument: " ++ text
  | extraTemplate text => "unexpected extra template argument: " ++ text
  | twoTemplates => "pass either a template or --file, not both"

/-- What an argument is when no option waits for its value. -/
inductive Token where
  | help
  | flag (flag : Flag)
  | assigned (flag : Flag) (value : String)
  | unknown
  | template

/-- A text without the copies of a non-empty text at its head. -/
def dropCopies (head : Char) (tail cs : List Char) : List Char :=
  match cs with
  | [] => []
  | c :: rest =>
    if (head :: tail).isPrefixOf (c :: rest) then dropCopies head tail (rest.drop tail.length)
    else c :: rest
termination_by cs.length
decreasing_by simp only [List.length_drop, List.length_cons]; omega

/-- The value after an option and an equals sign. Further copies of both at the head of the value
are dropped as well. -/
def Flag.assignedValue? (flag : Flag) (text : List Char) : Option (List Char) :=
  match flag.text.toList ++ ['='] with
  | [] => none
  | head :: tail =>
    if (head :: tail).isPrefixOf text then some (dropCopies head tail text) else none

/-- Reads an argument. -/
def Token.ofText (text : String) : Token :=
  if text = "-h" ∨ text = "--help" then .help
  else match Flag.all.find? (·.text == text) with
    | some option => .flag option
    | none =>
      match Flag.all.findSome? fun f => (f.assignedValue? text.toList).map fun v => (f, v) with
      | some (option, value) => .assigned option (String.ofList value)
      | none => if ['-', '-'].isPrefixOf text.toList then .unknown else .template

structure Draft where
  config : Option String
  file : Option String
  inline : Option String
  params : Option String
  skip : Option String

namespace Draft

def empty : Draft := ⟨none, none, none, none, none⟩

def assign (d : Draft) (flag : Flag) (value : String) : Draft :=
  match flag with
  | .config => { d with config := some value }
  | .file => { d with file := some value }
  | .params => { d with params := some value }
  | .skip => { d with skip := some value }

def finish (d : Draft) : Except Error Command :=
  let command (template : TemplateSource) : Command :=
    .render ⟨d.config.getD defaultConfig, d.config.isSome, template, d.params, d.skip⟩
  match d.inline, d.file with
  | some _, some _ => .error .twoTemplates
  | some text, none => .ok (command (.inline text))
  | none, some path => .ok (command (.file path))
  | none, none => .ok (.help .render)

def read (d : Draft) : List String → Except Error Command
  | [] => d.finish
  | text :: rest =>
    match Token.ofText text with
    | .help => .ok (.help .render)
    | .assigned flag value => (d.assign flag value).read rest
    | .unknown => .error (.unknownArgument text)
    | .template =>
      match d.inline with
      | some _ => .error (.extraTemplate text)
      | none => { d with inline := some text }.read rest
    | .flag flag =>
      match rest with
      | [] => .error (.missingValue flag)
      | value :: rest => (d.assign flag value).read rest

end Draft

/-- The command that the arguments ask for; the first one is the name of the program. -/
def ofArguments (arguments : List String) : Except Error Command :=
  match arguments.drop 1 with
  | [] => .ok (.help .root)
  | first :: rest =>
    if first = "-h" ∨ first = "--help" then .ok (.help .root)
    else if first = "render" then Draft.empty.read rest
    else .error (.unknownCommand first)

end Command

end QueryTemplate
