import QueryTemplate.Config.Expansion
import QueryTemplate.Escaper
import QueryTemplate.Json.Parameter
import QueryTemplate.Parsers
import QueryTemplate.Text.Blank
import QueryTemplate.Text.Quoted

/-!
# Configuration

A configuration has a version, the dialect of the escaper, and the skip value as a JSON text. It
is read from a TOML document and checked: the references of the skip text are expanded first,
then the version, then the skip text.
-/

namespace QueryTemplate

/-- The dialects that have an escaper. -/
inductive Dialect where
  | mysql
  deriving DecidableEq

def Dialect.escaper : Dialect → Escaper
  | mysql => Escaper.mysql

structure Config where
  version : String
  dialect : Dialect
  skip : String
  deriving DecidableEq

namespace Config

def default : Config := ⟨"1", .mysql, "null"⟩

/-- Why a text is no configuration. -/
inductive Error where
  | notToml
  /-- A key of the document has too many parts. -/
  | keyTooLong
  | expansion (error : Expansion.Error)
  | unsupportedVersion (version : String)
  | emptySkip
  | invalidSkip (text : String)
  deriving DecidableEq

def Error.message : Error → String
  | notToml => "TOML parse error"
  | keyTooLong => "recursion limit\n"
  | expansion error => error.message
  | unsupportedVersion version => "unsupported config version: " ++ version
  | emptySkip => "render.skip must not be empty"
  | invalidSkip text => "invalid render.skip " ++ String.ofList (Text.quoted text.toList)

/-- The dialect that a value names: its name, or a table of that name with nothing in it. -/
def dialectOf? : Toml → Option Dialect
  | .string s => if s = "mysql" then some .mysql else none
  | .table _ [(name, .table _ [])] => if name = "mysql" then some .mysql else none
  | .table _ [(name, .array _ [])] => if name = "mysql" then some .mysql else none
  | _ => none

def stringOf? : Toml → Option String
  | .string s => some s
  | _ => none

/-- The settings of rendering from the values of their keys, if the keys are there. -/
def ofFields? (version : String) (dialect skip : Option Toml) : Option Config := do
  let dialect ← match dialect with
    | some v => dialectOf? v
    | none => some default.dialect
  let skip ← match skip with
    | some v => stringOf? v
    | none => some default.skip
  some ⟨version, dialect, skip⟩

/-- Whether the numbers of an entry that are read have values. Of an array of settings the items
past the settings are not read. -/
def isReadable : String × Toml → Bool
  | (key, .array _ items) => key == "render" || Toml.areValued items
  | (_, v) => v.isValued

/-- The settings of a document, unchecked. The table of rendering may be missing, an array gives its
fields by position, and a date has none of them. Keys that have no meaning are passed over, but
their values are read. -/
def ofToml? (entries : List (String × Toml)) : Option Config := do
  let version ← stringOf? (← Toml.find? "version" entries)
  if !entries.all isReadable then none
  else match Toml.find? "render" entries with
    | none | some (.date _) => some { default with version }
    | some (.table _ fields) =>
      ofFields? version (Toml.find? "escaper" fields) (Toml.find? "skip" fields)
    | some (.array _ fields) => ofFields? version fields[0]? fields[1]?
    | some _ => none

def skipValue (parsers : Parsers) (c : Config) : Except Error Value :=
  match Value.ofJson? parsers.json c.skip with
  | some v => .ok v
  | none => .error (.invalidSkip c.skip)

def check (parsers : Parsers) (c : Config) : Except Error Unit := do
  if Text.trim c.version.toList ≠ ['1'] then .error (.unsupportedVersion c.version)
  if (Text.trim c.skip.toList).isEmpty then .error .emptySkip
  let _ ← c.skipValue parsers

/-- The configuration of a document. -/
def ofText (parsers : Parsers) (env : Environment) (text : String) : Except Error Config :=
  match (parsers.toml text).map ofToml? with
  | .error .keyTooLong => .error .keyTooLong
  | .error .malformed => .error .notToml
  | .ok none => .error .notToml
  | .ok (some raw) => do
    let skip ← (Expansion.expand env raw.skip).mapError .expansion
    let c := { raw with skip }
    c.check parsers
    .ok c

/-- The names of the variables that a document refers to. -/
def variableNames (parsers : Parsers) (text : String) : List String :=
  match (parsers.toml text).toOption.bind ofToml? with
  | none => []
  | some raw => Expansion.names raw.skip

end Config

end QueryTemplate
