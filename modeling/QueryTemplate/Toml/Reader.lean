import QueryTemplate.Toml.Outline
import QueryTemplate.Toml.Scalar
import QueryTemplate.Toml.Table

/-!
# Reading TOML

A document is read from its outline. The outline of the whole text comes first; then the keys and
values are read in their order, and the first fault among them is the fault of the document.
-/

namespace QueryTemplate.Toml

def Lexeme.string? : Lexeme → Option String
  | .quoted escapes long body => (stringOfBody? escapes long body).map String.ofList
  | _ => none

/-- Whether a character may stand in a key without quotes. -/
def isBare (c : Char) : Bool := c.isAlphanum || c == '_' || c == '-'

def Lexeme.keyPart? : Lexeme → Option String
  | .word text => if !text.isEmpty && text.all isBare then some (String.ofList text) else none
  | .quoted escapes false body => (Lexeme.quoted escapes false body).string?
  | _ => none

def Lexeme.value? : Lexeme → Option Toml
  | .word text => scalar? text
  | lexeme => lexeme.string?.map .string

def partLimit : Nat := 80

/-- The parts of a key: those before the last, and the last. -/
def WrittenKey.read (key : WrittenKey) : Except Fault (List String × String) :=
  match key.path.mapM Lexeme.keyPart?, key.last.keyPart? with
  | some path, some last => if path.length < partLimit then .ok (path, last) else .error .keyTooLong
  | _, _ => .error .malformed

mutual

def Written.read : Written → Except Fault Toml
  | .scalar lexeme =>
    match lexeme.value? with
    | some value => .ok value
    | none => .error .malformed
  | .array items => do
    .ok (.array false (← readAll items))
  | .table entries => do
    .ok (.table .inline (← readInto [] entries))

def readAll : List Written → Except Fault (List Toml)
  | [] => .ok []
  | item :: rest => do
    let value ← item.read
    .ok (value :: (← readAll rest))

/-- Adds the entries that are written to a table. -/
def readInto (table : Entries) : List (WrittenKey × Written) → Except Fault Entries
  | [] => .ok table
  | (key, written) :: rest => do
    let (path, last) ← key.read
    let value ← written.read
    readInto (← addAt path last value table) rest

end

/-- Adds a section to the root table of a document. An item of an array of tables is added when it
has been read, a table takes its place before. -/
def Section.addTo (s : Section) (root : Entries) : Except Fault Entries := do
  let (path, key) ← s.key.read
  if s.ofArray then
    let table ← readInto [] s.entries
    changeAt false (fun _ => addToArray key table) path .header root
  else
    changeAt false
      (fun _ entries => do
        let table ← readInto (← implied key entries) s.entries
        .ok (assign key (.table .header table) entries))
      path .header root

/-- The entries of the root table of a document. -/
def read (text : String) : Except Fault Entries :=
  match Outline.ofText? text with
  | none => .error .malformed
  | some outline => do
    let root ← readInto [] outline.entries
    outline.sections.foldlM (fun root s => s.addTo root) root

end QueryTemplate.Toml
