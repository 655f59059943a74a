import QueryTemplate.Coercion
import QueryTemplate.Escaper

/-!
# Rendering of values

A statement is a list of pieces: characters of the template, text that stands as it is, and raw
strings and names that an escaper writes. A placeholder turns its value into a sequence of steps,
each a piece or a refusal. The pieces before the first refusal are what the escaper gets to see;
the rendering fails with that refusal.
-/

namespace QueryTemplate

inductive Piece where
  /-- A character of the template. -/
  | source (c : Char)
  /-- Text that needs no escaping. -/
  | text (s : String)
  /-- A string literal with the given raw content. -/
  | literal (raw : String)
  /-- A quoted name. -/
  | name (raw : String)
  deriving DecidableEq

inductive Call where
  | escape (raw : String)
  | quote (raw : String)
  deriving DecidableEq

/-- What something is written as, with the calls of the escaper that were made for it. -/
structure Written (α : Type) where
  output : α
  calls : List Call

def Written.map {α β : Type} (f : α → β) (w : Written α) : Written β := ⟨f w.output, w.calls⟩

namespace Escaper

/-- Makes a call. The output is the answer. -/
def ask (e : Escaper) : Call → Written String
  | .escape raw => ⟨e.escape raw, [.escape raw]⟩
  | .quote raw => ⟨e.quote raw, [.quote raw]⟩

/-- Writes a piece as a text. -/
def write (e : Escaper) : Piece → Written String
  | .source c => ⟨String.singleton c, []⟩
  | .text s => ⟨s, []⟩
  | .literal raw => (e.ask (.escape raw)).map fun answer => "'" ++ answer ++ "'"
  | .name raw => e.ask (.quote raw)

end Escaper

namespace Piece

/-- The call of the escaper that a piece needs. -/
def call? : Piece → Option Call
  | literal raw => some (.escape raw)
  | name raw => some (.quote raw)
  | _ => none

@[simp] theorem filterMap_call?_singleton (c : Char) : [source c].filterMap call? = [] := rfl

/-- The text of a piece. -/
def write (e : Escaper) (p : Piece) : String := (e.write p).output

section Write

variable (e : Escaper)

@[simp] theorem write_source (c : Char) : (source c).write e = String.singleton c := rfl

@[simp] theorem write_text (s : String) : (text s).write e = s := rfl

@[simp] theorem write_literal (raw : String) :
    (literal raw).write e = "'" ++ e.escape raw ++ "'" := rfl

@[simp] theorem write_name (raw : String) : (name raw).write e = e.quote raw := rfl

/-- Writing a piece makes the call that it needs. -/
theorem calls_write (p : Piece) : (e.write p).calls = p.call?.toList := by
  cases p <;> rfl

end Write

def writeAll (e : Escaper) (pieces : List Piece) : String := String.join (pieces.map (write e))

theorem toList_writeAll (e : Escaper) (pieces : List Piece) :
    (writeAll e pieces).toList = pieces.flatMap fun p => (p.write e).toList := by
  simp [writeAll, List.flatMap_map]

theorem writeAll_append (e : Escaper) (ps qs : List Piece) :
    writeAll e (ps ++ qs) = writeAll e ps ++ writeAll e qs := by
  apply String.ext
  simp [toList_writeAll]

end Piece

abbrev Rendering := List (Except Refusal Piece)

namespace Rendering

/-- The pieces before the first refusal. -/
def pieces : Rendering → List Piece
  | .ok p :: rest => p :: pieces rest
  | _ => []

/-- The first refusal. -/
def refusal? : Rendering → Option Refusal
  | [] => none
  | .ok _ :: rest => refusal? rest
  | .error r :: _ => some r

theorem refusal?_append (r s : Rendering) : (r ++ s).refusal? = r.refusal?.or s.refusal? := by
  induction r with
  | nil => rfl
  | cons step rest ih =>
    cases step with
    | ok p => simpa [refusal?] using ih
    | error e => simp [refusal?]

theorem pieces_append_of_accepted {r : Rendering} (s : Rendering) (h : r.refusal? = none) :
    (r ++ s).pieces = r.pieces ++ s.pieces := by
  induction r with
  | nil => rfl
  | cons step rest ih =>
    cases step with
    | ok p => exact congrArg (p :: ·) (ih h)
    | error e => cases h

/-- What follows a refusal is not reached. -/
theorem pieces_append_of_refused {r : Rendering} (s : Rendering) {e : Refusal}
    (h : r.refusal? = some e) : (r ++ s).pieces = r.pieces := by
  induction r with
  | nil => cases h
  | cons step rest ih =>
    cases step with
    | ok p => exact congrArg (p :: ·) (ih h)
    | error e => rfl

/-- The renderings one after the other, with a comma and a space between two of them. -/
def commaSeparated : List Rendering → Rendering
  | [] => []
  | [r] => r
  | r :: s :: rest => r ++ .ok (.text ", ") :: commaSeparated (s :: rest)

end Rendering

namespace Value

/-- A scalar by its own shape, for the placeholder that asks for it. -/
def scalarStep (p : Placeholder) : Value → Except Refusal Piece
  | null => .ok (.text "null")
  | bool b => .ok (.text (if b then "1" else "0"))
  | int n => .ok (.text (toString n.toInt))
  | float x =>
    if x.isFinite then .ok (.text (String.ofList x.plainText))
    else .error ⟨p, .float, .noLiteral x⟩
  | string s => .ok (.literal s)
  | list _ => .error ⟨p, .list, .notScalar⟩
  | map _ => .error ⟨p, .map, .notScalar⟩

/-- An entry of a map as an assignment. -/
def assignment (entry : String × Value) : Rendering :=
  [.ok (.name entry.1), .ok (.text " = "), scalarStep .array entry.2]

/-- The items of a value with items, or the assignments of another map. -/
def arraySteps (v : Value) : Rendering :=
  match v.items?, v with
  | some items, _ => Rendering.commaSeparated (items.map fun item => [scalarStep .array item])
  | none, map entries => Rendering.commaSeparated (entries.map assignment)
  | none, _ => [.error ⟨.array, v.kind, .notCollection⟩]

/-- An item of a list of names. -/
def nameStep : Value → Except Refusal Piece
  | string s => .ok (.name s)
  | v => .error ⟨.identifier, v.kind, .itemNotName⟩

/-- A name, or the names of a value with items. -/
def identifierSteps (v : Value) : Rendering :=
  match v, v.items? with
  | string s, _ => [.ok (.name s)]
  | _, some items => Rendering.commaSeparated (items.map fun item => [nameStep item])
  | _, none => [.error ⟨.identifier, v.kind, .notNames⟩]

end Value

/-- The steps that write a value for a placeholder. -/
def Placeholder.render (p : Placeholder) (v : Value) : Rendering :=
  match p with
  | generic => [v.scalarStep generic]
  | int => [v.coerceInt >>= Value.scalarStep int]
  | float => [v.coerceFloat >>= Value.scalarStep float]
  | array => v.arraySteps
  | identifier => v.identifierSteps

end QueryTemplate
