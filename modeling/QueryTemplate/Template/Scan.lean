import QueryTemplate.Template.Event
import QueryTemplate.Template.Medium
import QueryTemplate.Value.Equality

/-!
# Scanning a template

A template is read once, character by character. Outside literals a question mark stands for the
next parameter and braces enclose a conditional block, which is left out when one of the values
bound in it equals the skip value. A scan that fails stays as it is, so that a text is read in
one piece or in two with the same result.
-/

namespace QueryTemplate

namespace Template

structure Binding where
  params : List Value
  skip : Value

/-- How the next character is read. -/
inductive Mode where
  /-- As plain text. -/
  | plain
  /-- Inside a literal whose opening quote stands at the given offset. -/
  | literal (start : Nat)
  /-- After a question mark, as a possible suffix. -/
  | question
  /-- Not at all: the scan has failed. -/
  | failed (error : TemplateError)

/-- An open block: the offset of its brace, its pieces and the values bound in it. -/
structure Block (α : Type) where
  start : Nat
  pieces : Array α
  values : Array Value

/-- Whether a block stays: none of its values equals the skip value. -/
def Block.isKept {α : Type} (skip : Value) (b : Block α) : Bool := !b.values.any (·.same skip)

/-- The state of a scan: `offset` is that of the next character in UTF-8 bytes, `bound` counts
the parameters bound so far and `dropped` the blocks left out. -/
structure Scan (α : Type) where
  mode : Mode
  offset : Nat
  bound : Nat
  block : Option (Block α)
  pieces : Array α
  dropped : Nat
  events : Array Event
  calls : Array Call

namespace Scan

variable {α : Type}

def initial : Scan α := ⟨.plain, 0, 0, none, #[], 0, #[], #[]⟩

def fail (error : TemplateError) (s : Scan α) : Scan α := { s with mode := .failed error }

/-- Writes pieces to the open block, or to the statement when none is open. -/
def emit [Medium α] (ps : List Piece) (s : Scan α) : Scan α :=
  let written : Written (List α) := Medium.writeAll ps
  let calls := s.calls ++ written.calls
  match s.block with
  | some b => { s with block := some { b with pieces := b.pieces ++ written.output }, calls }
  | none => { s with pieces := s.pieces ++ written.output, calls }

/-- Records a value bound in the open block. -/
def record (v : Value) (s : Scan α) : Scan α :=
  match s.block with
  | some b => { s with block := some { b with values := b.values.push v } }
  | none => s

/-- Binds the next parameter to a placeholder and renders it. -/
def resolve [Medium α] (b : Binding) (p : Placeholder) (s : Scan α) : Scan α :=
  match b.params[s.bound]? with
  | none => s.fail (.argument (.missing s.bound b.params.length))
  | some v =>
    let rendering := p.render v
    let next := ({ s with bound := s.bound + 1 }.record v).emit rendering.pieces
    match rendering.refusal? with
    | none => next
    | some refusal => next.fail (.argument (.refused refusal))

def openBlock (s : Scan α) : Scan α :=
  match s.block with
  | some _ => s.fail (.malformed .nestedBlock s.offset)
  | none => { s with block := some ⟨s.offset, #[], #[]⟩ }

/-- Closes the open block: its pieces join the statement, or the block is left out. A block that
is left out is counted and logged. -/
def closeBlock (skip : Value) (s : Scan α) : Scan α :=
  match s.block with
  | none => s.fail (.malformed .unmatchedBlockClose s.offset)
  | some b =>
    if b.isKept skip then { s with block := none, pieces := s.pieces ++ b.pieces }
    else
      { s with
        block := none
        dropped := s.dropped + 1
        events := s.events.push (.blockDropped ⟨b.start, s.offset⟩) }

/-- Reads a character as plain text. -/
def plain [Medium α] (b : Binding) (s : Scan α) (c : Char) : Scan α :=
  match c with
  | '?' => { s with mode := .question }
  | '\'' => { s with mode := .literal s.offset }.emit [.source c]
  | '\x7b' => s.openBlock
  | '\x7d' => s.closeBlock b.skip
  | c => s.emit [.source c]

/-- Reads a character after a question mark. One that is no suffix is plain text that follows a
placeholder without suffix. -/
def afterQuestion [Medium α] (b : Binding) (s : Scan α) (c : Char) : Scan α :=
  if c = '?' then s.fail (.malformed .doublePlaceholder s.offset)
  else match Placeholder.ofSuffix? c with
    | some p => { s with mode := .plain }.resolve b p
    | none =>
      let next := { s with mode := .plain }.resolve b .generic
      match next.mode with
      | .failed _ => next
      | _ => next.plain b c

def inLiteral [Medium α] (s : Scan α) (c : Char) : Scan α :=
  (if c = '\'' then { s with mode := .plain } else s).emit [.source c]

/-- Moves behind a character. -/
def advance (c : Char) (s : Scan α) : Scan α := { s with offset := s.offset + c.utf8Size }

/-- Reads the next character. A failed scan stays as it is. -/
def step [Medium α] (b : Binding) (s : Scan α) (c : Char) : Scan α :=
  match s.mode with
  | .failed _ => s
  | .plain => (s.plain b c).advance c
  | .question => (s.afterQuestion b c).advance c
  | .literal _ => (s.inLiteral c).advance c

def read [Medium α] (b : Binding) (s : Scan α) (cs : List Char) : Scan α := cs.foldl (step b) s

/-- Ends a scan: an open block comes before an open literal, and a question mark at the very end
is a placeholder without suffix. -/
def finish [Medium α] (b : Binding) (s : Scan α) : Scan α :=
  match s.mode, s.block with
  | .failed _, _ => s
  | _, some block => s.fail (.malformed .unterminatedBlock block.start)
  | .literal start, none => s.fail (.malformed .unterminatedString start)
  | .question, none => { s with mode := .plain }.resolve b .generic
  | .plain, none => s

variable [Medium α]

@[simp] theorem read_nil (b : Binding) (s : Scan α) : s.read b [] = s := rfl

@[simp] theorem read_cons (b : Binding) (s : Scan α) (c : Char) (cs : List Char) :
    s.read b (c :: cs) = (s.step b c).read b cs := rfl

theorem read_append (b : Binding) (s : Scan α) (cs ds : List Char) :
    s.read b (cs ++ ds) = (s.read b cs).read b ds := by
  simp [read, List.foldl_append]

/-- A failed scan stays as it is, whatever follows. -/
theorem read_of_failed (b : Binding) (s : Scan α) (cs : List Char) {error : TemplateError}
    (h : s.mode = .failed error) : s.read b cs = s := by
  induction cs with
  | nil => rfl
  | cons c cs ih => rw [read_cons, show s.step b c = s by simp [step, h], ih]

end Scan

end Template

end QueryTemplate
