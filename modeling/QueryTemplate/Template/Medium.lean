import QueryTemplate.Rendering

/-!
# Media

A statement is written piece by piece. What a piece becomes depends on the medium: a text, for
which the escaper is asked at once, or the piece itself, which leaves the answers of the escaper
open.
-/

namespace QueryTemplate

/-- What the pieces of a statement are written as. -/
class Medium (α : Type) where
  write : Piece → Written α

/-- Writes pieces one after the other. -/
def Medium.writeAll {α : Type} [Medium α] (pieces : List Piece) : Written (List α) where
  output := pieces.map fun p => (write p).output
  calls := pieces.flatMap fun p => (write p : Written α).calls

/-- A piece of text from an escaper. -/
structure Sql (e : Escaper) where
  text : String

def Sql.join {e : Escaper} (texts : List (Sql e)) : String := String.join (texts.map text)

instance (e : Escaper) : Medium (Sql e) where
  write p := (e.write p).map Sql.mk

@[default_instance]
instance : Medium Piece where
  write p := ⟨p, p.call?.toList⟩

@[simp] theorem Medium.output_writeAll_piece (pieces : List Piece) :
    (writeAll pieces : Written (List Piece)).output = pieces :=
  List.map_id pieces

@[simp] theorem Medium.calls_writeAll_piece (pieces : List Piece) :
    (writeAll pieces : Written (List Piece)).calls = pieces.filterMap Piece.call? := by
  induction pieces with
  | nil => rfl
  | cons p ps ih =>
    rw [List.filterMap_cons]
    cases h : p.call? <;> simp_all [writeAll, write]

end QueryTemplate
