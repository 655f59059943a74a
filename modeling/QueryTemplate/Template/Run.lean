import QueryTemplate.Template.Scan

/-!
# Running a template

`runOn` reads a template with its parameters and gives the statement with an account of the
reading: how many parameters were bound, how many blocks were left out, which events were logged
and which calls of the escaper were made. `render` is the text of the statement alone.
-/

namespace QueryTemplate.Template

/-- The outcome of a template and the account of its reading. -/
structure Run (α : Type) where
  statement : Except TemplateError (List α)
  consumed : Nat
  dropped : Nat
  events : List Event
  calls : List Call

def Scan.toRun {α : Type} (s : Scan α) : Run α where
  statement := match s.mode with
    | .failed error => .error error
    | _ => .ok s.pieces.toList
  consumed := s.bound
  dropped := s.dropped
  events := s.events.toList
  calls := s.calls.toList

def runOn (α : Type) [Medium α] (b : Binding) (template : String) : Run α :=
  ((Scan.initial.read b template.toList).finish b).toRun

/-- The run that leaves the answers of the escaper open. -/
def run (b : Binding) (template : String) : Run Piece := runOn Piece b template

/-- The blocks that were left out, as the events tell. -/
def Run.drops {α : Type} (r : Run α) : List Drop := r.events.filterMap Event.drop?

/-- The text of the statement. -/
def Run.sql {e : Escaper} (r : Run (Sql e)) : Except TemplateError String :=
  r.statement.map Sql.join

/-- Renders a template: the placeholders take the parameters in textual order, also in blocks
that are left out, and a block is left out when a value bound in it equals `skip`. -/
def render (e : Escaper) (template : String) (params : List Value) (skip : Value) :
    Except TemplateError String :=
  (runOn (Sql e) ⟨params, skip⟩ template).sql

end QueryTemplate.Template
