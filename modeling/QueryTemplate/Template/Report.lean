import QueryTemplate.Template.Run
import QueryTemplate.Text.Utf8

/-!
# Reports

A report is all that a call of the renderer leaves behind. Its last event says how the run ended.
Texts in events are cut to 200 bytes of whole characters.
-/

namespace QueryTemplate.Template

/-- The most bytes of a text in an event. -/
def eventLimit : Nat := 200

/-- A text as events show it. -/
def shortened (s : String) : String := String.ofList (Text.cut eventLimit s.toList)

/-- The event that ends a run. -/
def Run.lastEvent {e : Escaper} (template : String) (supplied : Nat) (r : Run (Sql e)) : Event :=
  match r.sql with
  | .ok sql => .rendered supplied r.consumed r.dropped (shortened sql)
  | .error error => .rejected supplied (shortened template) error

/-- The result of a call, the events that were logged and the calls of the escaper. -/
structure Report where
  result : Except TemplateError String
  events : List Event
  calls : List Call

def report (e : Escaper) (template : String) (params : List Value) (skip : Value) : Report :=
  let r := runOn (Sql e) ⟨params, skip⟩ template
  ⟨r.sql, r.events ++ [r.lastEvent template params.length], r.calls⟩

end QueryTemplate.Template
