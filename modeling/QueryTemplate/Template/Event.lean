import QueryTemplate.Error

/-!
# Events

A run reports each block that it leaves out, and then how it ended.
-/

namespace QueryTemplate.Template

inductive Level where
  | debug
  | warn
  deriving DecidableEq

/-- A block that was left out, by the offsets of its braces. -/
structure Drop where
  start : Nat
  stop : Nat
  deriving DecidableEq

inductive Event where
  | blockDropped (drop : Drop)
  | rendered (supplied consumed dropped : Nat) (sql : String)
  | rejected (supplied : Nat) (template : String) (error : TemplateError)

namespace Event

def target : String := "sqltmpl.parse"

def level : Event → Level
  | rejected .. => .warn
  | _ => .debug

def message : Event → String
  | blockDropped .. => "conditional block dropped"
  | rendered .. => "template rendered"
  | rejected .. => "template rejected"

/-- The block that an event is about. -/
def drop? : Event → Option Drop
  | blockDropped d => some d
  | _ => none

end Event

end QueryTemplate.Template
