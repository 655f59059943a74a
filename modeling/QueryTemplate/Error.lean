import QueryTemplate.Placeholder
import QueryTemplate.Value.Basic
import QueryTemplate.Double.Text

/-!
# Template errors

A run fails because the template is malformed, at a byte offset, or because a parameter is
missing or has a value that its placeholder does not write.
-/

namespace QueryTemplate

/-- What is wrong with a malformed template. -/
inductive Defect where
  | doublePlaceholder
  | nestedBlock
  | unmatchedBlockClose
  | unterminatedBlock
  | unterminatedString
  deriving DecidableEq

namespace Defect

def message : Defect → String
  | doublePlaceholder => "unexpected `?` immediately after `?`"
  | nestedBlock => "nested conditional blocks are not allowed"
  | unmatchedBlockClose => "closing `\x7d` without matching opening `\x7b`"
  | unterminatedBlock => "conditional block not closed at the end of query"
  | unterminatedString => "string literal not closed at the end of query"

end Defect

/-- Why a placeholder does not write a value. -/
inductive Reason where
  | notScalar
  | notCollection
  | notNames
  | itemNotName
  | noLiteral (x : Double)
  | outOfRange (x : Double)
  deriving DecidableEq

def Reason.message : Reason → String
  | notScalar => "expected a scalar"
  | notCollection => "expected a list or a map"
  | notNames => "expected a string or a list of strings"
  | itemNotName => "identifier lists may only contain strings"
  | noLiteral x => x.messageText ++ " has no SQL literal form"
  | outOfRange x => x.messageText ++ " does not fit in a 64-bit integer"

/-- A value refused by the placeholder that asked for it. -/
structure Refusal where
  placeholder : Placeholder
  found : Value.Kind
  reason : Reason
  deriving DecidableEq

def Refusal.message (r : Refusal) : String :=
  "unsupported " ++ r.found.name ++ " value for " ++ r.placeholder.messageText ++
    " placeholder: " ++ r.reason.message

/-- What is wrong with the parameters of a well-formed template. -/
inductive ArgumentError where
  | missing (index supplied : Nat)
  | refused (refusal : Refusal)
  deriving DecidableEq

def ArgumentError.message : ArgumentError → String
  | missing index supplied =>
    "no parameter with index " ++ toString index ++ " (" ++ toString supplied ++ " supplied)"
  | refused refusal => refusal.message

/-- Why a template has no text. -/
inductive TemplateError where
  | malformed (defect : Defect) (offset : Nat)
  | argument (error : ArgumentError)
  deriving DecidableEq

namespace TemplateError

def message : TemplateError → String
  | malformed defect offset =>
    "Parse error at offset " ++ toString offset ++ ": " ++ defect.message
  | argument error => "Invalid argument: " ++ error.message

/-- The message followed by those of its causes. -/
def chainMessage : TemplateError → String
  | malformed defect offset => (malformed defect offset).message
  | argument error => (argument error).message ++ ": " ++ error.message

end TemplateError

end QueryTemplate
