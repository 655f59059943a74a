import QueryTemplate.Template.Report

/-!
# Builders

A builder fixes the escaper of its statements and the value that leaves out a block.
-/

namespace QueryTemplate

structure Builder where
  escaper : Escaper
  skip : Value

namespace Builder

/-- The builder with an escaper whose skip value is null. -/
def ofEscaper (e : Escaper) : Builder := ⟨e, .null⟩

def withSkip (b : Builder) (skip : Value) : Builder := { b with skip }

def report (b : Builder) (template : String) (params : List Value) : Template.Report :=
  Template.report b.escaper template params b.skip

def build (b : Builder) (template : String) (params : List Value) :
    Except TemplateError String :=
  Template.render b.escaper template params b.skip

end Builder

end QueryTemplate
