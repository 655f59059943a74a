import QueryTemplate.Json.Reader
import QueryTemplate.Toml.Reader

/-!
# Parsers

The program does not fix how JSON texts and TOML documents are read: it is given a parser of each.
The executable gives it the readers of this library.
-/

namespace QueryTemplate

structure Parsers where
  json : String → Option Json
  toml : String → Except Toml.Fault Toml.Entries

def Parsers.standard : Parsers := ⟨Json.read?, Toml.read⟩

end QueryTemplate
