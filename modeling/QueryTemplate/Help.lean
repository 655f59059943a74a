import QueryTemplate.Command

/-!
# Help

The texts that the program prints about itself.
-/

namespace QueryTemplate

def HelpTopic.lines : HelpTopic → List String
  | root => [
    "sqltmpl - render placeholder SQL templates into inlined SQL",
    "",
    "USAGE:",
    "  sqltmpl <COMMAND> [OPTIONS]",
    "",
    "COMMANDS:",
    "  render        Substitute parameters into a template and print the SQL",
    "",
    "Run `sqltmpl <command> --help` for more."]
  | render => [
    "USAGE:",
    "  sqltmpl render [OPTIONS] <TEMPLATE>",
    "  sqltmpl render [OPTIONS] --file <FILE>",
    "",
    "OPTIONS:",
    "  --config <FILE>       Config file path (default: sqltmpl.toml, optional)",
    "  --file <FILE>         Read the template from a file",
    "  --params <JSON>       JSON array of parameters, e.g. '[\"Jack\", [1, 2], null]'",
    "  --skip <JSON>         Skip sentinel as a JSON literal (overrides render.skip)",
    "  -h, --help            Print help",
    "",
    "PLACEHOLDERS:",
    "  ?  ?d  ?f  ?a  ?#     generic, integer, float, array, identifier",
    "  \x7b ... \x7d             dropped when a value inside equals the skip sentinel"]

def HelpTopic.text (topic : HelpTopic) : String :=
  String.join (topic.lines.map (· ++ "\n"))

end QueryTemplate
