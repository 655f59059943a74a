import QueryTemplate.Toml.Basic

/-!
# Building tables

No key gets a value twice, no table has two headers, and neither a header nor a dotted key adds to a
table between braces. A dotted key adds only to tables that dotted keys made.
-/

namespace QueryTemplate.Toml

/-- Changes the table at a path from the given one, and makes the tables that are missing on the
way. A path goes through the last table of an array of tables. With `byKey` the path is that of a
dotted key, which does not go through tables with a header. The change is told how the table came
to be. -/
def changeAt (byKey : Bool) (change : Origin → Entries → Except Fault Entries) :
    (path : List String) → Origin → Entries → Except Fault Entries
  | [], origin, entries => change origin entries
  | key :: path, _, entries => do
    let within (origin : Origin) (inner : Entries) : Except Fault Toml := do
      .ok (.table origin (← changeAt byKey change path origin inner))
    let next ← match find? key entries with
      | none => within (if byKey then .dotted else .implied) []
      | some (.table .inline _) => .error .malformed
      | some (.table .header inner) =>
        if byKey then .error .malformed else within .header inner
      | some (.table origin inner) => within origin inner
      | some (.array true items) =>
        match items.getLast? with
        | some (.table origin inner) => do
          .ok (.array true (items.dropLast ++ [← within origin inner]))
        | _ => .error .malformed
      | some _ => .error .malformed
    .ok (assign key next entries)

def addEntry (key : String) (value : Toml) (entries : Entries) : Except Fault Entries :=
  match find? key entries with
  | some _ => .error .malformed
  | none => .ok (entries ++ [(key, value)])

/-- Gives a key at a path a value. A dotted key ends in a table made by a dotted key. -/
def addAt (path : List String) (key : String) (value : Toml) : Entries → Except Fault Entries :=
  changeAt true
    (fun origin entries =>
      if path.isEmpty || origin == .dotted then addEntry key value entries
      else .error .malformed)
    path .header

/-- What a table with a header already holds: the tables whose headers implied it. -/
def implied (key : String) (entries : Entries) : Except Fault Entries :=
  match find? key entries with
  | none => .ok []
  | some (.table .implied inner) => .ok inner
  | some _ => .error .malformed

/-- Adds a table to the array of tables at a key. -/
def addToArray (key : String) (table entries : Entries) : Except Fault Entries :=
  match find? key entries with
  | none => .ok (entries ++ [(key, .array true [.table .header table])])
  | some (.array true items) =>
    .ok (assign key (.array true (items ++ [.table .header table])) entries)
  | some _ => .error .malformed

end QueryTemplate.Toml
