import QueryTemplate.Text.Utf8

/-!
# Files

What the program asks of a file system: whether a path leads to anything, and the text of a file.
`FileTree` answers for the files below a working directory.
-/

namespace QueryTemplate

inductive FileFault where
  | notFound
  | notDirectory
  | isDirectory
  | nameTooLong
  | nulInName
  | notText
  | other (description : String) (code : Nat)
  deriving DecidableEq

/-- A fault that the system reports, with its code. -/
def FileFault.systemMessage (description : String) (code : Nat) : String :=
  description ++ " (os error " ++ toString code ++ ")"

def FileFault.message : FileFault → String
  | notFound => systemMessage "No such file or directory" 2
  | notDirectory => systemMessage "Not a directory" 20
  | isDirectory => systemMessage "Is a directory" 21
  | nameTooLong => systemMessage "File name too long" 36
  | nulInName => "file name contained an unexpected NUL byte"
  | notText => "stream did not contain valid UTF-8"
  | other description code => systemMessage description code

/-- The view of a file system by path. -/
structure Files where
  isPresent : String → Bool
  text : String → Except FileFault String

inductive FileTree where
  | file (bytes : ByteArray)
  | directory (entries : List (String × FileTree))

namespace FileTree

def child? (name : String) : List (String × FileTree) → Option FileTree
  | [] => none
  | (n, tree) :: rest => if n = name then some tree else child? name rest

/-- The directory entries with one entry put in, in place of an earlier one of the same name. -/
def put (name : String) (tree : FileTree) : List (String × FileTree) → List (String × FileTree)
  | [] => [(name, tree)]
  | (n, old) :: rest => if n = name then (n, tree) :: rest else (n, old) :: put name tree rest

/-- A tree with another one put in at a path, and the directories on the way to it. -/
def insert (tree : FileTree) : (path : List String) → FileTree → FileTree
  | [], _ => tree
  | name :: path, directory entries =>
    directory (put name (insert tree path ((child? name entries).getD (directory []))) entries)
  | name :: path, file _ => directory [(name, insert tree path (directory []))]

def nameLimit : Nat := 255

def pathLimit : Nat := 4095

/-- Follows the names of a path. An empty name and a dot stay in a directory, two dots lead to
the directory around it, the last of `outer`; beyond the working directory nothing is known. -/
def follow : (outer : List FileTree) → FileTree → List String → Except FileFault FileTree
  | _, tree, [] => .ok tree
  | _, file _, _ :: _ => .error .notDirectory
  | outer, directory entries, name :: path =>
    if name = "" ∨ name = "." then follow outer (directory entries) path
    else if name = ".." then
      match outer with
      | [] => follow [] (directory []) path
      | parent :: outer => follow outer parent path
    else if nameLimit < Text.byteLength name.toList then .error .nameTooLong
    else match child? name entries with
      | none => .error .notFound
      | some tree => follow (directory entries :: outer) tree path

/-- The parts of a path between its slashes. -/
def names (path : String) : List String :=
  (path.toList.splitOn '/').map String.ofList

def find (workingDirectory : FileTree) (path : String) : Except FileFault FileTree :=
  if path.toList.contains '\x00' then .error .nulInName
  else if path = "" then .error .notFound
  else if pathLimit < Text.byteLength path.toList then .error .nameTooLong
  else if path.toList.head? = some '/' then follow [] (directory []) (names path)
  else follow [] workingDirectory (names path)

def text (workingDirectory : FileTree) (path : String) : Except FileFault String :=
  match workingDirectory.find path with
  | .error fault => .error fault
  | .ok (directory _) => .error .isDirectory
  | .ok (file bytes) =>
    match String.fromUTF8? bytes with
    | some text => .ok text
    | none => .error .notText

def files (workingDirectory : FileTree) : Files where
  isPresent path := (workingDirectory.find path).isOk
  text := workingDirectory.text

end FileTree

end QueryTemplate
