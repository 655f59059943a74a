import QueryTemplate.Toml.Text

/-!
# The outline of a TOML document

The outline of a document holds its keys, values and headers as they are written: which texts stand
where, not what they mean. Brackets, commas, comments and line ends are settled here, and arrays and
tables nest at most 80 deep.
-/

namespace QueryTemplate.Toml

/-- A piece of text: a word without quotes, the body of a string, or a string that has no end. -/
inductive Lexeme where
  | word (text : List Char)
  | quoted (escapes long : Bool) (body : List Char)
  | unclosed

/-- A key: its parts before the last one, and the last. -/
structure WrittenKey where
  path : List Lexeme
  last : Lexeme

inductive Written where
  | scalar (lexeme : Lexeme)
  | array (items : List Written)
  | table (entries : List (WrittenKey × Written))

/-- The key and the entries of a table with a header, or of an item of an array of tables. -/
structure Section where
  ofArray : Bool
  key : WrittenKey
  entries : List (WrittenKey × Written)

structure Outline where
  entries : List (WrittenKey × Written)
  sections : List Section

/-- Skips spaces, line ends and comments; the text may start inside a comment. -/
def skipFiller : (inComment : Bool) → List Char → Option (List Char)
  | _, [] => some []
  | _, '\n' :: cs => skipFiller false cs
  | _, '\r' :: '\n' :: cs => skipFiller false cs
  | true, c :: cs => if isPlain c then skipFiller true cs else none
  | false, '#' :: cs => skipFiller true cs
  | false, c :: cs => if isSpace c then skipFiller false cs else some (c :: cs)

/-- The text after the end of a line, which spaces and a comment may precede. -/
def afterLine? (cs : List Char) : Option (List Char) :=
  match skipSpaces cs with
  | [] => some []
  | '\n' :: rest => some rest
  | '\r' :: '\n' :: rest => some rest
  | '#' :: rest => skipFiller true rest
  | _ => none

/-- The body of a string, if it has an end, and what follows the string. -/
abbrev Span := Option (List Char) × List Char

/-- A span with a character before it. -/
def Span.cons (c : Char) (span : Span) : Span := (span.1.map (c :: ·), span.2)

/-- The rest of a string on one line. -/
def spanShort (quote : Char) : List Char → Span
  | [] => (none, [])
  | '\n' :: cs => (none, '\n' :: cs)
  | '\\' :: d :: cs =>
    if quote = '"' ∧ (d = '\\' ∨ d = '"') then Span.cons '\\' (Span.cons d (spanShort quote cs))
    else Span.cons '\\' (spanShort quote (d :: cs))
  | c :: cs => if c = quote then (some [], cs) else Span.cons c (spanShort quote cs)

/-- The quotes before the closing ones of a long string, two at most, if it ends here. -/
def closing? (quote : Char) : List Char → Option Span
  | a :: b :: c :: rest =>
    if a = quote ∧ b = quote ∧ c = quote then
      let more := (rest.take 2).takeWhile (· == quote)
      some (some more, rest.drop more.length)
    else none
  | _ => none

/-- The rest of a long string. -/
def spanLong (quote : Char) : List Char → Span
  | [] => (none, [])
  | '\\' :: d :: cs =>
    if quote = '"' ∧ (d = '\\' ∨ d = '"') then Span.cons '\\' (Span.cons d (spanLong quote cs))
    else Span.cons '\\' (spanLong quote (d :: cs))
  | c :: cs =>
    match closing? quote (c :: cs) with
    | some span => span
    | none => Span.cons c (spanLong quote cs)

/-- The lexeme of a span. -/
def Lexeme.ofSpan (escapes long : Bool) (span : Span) : Lexeme × List Char :=
  (match span.1 with
  | some body => .quoted escapes long body
  | none => .unclosed, span.2)

/-- The string at the head of a text. -/
def spanString? : List Char → Option (Lexeme × List Char)
  | '"' :: '"' :: '"' :: cs => some (Lexeme.ofSpan true true (spanLong '"' cs))
  | '"' :: cs => some (Lexeme.ofSpan true false (spanShort '"' cs))
  | '\'' :: '\'' :: '\'' :: cs => some (Lexeme.ofSpan false true (spanLong '\'' cs))
  | '\'' :: cs => some (Lexeme.ofSpan false false (spanShort '\'' cs))
  | _ => none

/-- The characters that end a scalar without quotes. A space or a tab ends it too, unless a word
comes next. -/
def scalarEnds : List Char := ['=', ',', '[', ']', '\x7b', '\x7d', '#', '\r', '\n']

/-- Whether a character belongs to a part of a key without quotes. -/
def isPartChar (c : Char) : Bool := !(c == '.' || isSpace c || scalarEnds.contains c)

/-- A part of a key. It may be missing. -/
def spanPart (cs : List Char) : Lexeme × List Char :=
  match spanString? cs with
  | some found => found
  | none => (.word (cs.takeWhile isPartChar), cs.dropWhile isPartChar)

/-- A key, with a dot between two parts, and what follows it and the spaces after it. Each part but
the last is followed by a dot, so `fuel` is at most the length of the text. -/
def spanKey : (fuel : Nat) → List Char → WrittenKey × List Char
  | 0, cs => (⟨[], .word []⟩, cs)
  | fuel + 1, cs =>
    let (part, rest) := spanPart (skipSpaces cs)
    match skipSpaces rest with
    | '.' :: rest =>
      let (key, rest) := spanKey fuel rest
      (⟨part :: key.path, key.last⟩, rest)
    | rest => (⟨[], part⟩, rest)

def isQuote (c : Char) : Bool := c == '"' || c == '\''

/-- Whether a word without quotes comes next after spaces. -/
def wordFollows (cs : List Char) : Bool :=
  match skipSpaces cs with
  | [] => false
  | c :: _ => isPartChar c && !isQuote c

/-- The text of a scalar without quotes, and what follows it. Words with spaces between them are one
scalar, as a date and a time are. A quote belongs to a word, but not at its head. -/
def spanScalar : (afterPoint : Bool) → List Char → List Char × List Char
  | _, [] => ([], [])
  | afterPoint, c :: cs =>
    if scalarEnds.contains c || (isSpace c && !wordFollows cs) || (afterPoint && isQuote c) then
      ([], c :: cs)
    else
      let (text, rest) := spanScalar (c == '.') cs
      (c :: text, rest)

/-- Reads from the head of a text and gives what is left of it. -/
abbrev Reader (α : Type) := List Char → Option (α × List Char)

/-- Items up to a closing character, with a comma between two of them and perhaps one after the
last, and filler around each. -/
def readItems {α : Type} (item : Reader α) (close : Char) : (fuel : Nat) → Reader (List α)
  | 0, _ => none
  | fuel + 1, cs => do
    match ← skipFiller false cs with
    | [] => none
    | c :: rest =>
      if c = close then some ([], rest)
      else
        let (x, rest) ← item (c :: rest)
        match ← skipFiller false rest with
        | [] => none
        | d :: rest =>
          if d = close then some ([x], rest)
          else if d = ',' then
            let (xs, rest) ← readItems item close fuel rest
            some (x :: xs, rest)
          else none

/-- An entry of a table between braces, which may go over several lines. -/
def readEntry (value : Reader Written) : Reader (WrittenKey × Written) := fun cs => do
  let (key, rest) := spanKey (cs.length + 1) cs
  let (v, rest) ← value (← skipFiller false (← after? '=' (← skipFiller false rest)))
  some ((key, v), rest)

/-- A value at the head of a text, with at most `depth` arrays and tables inside each other. -/
def readValue : (depth : Nat) → Reader Written
  | depth + 1, '[' :: rest =>
    (readItems (readValue depth) ']' (rest.length + 1) rest).map
      fun (items, left) => (.array items, left)
  | depth + 1, '\x7b' :: rest =>
    (readItems (readEntry (readValue depth)) '\x7d' (rest.length + 1) rest).map
      fun (entries, left) => (.table entries, left)
  | _, cs =>
    match spanString? cs with
    | some (lexeme, rest) => some (.scalar lexeme, rest)
    | none =>
      let (text, rest) := spanScalar false cs
      if text.isEmpty then none else some (.scalar (.word text), rest)

def depthLimit : Nat := 80

/-- The value of a line, which may be missing, up to the next line. -/
def readLastValue : Reader Written := fun cs =>
  match afterLine? cs with
  | some rest => some (.scalar (.word []), rest)
  | none => do
    let (value, rest) ← readValue depthLimit cs
    some (value, ← afterLine? rest)

/-- An outline with a section before it, which takes the entries before the first header. -/
def Outline.addSection (ofArray : Bool) (key : WrittenKey) (outline : Outline) : Outline :=
  ⟨[], ⟨ofArray, key, outline.entries⟩ :: outline.sections⟩

/-- The outline of a text, line by line. -/
def Outline.ofLines? : (fuel : Nat) → List Char → Option Outline
  | 0, _ => none
  | fuel + 1, cs => do
    match ← skipFiller false cs with
    | [] => some ⟨[], []⟩
    | '[' :: '[' :: rest => do
      let (key, rest) := spanKey (rest.length + 1) rest
      let rest ← afterLine? (← after? ']' (← after? ']' rest))
      (ofLines? fuel rest).map (addSection true key)
    | '[' :: rest => do
      let (key, rest) := spanKey (rest.length + 1) rest
      let rest ← afterLine? (← after? ']' rest)
      (ofLines? fuel rest).map (addSection false key)
    | cs => do
      let (key, rest) := spanKey (cs.length + 1) cs
      let (value, rest) ← readLastValue (skipSpaces (← after? '=' rest))
      let outline ← ofLines? fuel rest
      some ⟨(key, value) :: outline.entries, outline.sections⟩

/-- The outline of a document. A byte order mark may precede it. -/
def Outline.ofText? (text : String) : Option Outline :=
  let cs := match text.toList with
    | '\uFEFF' :: cs => cs
    | cs => cs
  ofLines? (cs.length + 1) cs

end QueryTemplate.Toml
