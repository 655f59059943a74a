import QueryTemplate.Escaper
import Mathlib.Data.List.Basic

/-!
# A lexer for quotes

The lexer of a server separates the literals of a statement from the code around them. A quote
opens a literal; in a literal a backslash takes the next character with it, and a quote that is
not taken closes it. `Lexes` says what a text lexes to before any further text; it composes, and
the escaped form of a raw text lexes to the raw text wherever it stands in a literal.
-/

namespace QueryTemplate

/-- A character of code, or a literal by its decoded content. -/
inductive Lexeme where
  | code (c : Char)
  | literal (content : List Char)
  deriving DecidableEq

namespace Lexeme

def content? : Lexeme → Option (List Char)
  | code _ => none
  | literal content => some content

/-- What a lexeme shows outside literals: its character, or the place of a literal. -/
def outline : Lexeme → Option Char
  | code c => some c
  | literal _ => none

end Lexeme

/-- Where the lexer is: in code, in a literal with the content so far, or after a backslash. -/
inductive LexMode where
  | code
  | literal (content : List Char)
  | escape (content : List Char)

/-- The character that a backslash and a character stand for. -/
def unescape : Char → Char
  | '0' => '\x00'
  | 'n' => '\n'
  | 'r' => '\r'
  | 'Z' => '\x1a'
  | c => c

/-- The lexemes of a text; none when the text ends in a literal. -/
def lexFrom : LexMode → List Char → Option (List Lexeme)
  | .code, [] => some []
  | .literal _, [] => none
  | .escape _, [] => none
  | .code, c :: cs =>
    if c = '\'' then lexFrom (.literal []) cs else (lexFrom .code cs).map (.code c :: ·)
  | .literal content, c :: cs =>
    if c = '\\' then lexFrom (.escape content) cs
    else if c = '\'' then (lexFrom .code cs).map (.literal content :: ·)
    else lexFrom (.literal (content ++ [c])) cs
  | .escape content, c :: cs => lexFrom (.literal (content ++ [unescape c])) cs

/-- The lexemes of a statement; none when it ends in a literal. -/
def lex (statement : String) : Option (List Lexeme) := lexFrom .code statement.toList

/-- A text lexes to lexemes, whatever text follows. -/
def Lexes (text : List Char) (ls : List Lexeme) : Prop :=
  ∀ rest, lexFrom .code (text ++ rest) = (lexFrom .code rest).map (ls ++ ·)

/-! ### Composition -/

lemma Lexes.nil : Lexes [] [] := by
  intro rest
  simp

lemma Lexes.append {text text' : List Char} {ls ls' : List Lexeme} (h : Lexes text ls)
    (h' : Lexes text' ls') : Lexes (text ++ text') (ls ++ ls') := by
  intro rest
  rw [List.append_assoc, h, h', Option.map_map]
  exact congrFun (congrArg _ (funext fun _ => (List.append_assoc ..).symm)) _

lemma Lexes.flatMap {α : Type} {text : α → List Char} {ls : α → List Lexeme} {xs : List α}
    (h : ∀ x ∈ xs, Lexes (text x) (ls x)) : Lexes (xs.flatMap text) (xs.flatMap ls) := by
  induction xs with
  | nil => exact .nil
  | cons x xs ih =>
    rw [List.flatMap_cons, List.flatMap_cons]
    exact (h x List.mem_cons_self).append (ih fun y hy => h y (List.mem_cons_of_mem _ hy))

/-- A text that lexes on its own ends outside literals. -/
lemma Lexes.lex_eq {statement : String} {ls : List Lexeme} (h : Lexes statement.toList ls) :
    lex statement = some ls := by
  have heq := h []
  rw [List.append_nil] at heq
  rw [lex, heq]
  simp [lexFrom]

/-! ### Code and literals -/

lemma lexes_code {text : List Char} (h : '\'' ∉ text) : Lexes text (text.map .code) := by
  induction text with
  | nil => exact .nil
  | cons c cs ih =>
    rw [List.mem_cons, not_or] at h
    intro rest
    rw [List.cons_append, lexFrom, if_neg (Ne.symm h.1), ih h.2, Option.map_map]
    rfl

lemma lexFrom_content {text : List Char} (hq : '\'' ∉ text) (hb : '\\' ∉ text)
    (content rest : List Char) :
    lexFrom (.literal content) (text ++ rest) = lexFrom (.literal (content ++ text)) rest := by
  induction text generalizing content with
  | nil => simp
  | cons c cs ih =>
    rw [List.mem_cons, not_or] at hq hb
    rw [List.cons_append, lexFrom, if_neg (Ne.symm hb.1), if_neg (Ne.symm hq.1), ih hq.2 hb.2]
    simp

lemma lexFrom_backslashChar (c : Char) (content rest : List Char) :
    lexFrom (.literal content) (Escaper.backslashChar c ++ rest) =
      lexFrom (.literal (content ++ [c])) rest := by
  unfold Escaper.backslashChar
  split
  case h_8 hnul hlf hcr hbackslash hquote hdouble hsub =>
    exact lexFrom_content (by simpa using Ne.symm hquote) (by simpa using Ne.symm hbackslash) _ _
  all_goals rfl

/-- The escaped form of a raw text stands for the raw text. -/
theorem lexFrom_backslashed (raw content rest : List Char) :
    lexFrom (.literal content) (Escaper.backslashed raw ++ rest) =
      lexFrom (.literal (content ++ raw)) rest := by
  induction raw generalizing content with
  | nil => simp [Escaper.backslashed]
  | cons c cs ih =>
    rw [Escaper.backslashed, List.flatMap_cons, List.append_assoc, lexFrom_backslashChar]
    exact (ih _).trans (by simp)

/-- Content that stands for `raw` makes a literal between quotes. -/
lemma lexes_quoted {text raw : List Char}
    (h : ∀ rest, lexFrom (.literal []) (text ++ rest) = lexFrom (.literal raw) rest) :
    Lexes ('\'' :: (text ++ ['\''])) [.literal raw] := by
  intro rest
  rw [List.cons_append, lexFrom, if_pos rfl, List.append_assoc, h]
  simp [lexFrom]

lemma lexes_literal {content : List Char} (hq : '\'' ∉ content) (hb : '\\' ∉ content) :
    Lexes ('\'' :: (content ++ ['\''])) [.literal content] :=
  lexes_quoted fun rest => by rw [lexFrom_content hq hb, List.nil_append]

lemma lexes_backslashed (raw : List Char) :
    Lexes ('\'' :: (Escaper.backslashed raw ++ ['\''])) [.literal raw] :=
  lexes_quoted fun rest => by rw [lexFrom_backslashed, List.nil_append]

end QueryTemplate
