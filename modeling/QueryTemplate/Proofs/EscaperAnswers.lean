import QueryTemplate.Proofs.Resolution
import QueryTemplate.Template.Report

/-!
# Answers of the escaper

The calls of an escaper are decided by the template and its parameters, and the answers are not
looked at. A statement is a text with places, one for each call of a placeholder that stays, and
each escaper fills the places with its answers.
-/

namespace QueryTemplate.Template

/-- What an escaper answers to a call. -/
def answer (e : Escaper) : Call → String
  | .escape raw => e.escape raw
  | .quote raw => e.quote raw

/-- A text with places for the answers to calls. -/
abbrev Form := List (String ⊕ Call)

/-- A form with the answers of an escaper in its places. -/
def fill (e : Escaper) (form : Form) : String := String.join (form.map (Sum.elim id (answer e)))

/-- The calls in the places of a form. -/
def Form.calls (form : Form) : List Call := form.filterMap Sum.getRight?

/-- The calls for an item, by its number. -/
def Item.calls (params : List Value) (n : Nat) : Item → List Call
  | placeholder p => (params[n]?.map p.calls).getD []
  | _ => []

/-- The calls for the placeholders of the parts that stay. -/
def keptCalls (b : Binding) (parts : List Part) : List Call :=
  (keptItems b 0 parts).flatMap fun x => x.2.calls b.params x.1

/-! ### The form of a list of pieces -/

def Piece.form : Piece → Form
  | .source c => [.inl (String.singleton c)]
  | .text s => [.inl s]
  | .literal raw => [.inl "'", .inr (.escape raw), .inl "'"]
  | .name raw => [.inr (.quote raw)]

lemma fill_append (e : Escaper) (xs ys : Form) :
    fill e (xs ++ ys) = fill e xs ++ fill e ys := by
  apply String.ext
  simp [fill]

lemma fill_form (e : Escaper) (ps : List Piece) :
    fill e (ps.flatMap Piece.form) = Piece.writeAll e ps := by
  induction ps with
  | nil => rfl
  | cons p ps ih =>
    have hp : fill e (Piece.form p) = p.write e := by
      cases p <;> simp [fill, Piece.form, answer, String.append_assoc]
    rw [List.flatMap_cons, fill_append, ih, hp]
    simp [Piece.writeAll]

lemma calls_form (ps : List Piece) :
    Form.calls (ps.flatMap Piece.form) = ps.filterMap Piece.call? := by
  induction ps with
  | nil => rfl
  | cons p ps ih =>
    rw [List.flatMap_cons, Form.calls, List.filterMap_append]
    exact (congrArg _ ih).trans (by cases p <;> rfl)

lemma Item.calls_pieces (params : List Value) (n : Nat) (i : Item) :
    (i.pieces params n).filterMap Piece.call? = i.calls params n := by
  cases i with
  | placeholder p =>
    cases hv : params[n]? with
    | none => simp [pieces, calls, hv]
    | some v =>
      simp only [pieces, calls, hv, Option.map_some, Option.getD_some]
      exact p.calls_render v
  | literal content => exact Scan.filterMap_call?_source ('\'' :: (content ++ ['\'']))
  | plain c => rfl

/-- The pieces of parts need the calls for the placeholders that stay. -/
lemma calls_partPieces (b : Binding) (parts : List Part) :
    (partPieces b 0 parts).filterMap Piece.call? = keptCalls b parts := by
  rw [partPieces_eq_keptItems, List.filterMap_flatMap, keptCalls]
  exact List.flatMap_congr fun x _ => x.2.calls_pieces b.params x.1

/-! ### Two escapers -/

lemma sql_runOn_eq_fill (e : Escaper) (b : Binding) (template : String) :
    (runOn (Sql e) b template).sql =
      ((run b template).statement.map (·.flatMap Piece.form)).map (fill e) := by
  rw [sql_runOn]
  cases (run b template).statement with
  | error error => rfl
  | ok ps => exact congrArg Except.ok (fill_form e ps).symm

/-- Whatever the escaper answers, a report has the same calls: those for the placeholders that are
resolved, in textual order, each with its parameter. It counts and logs the same, and it has the
same error or the same text with places, filled with the answers. The places are those of the calls
for the placeholders that stay, in their order. -/
theorem report_answers (template : String) (params : List Value) (skip : Value) :
    ∃ (resolved : List Placeholder) (form : Except TemplateError Form) (dropped : Nat)
        (events : List Event),
      Lists resolved (IsResolved params template.toList) ∧
      (∀ e, (report e template params skip).calls =
          ((resolved.zip params).flatMap fun pv => pv.1.calls pv.2) ∧
        (report e template params skip).result = form.map (fill e) ∧
        (runOn (Sql e) ⟨params, skip⟩ template).consumed = resolved.length ∧
        (runOn (Sql e) ⟨params, skip⟩ template).dropped = dropped ∧
        (runOn (Sql e) ⟨params, skip⟩ template).events = events) ∧
      ∀ text, form = .ok text → ∃ parts, ConsistsOf template parts ∧
        Form.calls text = keptCalls ⟨params, skip⟩ parts := by
  obtain ⟨resolved, hconsumed, hcalls, hlists⟩ := exists_resolved ⟨params, skip⟩ template
  refine ⟨resolved, (run ⟨params, skip⟩ template).statement.map (·.flatMap Piece.form),
    (run ⟨params, skip⟩ template).dropped, (run ⟨params, skip⟩ template).events, hlists,
    fun e => ⟨?_, ?_, ?_, ?_, ?_⟩, fun text htext => ?_⟩
  · exact (calls_runOn e _ template).trans hcalls
  · exact sql_runOn_eq_fill e ⟨params, skip⟩ template
  · exact (consumed_runOn e _ template).trans hconsumed
  · exact dropped_runOn e _ template
  · exact events_runOn e _ template
  · cases hs : (run ⟨params, skip⟩ template).statement with
    | error error =>
      rw [hs] at htext
      cases htext
    | ok ps =>
      obtain ⟨parts, hparts⟩ := exists_parts_of_statement_eq_ok hs
      have hps : ps = partPieces ⟨params, skip⟩ 0 parts := by
        rw [statement_run _ hparts] at hs
        split at hs
        · cases hs
        · exact (Except.ok.inj hs).symm
      rw [hs] at htext
      cases htext
      refine ⟨parts, hparts, ?_⟩
      rw [calls_form, hps, calls_partPieces]

-- The block is left out and the list is refused at its second item.
example : (report .mysql "\x7b?\x7d?a"
    [.string "a", .list [.string "b", .list [], .string "c"]] (.string "a")).calls =
    [.escape "a", .escape "b"] := by
  decide +kernel

end QueryTemplate.Template
