import TreeQuery.Locator
import TreeQuery.Proofs.Path.Quoting

/-!
# Descriptions

A locator describes a node by its name and by values of its parameters. The description is a filter
segment, with the name and the values quoted. It finds the nodes that fit it (`evaluate_described`),
if each part of it means what it says: the name means itself once it is quoted, the names of the
parameters mean themselves as they stand, and no value has a line break.
-/

namespace TreeQuery

/-- Names of parameters that mean themselves as keys of a path: they are read up to their end, on one
line, and no caret is dropped from them. -/
def IsKey (p : Text) : Prop := '^' ∉ p ∧ OneLine p ∧ ∃ pattern, Pattern.Spells true p pattern

/-- A text without carets has none to drop. -/
theorem Pattern.unquote_eq_self {p : Text} (h : '^' ∉ p) : unquote p = p := by
  induction p with
  | nil => rfl
  | cons c p ih =>
    rw [List.mem_cons, not_or] at h
    rw [unquote_cons_of_ne (Ne.symm h.1), ih h.2]

/-- A name on one line without characters that mean something in a clause means itself. -/
theorem isKey_of_plain {p : Text} (hl : OneLine p)
    (h : ∀ c ∈ p, Pattern.isSpecial c = false ∧ c ≠ '=') : IsKey p := by
  have hitems : Pattern.PatternText true p (p.map .char) := by
    clear hl
    induction p with
    | nil => exact .nil
    | cons c p ih =>
      obtain ⟨hc, he⟩ := h c List.mem_cons_self
      exact .plain hc (by simp [he]) (ih fun d hd => h d (List.mem_cons_of_mem _ hd))
  refine ⟨fun hcaret => ?_, hl, ⟨p, Pattern.wholeExpr (p.map .char), []⟩, p.map .char, hitems,
    Pattern.exprOfItems_eq (Pattern.hasGroup_chars p), ?_⟩
  · exact absurd (h _ hcaret).1 (by decide)
  · rw [Pattern.rangesOf_chars]

namespace Locator

open TreeQuery.Path (Segment Plan evaluate evaluate_of_spelled)
open TreeQuery.Path.Segment (ClausesText)
open Pattern (quote literal unquote_eq_self oneLine_quote_iff endsPattern)

/-- The description of a node of the given name by parameters with their values. -/
def described (v : Text) (tests : List (Text × Text)) : Text :=
  quote v ++ tests.flatMap fun t => clause t.1 t.2

/-- Whether a node has a name and values of parameters. -/
def fits (forest : Forest) (v : Text) (tests : List (Text × Text)) (node : Node) : Bool :=
  decide (forest.name node = v) && tests.all fun t => decide (forest.parameter node t.1 = t.2)

theorem described_append (v : Text) (tests more : List (Text × Text)) :
    described v (tests ++ more) = described v tests ++ more.flatMap fun t => clause t.1 t.2 := by
  rw [described, List.flatMap_append, ← List.append_assoc]
  rfl

theorem fits_append (forest : Forest) (v : Text) (tests more : List (Text × Text)) (node : Node) :
    fits forest v (tests ++ more) node =
      (fits forest v tests node &&
        more.all fun t => decide (forest.parameter node t.1 = t.2)) := by
  rw [fits, List.all_append, ← Bool.and_assoc]
  rfl

/-! ## Reading -/

theorem clause_append (p x s : Text) : clause p x ++ s = '&' :: (p ++ '=' :: (quote x ++ s)) := by
  simp [clause]

theorem clausesText_described {tests : List (Text × Text)} (h : ∀ t ∈ tests, IsKey t.1) :
    ClausesText (tests.flatMap fun t => clause t.1 t.2)
      (tests.map fun t => (t.1, literal t.2)) := by
  induction tests with
  | nil => exact .nil
  | cons t tests ih =>
    obtain ⟨hcaret, -, key, hkey⟩ := h t List.mem_cons_self
    have hc := ClausesText.cons hkey (Pattern.spells_quote t.2)
      (ih fun t ht => h t (List.mem_cons_of_mem _ ht))
    rw [unquote_eq_self hcaret] at hc
    rw [List.flatMap_cons, List.map_cons, clause_append]
    exact hc

/-- The segment that a description is read as. -/
theorem spelled_described (v : Text) {tests : List (Text × Text)} (h : ∀ t ∈ tests, IsKey t.1) :
    Segment.Spelled (described v tests)
      { name := literal v, clauses := tests.map fun t => (t.1, literal t.2) } :=
  ⟨quote v, _, rfl, Pattern.spells_quote v, clausesText_described h⟩

theorem oneLine_described {v : Text} {tests : List (Text × Text)} (hv : OneLine v)
    (h : ∀ t ∈ tests, OneLine t.1 ∧ OneLine t.2) : OneLine (described v tests) := by
  refine oneLine_append_iff.2 ⟨oneLine_quote_iff.2 hv, ?_⟩
  intro c hc
  obtain ⟨t, ht, hc⟩ := List.mem_flatMap.1 hc
  have : OneLine (clause t.1 t.2) := by
    unfold clause
    rw [oneLine_append_iff, oneLine_append_iff, oneLine_append_iff]
    exact ⟨⟨⟨by decide, (h t ht).1⟩, by decide⟩, oneLine_quote_iff.2 (h t ht).2⟩
  exact this c hc

theorem opening_described {v : Text} (hv : IsLiteral v) (tests : List (Text × Text)) :
    Plan.opening (described v tests) = .filter := by
  refine Plan.opening_quote_append hv ?_
  cases tests with
  | nil => rfl
  | cons t tests => rfl

/-- What the segment of a description accepts. -/
theorem accepts_described (forest : Forest) (v : Text) (tests : List (Text × Text)) (node : Node) :
    Segment.accepts forest
      { name := literal v, clauses := tests.map fun t => (t.1, literal t.2) } node =
      fits forest v tests node := by
  unfold Segment.accepts fits
  rw [Pattern.isMatch_literal, List.all_map]
  congr 2
  funext t
  exact Pattern.isMatch_literal t.2 _

/-- **A description finds the nodes that fit it.** -/
theorem evaluate_described {forest : Forest} {v : Text} {tests : List (Text × Text)}
    (hv : IsLiteral v) (ht : ∀ t ∈ tests, IsKey t.1 ∧ OneLine t.2) (fuel : Fuel)
    (roots : List Root) :
    evaluate forest fuel (described v tests) roots =
      .ok ((roots.flatMap (·.children forest)).filter (fits forest v tests)) := by
  have hl : OneLine (described v tests) :=
    oneLine_described hv.1 fun t hmem => ⟨(ht t hmem).1.2.1, (ht t hmem).2⟩
  rw [evaluate_of_spelled fuel hl (opening_described hv tests)
    (spelled_described v fun t hmem => (ht t hmem).1)]
  exact congrArg Except.ok (List.filter_congr fun n _ => accepts_described forest v tests n)

end Locator

end TreeQuery
