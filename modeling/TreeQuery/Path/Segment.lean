import TreeQuery.Forest
import TreeQuery.Pattern
import TreeQuery.Pattern.Quote

/-!
# Filter segments

A filter segment is a pattern for the name of a node, followed by any number of clauses. A clause is
an ampersand, the name of a parameter, an equals sign and a pattern for the value of that parameter.
The segment ends at a bar or at the end of the text.

The name of a parameter is read as a pattern too, so it must be well formed, but then it is taken
literally.
-/

namespace TreeQuery.Path

open Pattern (compile unquote map_eq_ok_iff suffix_of_compile)

/-- A test of nodes. -/
structure Segment where
  name : Pattern
  /-- Names of parameters with patterns for their values. -/
  clauses : List (Text × Pattern) := []

namespace Segment

/-- Whether a node passes: its name matches, and so does each parameter that a clause tests. -/
def accepts (forest : Forest) (segment : Segment) (node : Node) : Bool :=
  segment.name.isMatch (forest.name node) &&
    segment.clauses.all fun (param, pattern) => pattern.isMatch (forest.parameter node param)

/-- Reads a clause after its ampersand, and gives what follows it. -/
def readClause (text part : Text) : Except Error ((Text × Pattern) × Text) :=
  match compile text part true with
  | .error e => .error e
  | .ok key =>
    match key.rest with
    | '=' :: rest =>
      (compile text rest false).map fun value =>
        ((unquote key.pattern.source, value.pattern), value.rest)
    | _ => .error (.malformedAt text key.rest .missingEquals)

/-- What follows a clause is a final piece of the text that it was read from. -/
theorem suffix_of_readClause {text part rest : Text} {clause : Text × Pattern}
    (h : readClause text part = .ok (clause, rest)) : rest <:+ part := by
  unfold readClause at h
  split at h
  · cases h
  · next key hk =>
    split at h
    · next rest' hr =>
      obtain ⟨value, hv, he⟩ := map_eq_ok_iff.1 h
      obtain ⟨_, rfl⟩ := Prod.mk.inj he
      have hkey := suffix_of_compile hk
      rw [hr] at hkey
      exact (suffix_of_compile hv).trans ((List.suffix_cons ..).trans hkey)
    · cases h

/-- Reads the clauses at the beginning of `part`, which is a final piece of `text`, and gives what
follows the bar after them, if there is one. -/
def readClauses (text part : Text) : Except Error (List (Text × Pattern) × Option Text) :=
  match part with
  | '&' :: part =>
    match h : readClause text part with
    | .error e => .error e
    | .ok (clause, rest) =>
      have : rest.length ≤ part.length := (suffix_of_readClause h).length_le
      (readClauses text rest).map fun (clauses, next) => (clause :: clauses, next)
  | '|' :: next => .ok ([], some next)
  | _ => .ok ([], none)
termination_by part.length

/-- What follows the bar after the clauses is shorter than the text from them on. -/
theorem length_lt_of_readClauses {text part next : Text} {clauses : List (Text × Pattern)}
    (h : readClauses text part = .ok (clauses, some next)) : next.length < part.length := by
  fun_induction readClauses text part generalizing clauses with
  | case1 => cases h
  | case2 part clause rest _ hle ih =>
    obtain ⟨⟨clauses', next'⟩, hc, he⟩ := map_eq_ok_iff.1 h
    obtain ⟨_, rfl⟩ := Prod.mk.inj he
    have := ih hc
    simp only [List.length_cons]
    omega
  | case3 => simp_all
  | case4 => simp_all

/-- Reads the segment at the beginning of a text, and gives what follows the bar after it, if there
is one. -/
def read (text : Text) : Except Error (Segment × Option Text) :=
  match compile text text false with
  | .error e => .error e
  | .ok name =>
    (readClauses text name.rest).map fun (clauses, next) => ({ name := name.pattern, clauses }, next)

/-- What follows a segment is shorter than the text. -/
theorem length_lt_of_read {text next : Text} {segment : Segment}
    (h : read text = .ok (segment, some next)) : next.length < text.length := by
  unfold read at h
  split at h
  · cases h
  · next name hn =>
    obtain ⟨⟨clauses, next'⟩, hc, he⟩ := map_eq_ok_iff.1 h
    obtain ⟨_, rfl⟩ := Prod.mk.inj he
    exact Nat.lt_of_lt_of_le (length_lt_of_readClauses hc) (suffix_of_compile hn).length_le

end Segment

end TreeQuery.Path
