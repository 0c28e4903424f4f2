import TreeQuery.Proofs.Access.Scanning
import TreeQuery.Proofs.Path.Opening

/-!
# Reading lines by offsets

A filter segment may be read from a path as a whole: each pattern in it begins at an offset, one byte
behind the ampersand, the equals sign or the bar that the pattern before it ended at. `Segment.readAt`
reads a segment so, and `Plan.readAt` a line, which is cut behind the bar after each filter.

No reading of this kind aborts: a segment is read as without offsets (`Segment.readAt_eq_done`), and so is
a line (`Plan.readAt_eq_some`). An offset that is looked at is always that of a final piece of the path,
and the byte there is a character of its own before one is added to it.
-/

namespace TreeQuery.Path

open Pattern (Compiled compile compileAt compileAt_place unquote suffix_of_compile map_eq_ok_iff)

namespace Segment

/-! ## Clauses -/

/-- Reads the clause behind the ampersand at an offset, and gives the offset of what follows it. -/
def readClauseAt (path : Text) (pos : Nat) : Checked ((Text × Pattern) × Nat) := do
  let (key, stop) ← compileAt path (pos + 1) true
  if path.byteAt? stop = some '='.toUInt8 then
    let (value, rest) ← compileAt path (stop + 1) false
    return ((unquote key.source, value), rest)
  else throw (.malformed path stop .missingEquals)

/-- A result with the offset of what follows it. -/
def placed {α : Type} (path : Text) : α × Text → α × Nat := fun (a, rest) => (a, path.place rest)

theorem readClause_of_equals {path part rest : Text} {key : Pattern}
    (hkey : compile path part true = .ok ⟨key, '=' :: rest⟩) :
    readClause path part = (compile path rest false).map fun value =>
      ((unquote key.source, value.pattern), value.rest) := by
  rw [readClause, hkey]
  rfl

theorem readClause_of_missing {path part rest : Text} {key : Pattern}
    (hkey : compile path part true = .ok ⟨key, rest⟩) (h : rest.head? ≠ some '=') :
    readClause path part = .error (.malformedAt path rest .missingEquals) := by
  rw [readClause, hkey]
  dsimp only
  split
  · exact absurd rfl h
  · rfl

theorem readClauseAt_eq_done {path part : Text} (h : '&' :: part <:+ path) :
    readClauseAt path (path.place ('&' :: part)) =
      .done ((readClause path part).map (placed path)) := by
  have hpart : part <:+ path := (List.suffix_cons ..).trans h
  unfold readClauseAt
  rw [Text.place_add_one rfl h, compileAt_place hpart]
  cases hkey : compile path part true with
  | error e =>
    rw [readClause, hkey]
    rfl
  | ok key =>
    obtain ⟨key, rest⟩ := key
    have hrest : rest <:+ path := (suffix_of_compile hkey).trans hpart
    have hbyte := Text.byteAt?_place (c := '=') rfl hrest
    simp only [Except.map, Compiled.placed, Checked.done_ok_bind]
    by_cases heq : rest.head? = some '='
    · obtain ⟨rest, rfl⟩ := List.head?_eq_some_iff.1 heq
      rw [if_pos (hbyte.2 heq), Text.place_add_one rfl hrest,
        compileAt_place ((List.suffix_cons ..).trans hrest), readClause_of_equals hkey]
      cases compile path rest false <;> rfl
    · rw [if_neg (mt hbyte.1 heq), readClause_of_missing hkey heq]
      rfl

theorem lt_of_readClauseAt {path : Text} {pos rest : Nat} {clause : Text × Pattern}
    (h : readClauseAt path pos = .done (.ok (clause, rest))) : pos < rest ∧ rest ≤ path.byteLength := by
  obtain ⟨⟨key, stop⟩, hkey, h⟩ := Checked.exists_of_bind h
  have hstop := Pattern.le_of_compileAt hkey
  dsimp only at h
  split at h
  · obtain ⟨⟨value, rest⟩, hvalue, h⟩ := Checked.exists_of_bind h
    cases h
    have hrest := Pattern.le_of_compileAt hvalue
    omega
  · cases h

/-- Reads the clauses from an offset on, and gives the offset behind the bar after them, if there is
one. -/
def readClausesAt (path : Text) (pos : Nat) : Checked (List (Text × Pattern) × Option Nat) :=
  if path.byteAt? pos = some '&'.toUInt8 then
    match h : (readClauseAt path pos).run with
    | none => .abort
    | some (.error e) => throw e
    | some (.ok (clause, rest)) =>
      have := lt_of_readClauseAt h
      (fun (clauses, next) => (clause :: clauses, next)) <$> readClausesAt path rest
  else if path.byteAt? pos = some '|'.toUInt8 then return ([], some (pos + 1))
  else return ([], none)
termination_by path.byteLength - pos

/-- A result with the offset of what follows it, if anything does. -/
def placed? {α : Type} (path : Text) : α × Option Text → α × Option Nat :=
  fun (a, next) => (a, next.map path.place)

section Steps

variable {path : Text} {pos rest : Nat} {clause : Text × Pattern} {e : Error}

theorem readClausesAt_error (hbyte : path.byteAt? pos = some '&'.toUInt8)
    (h : readClauseAt path pos = .done (.error e)) : readClausesAt path pos = .done (.error e) := by
  rw [readClausesAt, if_pos hbyte]
  split
  · next h' => cases h'.symm.trans h
  · next h' =>
    cases h'.symm.trans h
    rfl
  · next h' => cases h'.symm.trans h

theorem readClausesAt_clause (hbyte : path.byteAt? pos = some '&'.toUInt8)
    (h : readClauseAt path pos = .done (.ok (clause, rest))) :
    readClausesAt path pos =
      (fun (clauses, next) => (clause :: clauses, next)) <$> readClausesAt path rest := by
  rw [readClausesAt, if_pos hbyte]
  split
  · next h' => cases h'.symm.trans h
  · next h' => cases h'.symm.trans h
  · next h' =>
    cases h'.symm.trans h
    rfl

end Steps

theorem readClausesAt_eq_done {path part : Text} (h : part <:+ path) :
    readClausesAt path (path.place part) = .done ((readClauses path part).map (placed? path)) := by
  have hamp := Text.byteAt?_place (c := '&') rfl h
  have hbar := Text.byteAt?_place (c := '|') rfl h
  fun_induction readClauses path part with
  | case1 part e hclause =>
    have hat := readClauseAt_eq_done h
    rw [hclause] at hat
    exact readClausesAt_error (hamp.2 rfl) hat
  | case2 part clause rest hclause _ ih =>
    have hat := readClauseAt_eq_done h
    have hrest : rest <:+ path :=
      (suffix_of_readClause hclause).trans ((List.suffix_cons ..).trans h)
    rw [hclause] at hat
    rw [readClausesAt_clause (hamp.2 rfl) hat,
      ih hrest (Text.byteAt?_place rfl hrest) (Text.byteAt?_place rfl hrest), Checked.done_map]
    cases readClauses path rest <;> rfl
  | case3 next =>
    rw [readClausesAt, if_neg (mt hamp.1 (by simp)), if_pos (hbar.2 rfl), Text.place_add_one rfl h]
    rfl
  | case4 part hamp' hbar' =>
    have hother {c : Char} (hc : ∀ rest, part = c :: rest → False) : part.head? ≠ some c := by
      intro hhead
      obtain ⟨rest, hrest⟩ := List.head?_eq_some_iff.1 hhead
      exact hc rest hrest
    rw [readClausesAt, if_neg (mt hamp.1 (hother hamp')), if_neg (mt hbar.1 (hother hbar'))]
    rfl

/-! ## Segments -/

/-- Reads the segment at the beginning of a path, and gives the offset behind the bar after it, if
there is one. -/
def readAt (path : Text) : Checked (Segment × Option Nat) := do
  let (name, pos) ← compileAt path 0 false
  let (clauses, next) ← readClausesAt path pos
  return ({ name, clauses }, next)

/-- **A segment is read without reaching outside of the path.** -/
theorem readAt_eq_done (path : Text) : readAt path = .done ((read path).map (placed? path)) := by
  have hname := compileAt_place (List.suffix_refl path) false
  rw [Text.place_self] at hname
  unfold readAt read
  rw [hname]
  cases hcompile : compile path path false with
  | error e => rfl
  | ok name =>
    have hrest : name.rest <:+ path := suffix_of_compile hcompile
    simp only [Except.map, Compiled.placed, Checked.done_ok_bind]
    rw [readClausesAt_eq_done hrest]
    cases readClauses path name.rest <;> rfl

/-- What follows the bar after the clauses is a final piece of the text that they were read from. -/
theorem suffix_of_readClauses {text part next : Text} {clauses : List (Text × Pattern)}
    (h : readClauses text part = .ok (clauses, some next)) : next <:+ part := by
  fun_induction readClauses text part generalizing clauses with
  | case1 => cases h
  | case2 part clause rest hclause _ ih =>
    obtain ⟨⟨clauses', next'⟩, hc, he⟩ := map_eq_ok_iff.1 h
    obtain ⟨-, rfl⟩ := Prod.mk.inj he
    exact (ih hc).trans ((suffix_of_readClause hclause).trans (List.suffix_cons ..))
  | case3 =>
    cases h
    exact List.suffix_cons ..
  | case4 => cases h

theorem suffix_of_read {path next : Text} {segment : Segment}
    (h : read path = .ok (segment, some next)) : next <:+ path := by
  unfold read at h
  split at h
  · cases h
  · next name hname =>
    obtain ⟨⟨clauses, next'⟩, hc, he⟩ := map_eq_ok_iff.1 h
    obtain ⟨-, rfl⟩ := Prod.mk.inj he
    exact (suffix_of_readClauses hc).trans (suffix_of_compile hname)

/-- The piece from the offset behind the bar on is what follows the segment. -/
theorem exists_of_readAt {path : Text} {segment : Segment} {rest : Nat}
    (h : readAt path = .done (.ok (segment, some rest))) :
    ∃ next, read path = .ok (segment, some next) ∧ path.sliceFrom? rest = some next := by
  rw [readAt_eq_done] at h
  obtain ⟨⟨segment', next?⟩, hread, he⟩ := map_eq_ok_iff.1 (Option.some.inj h)
  obtain ⟨rfl, hrest⟩ := Prod.mk.inj he
  obtain ⟨next, rfl, rfl⟩ := Option.map_eq_some_iff.1 hrest
  exact ⟨next, hread, Text.sliceFrom?_place (suffix_of_read hread)⟩

end Segment

namespace Plan

/-- The line that filters the roots themselves: the dot is cut off, and a star stands for it. -/
def starred (t : Text) : Option Text := (t.sliceFrom? 1).map ('*' :: ·)

theorem starred_cons (rest : Text) : starred ('.' :: rest) = some ('*' :: rest) := by
  have hcut : Text.sliceFrom? ('.' :: rest) 1 = some rest := Text.sliceFrom?_append ['.'] rest
  rw [starred, hcut]
  rfl

mutual

/-- Reads a line, as `read` does. -/
def readAt (distinct : Bool) (t : Text) : Option Plan :=
  match t with
  | ['*', '*'] => (readAt true ['.']).map (.step .descend)
  | '*' :: '*' :: '|' :: rest => (readAt true rest).map (.step .descend)
  | ['.', '.'] => (readAt false ['.']).map (.step .climb)
  | '.' :: '.' :: '|' :: rest => (readAt false rest).map (.step .climb)
  | '.' :: '#' :: rest =>
    have := length_cutOperand_le rest
    let operand := cutOperand rest
    match bounds? operand.1 with
    | some (least, greatest) => (readAt false operand.2).map (.step (.select least greatest))
    | none => some (.stop (.malformed t 2 (.index operand.1)))
  | '.' :: '!' :: rest =>
    have := length_cutOperand_le rest
    let operand := cutOperand rest
    (readAt false operand.2).map (.step (sortStep operand.1))
  | '.' :: rest =>
    if endsName rest then
      match h : starred ('.' :: rest) with
      | none => none
      | some filter =>
        have : filter = '*' :: rest := Option.some.inj (h.symm.trans (starred_cons rest))
        (readFilterAt distinct filter).map (.step .singleton)
    else readFilterAt distinct ('.' :: rest)
  | t => readFilterAt distinct t
termination_by 2 * t.length + 1
decreasing_by all_goals grind

/-- Reads a line that begins with a filter, and cuts it behind the bar after the filter. -/
def readFilterAt (distinct : Bool) (t : Text) : Option Plan :=
  match h : (Segment.readAt t).run with
  | none => none
  | some (.error e) => some (.stop e)
  | some (.ok (segment, none)) => some (.last distinct segment)
  | some (.ok (segment, some rest)) =>
    match hnext : t.sliceFrom? rest with
    | none => none
    | some next =>
      have : next.length < t.length := by
        obtain ⟨next', hread, hslice⟩ := Segment.exists_of_readAt h
        obtain rfl := Option.some.inj (hslice.symm.trans hnext)
        exact Segment.length_lt_of_read hread
      (readAt false next).map (.step (.filter distinct segment))
termination_by 2 * t.length

end

section Steps

variable {distinct : Bool} {t next : Text} {segment : Segment} {e : Error}

/-- A line that begins with a filter goes on where the segment says. -/
theorem readFilterAt_eq (distinct : Bool) (t : Text) :
    readFilterAt distinct t =
      match (Segment.readAt t).run with
      | none => none
      | some (.error e) => some (.stop e)
      | some (.ok (segment, none)) => some (.last distinct segment)
      | some (.ok (segment, some rest)) =>
        (t.sliceFrom? rest).bind fun next =>
          (readAt false next).map (.step (.filter distinct segment)) := by
  rw [readFilterAt]
  split
  · next h => rw [h]
  · next h => rw [h]
  · next h => rw [h]
  · next h =>
    split
    · next hnext => simp only [h, hnext, Option.bind_none]
    · next hnext => simp only [h, hnext, Option.bind_some]

theorem readFilterAt_stop (h : Segment.read t = .error e) :
    readFilterAt distinct t = some (.stop e) := by
  rw [readFilterAt_eq, Segment.readAt_eq_done, h]
  rfl

theorem readFilterAt_last (h : Segment.read t = .ok (segment, none)) :
    readFilterAt distinct t = some (.last distinct segment) := by
  rw [readFilterAt_eq, Segment.readAt_eq_done, h]
  rfl

theorem readFilterAt_step (h : Segment.read t = .ok (segment, some next)) :
    readFilterAt distinct t = (readAt false next).map (.step (.filter distinct segment)) := by
  have hcut := Text.sliceFrom?_place (Segment.suffix_of_read h)
  rw [readFilterAt_eq, Segment.readAt_eq_done, h]
  show (t.sliceFrom? (t.place next)).bind _ = _
  rw [hcut]
  rfl

end Steps

/-- **A line is read without reaching outside.** -/
theorem readAt_eq_some (distinct : Bool) (t : Text) : readAt distinct t = some (read distinct t) := by
  -- The second statement is about lines that begin with a filter.
  induction distinct, t using Plan.read.induct _
    (fun distinct t => readFilterAt distinct t = some (readFilter distinct t)) with
  | case1 distinct ih | case2 distinct rest ih | case3 distinct ih | case4 distinct rest ih =>
    rw [readAt, read, ih]
    rfl
  | case5 distinct rest _ operand least greatest hbounds ih =>
    have hbounds : bounds? (cutOperand rest).1 = some (least, greatest) := hbounds
    have ih : readAt false (cutOperand rest).2 = some (read false (cutOperand rest).2) := ih
    rw [readAt, read]
    simp only [hbounds, ih, Option.map_some]
  | case6 distinct rest _ operand hbounds =>
    have hbounds : bounds? (cutOperand rest).1 = none := hbounds
    rw [readAt, read]
    simp only [hbounds]
  | case7 distinct rest _ operand ih =>
    rw [readAt, read, ih]
    rfl
  | case8 distinct rest _ _ _ _ hend ih =>
    rw [readAt, read, if_pos hend, if_pos hend]
    · split
      · next h => cases h.symm.trans (starred_cons rest)
      · next h =>
        cases h.symm.trans (starred_cons rest)
        rw [ih]
        rfl
    all_goals assumption
  | case9 distinct rest _ _ _ _ hend ih =>
    rw [readAt, read, if_neg hend, if_neg hend]
    all_goals assumption
  | case10 distinct t =>
    rw [readAt, read]
    all_goals assumption
  | case11 distinct t e h => rw [readFilterAt_stop h, readFilter_stop distinct h]
  | case12 distinct t segment h => rw [readFilterAt_last h, readFilter_last distinct h]
  | case13 distinct t segment next h _ ih =>
    rw [readFilterAt_step h, ih, readFilter_step distinct h]
    rfl

end Plan

end TreeQuery.Path
