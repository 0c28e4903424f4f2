import Mathlib.Data.List.Forall2
import Mathlib.Logic.ExistsUnique
import TreeQuery.Proofs.Path.Grammar
import TreeQuery.Proofs.Pattern.Written

/-!
# The parts of filter segments

A filter segment can be taken apart in one way only: into the text of a name, the texts of keys and
values, and what follows the bar (`Segment.read_parts`). Each part is a text that is a pattern as a
whole when it stands alone, and the segment tests with these patterns. A node passes or not whatever
the order of the clauses, and however often a clause is repeated.
-/

namespace TreeQuery.Pattern

/-! ## Patterns that stand alone -/

/-- A text that is a pattern as a whole, when it stands alone. -/
def IsWhole (stopAtEquals : Bool) (t : Text) (p : Pattern) : Prop :=
  compile t t stopAtEquals = .ok ⟨p, []⟩

theorem isWhole_iff_spells {stop : Bool} {t : Text} {p : Pattern} :
    IsWhole stop t p ↔ Spells stop t p := by
  rw [IsWhole, compile_eq_ok_iff]
  constructor
  · rintro ⟨s, hs, hp, -⟩
    rwa [hs, List.append_nil]
  · intro hp
    exact ⟨t, (List.append_nil t).symm, hp, rfl⟩

/-- Without verbatim groups, a text is a pattern as soon as it spells items. -/
theorem exists_isWhole_of_patternText {stop : Bool} {t : Text} {items : List Item}
    (ht : PatternText stop t items) (hi : hasGroup items = false) :
    ∃ p, IsWhole stop t p :=
  ⟨⟨t, wholeExpr items, rangesOf items⟩,
    isWhole_iff_spells.2 ⟨items, ht, exprOfItems_eq hi, rfl⟩⟩

theorem IsWhole.unique {stop : Bool} {t : Text} {p p' : Pattern} (h : IsWhole stop t p)
    (h' : IsWhole stop t p') : p = p' :=
  (Compiled.mk.inj (Except.ok.inj (h.symm.trans h'))).1

/-- A text that is a pattern as a whole is cut off where the pattern ends. -/
theorem IsWhole.append_inj {stop : Bool} {s s' rest rest' : Text} {p p' : Pattern}
    (h : s ++ rest = s' ++ rest') (hs : IsWhole stop s p) (hs' : IsWhole stop s' p')
    (hr : endsPattern stop rest = true) (hr' : endsPattern stop rest' = true) :
    s = s' ∧ rest = rest' :=
  Spells.append_inj h (isWhole_iff_spells.1 hs) (isWhole_iff_spells.1 hs') hr hr'

end TreeQuery.Pattern

namespace TreeQuery.Path

open Pattern (IsWhole endsPattern exists_isWhole_of_patternText isWhole_iff_spells unquote)

namespace Segment

/-! ## Parts -/

/-- The texts that a filter segment is put together from. -/
structure Parts where
  name : Text
  /-- Texts of keys with texts of values. -/
  clauses : List (Text × Text) := []

/-- A clause as it is written. -/
def clauseText (clause : Text × Text) : Text := '&' :: (clause.1 ++ '=' :: clause.2)

/-- Clauses as they are written, one behind the other. -/
def clausesText (clauses : List (Text × Text)) : Text := clauses.flatMap clauseText

/-- The key and the value of a clause are patterns as they stand. An equals sign ends a key. -/
def IsClause (clause : Text × Text) : Prop :=
  (∃ key, IsWhole true clause.1 key) ∧ ∃ value, IsWhole false clause.2 value

namespace Parts

/-- The segment as it is written. -/
def text (parts : Parts) : Text := parts.name ++ clausesText parts.clauses

/-- Each part is a pattern as it stands. -/
structure Accepted (parts : Parts) : Prop where
  name : ∃ name, IsWhole false parts.name name
  clauses : ∀ clause ∈ parts.clauses, IsClause clause

/-- A node passes by the parts: the pattern for the name matches its name, and each pattern for a
value matches the parameter that the key spells. -/
structure Passed (parts : Parts) (forest : Forest) (node : Node) : Prop where
  name : ∃ name, IsWhole false parts.name name ∧ name.isMatch (forest.name node) = true
  clauses : ∀ clause ∈ parts.clauses, ∃ value, IsWhole false clause.2 value ∧
    value.isMatch (forest.parameter node (unquote clause.1)) = true

/-- Neither order nor repetition of the clauses has a say in what passes. -/
theorem passed_congr {parts parts' : Parts} {forest : Forest} {node : Node}
    (hn : parts.name = parts'.name) (hc : ∀ clause, clause ∈ parts.clauses ↔ clause ∈ parts'.clauses) :
    parts.Passed forest node ↔ parts'.Passed forest node := by
  constructor
  · rintro ⟨hname, hclauses⟩
    exact ⟨hn ▸ hname, fun clause h => hclauses clause ((hc clause).2 h)⟩
  · rintro ⟨hname, hclauses⟩
    exact ⟨hn ▸ hname, fun clause h => hclauses clause ((hc clause).1 h)⟩

end Parts

@[simp] theorem clausesText_nil : clausesText [] = [] := rfl

theorem clausesText_cons (k v : Text) (clauses : List (Text × Text)) :
    clausesText ((k, v) :: clauses) = '&' :: (k ++ '=' :: (v ++ clausesText clauses)) := by
  simp [clausesText, clauseText]

/-! ## From parts to the segment -/

/-- A test that the key and the value of a clause spell. -/
structure Tests (clause : Text × Text) (test : Text × Pattern) : Prop where
  param_eq : test.1 = unquote clause.1
  value : IsWhole false clause.2 test.2

theorem exists_clausesText {clauses : List (Text × Text)} (h : ∀ clause ∈ clauses, IsClause clause) :
    ∃ tests, ClausesText (clausesText clauses) tests ∧ List.Forall₂ Tests clauses tests := by
  induction clauses with
  | nil => exact ⟨[], .nil, .nil⟩
  | cons clause clauses ih =>
    obtain ⟨k, v⟩ := clause
    obtain ⟨⟨⟨key, hk⟩, value, hv⟩, hrest⟩ := List.forall_mem_cons.1 h
    obtain ⟨tests, htext, htests⟩ := ih hrest
    refine ⟨(unquote k, value) :: tests, ?_, .cons ⟨rfl, hv⟩ htests⟩
    rw [clausesText_cons]
    exact .cons (isWhole_iff_spells.1 hk) (isWhole_iff_spells.1 hv) htext

theorem all_isMatch_iff {clauses : List (Text × Text)} {tests : List (Text × Pattern)}
    {forest : Forest} {node : Node} (h : List.Forall₂ Tests clauses tests) :
    (tests.all fun (param, pattern) => pattern.isMatch (forest.parameter node param)) = true ↔
      ∀ clause ∈ clauses, ∃ value, IsWhole false clause.2 value ∧
        value.isMatch (forest.parameter node (unquote clause.1)) = true := by
  induction h with
  | nil => simp
  | cons ht _ ih =>
    rw [List.all_cons, Bool.and_eq_true, ih, List.forall_mem_cons, ← ht.param_eq]
    refine and_congr_left fun _ => ⟨fun hm => ⟨_, ht.value, hm⟩, ?_⟩
    rintro ⟨value, hv, hm⟩
    rwa [hv.unique ht.value] at hm

/-- Accepted parts spell a segment, and what passes it passes by the parts. -/
theorem Parts.Accepted.exists_spelled {parts : Parts} (h : parts.Accepted) :
    ∃ segment, Spelled parts.text segment ∧
      ∀ forest node, segment.accepts forest node = true ↔ parts.Passed forest node := by
  obtain ⟨name, hname⟩ := h.name
  obtain ⟨tests, htext, htests⟩ := exists_clausesText h.clauses
  refine ⟨⟨name, tests⟩, ⟨_, _, rfl, isWhole_iff_spells.1 hname, htext⟩, fun forest node => ?_⟩
  rw [accepts, Bool.and_eq_true, all_isMatch_iff htests]
  constructor
  · rintro ⟨hm, hclauses⟩
    exact ⟨⟨name, hname, hm⟩, hclauses⟩
  · rintro ⟨⟨name', hname', hm⟩, hclauses⟩
    exact ⟨hname.unique hname' ▸ hm, hclauses⟩

/-! ## From the segment to parts -/

theorem ClausesText.exists_clauses {s : Text} {tests : List (Text × Pattern)}
    (h : ClausesText s tests) :
    ∃ clauses, s = clausesText clauses ∧ ∀ clause ∈ clauses, IsClause clause := by
  induction h with
  | nil => exact ⟨[], rfl, by simp⟩
  | @cons k v _ key value _ hk hv _ ih =>
    obtain ⟨clauses, rfl, hclauses⟩ := ih
    exact ⟨(k, v) :: clauses, (clausesText_cons k v clauses).symm, List.forall_mem_cons.2
      ⟨⟨⟨key, isWhole_iff_spells.2 hk⟩, value, isWhole_iff_spells.2 hv⟩, hclauses⟩⟩

theorem Spelled.exists_parts {s : Text} {segment : Segment} (h : Spelled s segment) :
    ∃ parts : Parts, parts.Accepted ∧ s = parts.text := by
  obtain ⟨n, rest, rfl, hn, hrest⟩ := h
  obtain ⟨clauses, rfl, hclauses⟩ := hrest.exists_clauses
  exact ⟨⟨n, clauses⟩, ⟨⟨_, isWhole_iff_spells.2 hn⟩, hclauses⟩, rfl⟩

/-! ## One way only -/

theorem endsPattern_clauses (clauses : List (Text × Text)) (next : Option Text) :
    endsPattern false (clausesText clauses ++ tail next) = true := by
  cases clauses with
  | nil => cases next <;> rfl
  | cons clause clauses => rfl

theorem tail_injective : Function.Injective tail := by
  intro next next' h
  cases next <;> cases next' <;> simp_all [tail]

theorem tail_ne_cons_amp (next : Option Text) (s : Text) : tail next ≠ '&' :: s := by
  cases next <;> simp [tail]

theorem clausesText_append_inj {clauses clauses' : List (Text × Text)} {next next' : Option Text}
    (h : clausesText clauses ++ tail next = clausesText clauses' ++ tail next')
    (hc : ∀ clause ∈ clauses, IsClause clause) (hc' : ∀ clause ∈ clauses', IsClause clause) :
    clauses = clauses' ∧ next = next' := by
  induction clauses generalizing clauses' with
  | nil =>
    cases clauses' with
    | nil => exact ⟨rfl, tail_injective h⟩
    | cons clause' clauses' =>
      rw [clausesText_cons] at h
      exact absurd h (tail_ne_cons_amp next _)
  | cons clause clauses ih =>
    cases clauses' with
    | nil =>
      rw [clausesText_cons] at h
      exact absurd h.symm (tail_ne_cons_amp next' _)
    | cons clause' clauses' =>
      obtain ⟨k, v⟩ := clause
      obtain ⟨k', v'⟩ := clause'
      obtain ⟨⟨⟨key, hk⟩, value, hv⟩, hrest⟩ := List.forall_mem_cons.1 hc
      obtain ⟨⟨⟨key', hk'⟩, value', hv'⟩, hrest'⟩ := List.forall_mem_cons.1 hc'
      simp only [clausesText_cons, List.cons_append, List.append_assoc, List.cons.injEq,
        true_and] at h
      -- the key ends at the equals sign, and the value where the next clause or the bar begins
      obtain ⟨rfl, hvalue⟩ :=
        IsWhole.append_inj h hk hk' (by simp [endsPattern]) (by simp [endsPattern])
      obtain ⟨rfl, hnext⟩ := IsWhole.append_inj (List.cons.inj hvalue).2 hv hv'
        (endsPattern_clauses clauses next) (endsPattern_clauses clauses' next')
      obtain ⟨rfl, rfl⟩ := ih hnext hrest hrest'
      exact ⟨rfl, rfl⟩

/-- Accepted parts and what follows them can be told from the text that they make together. -/
theorem Parts.Accepted.append_inj {parts parts' : Parts} {next next' : Option Text}
    (h : parts.text ++ tail next = parts'.text ++ tail next') (hp : parts.Accepted)
    (hp' : parts'.Accepted) : parts = parts' ∧ next = next' := by
  obtain ⟨n, clauses⟩ := parts
  obtain ⟨n', clauses'⟩ := parts'
  obtain ⟨name, hname⟩ := hp.name
  obtain ⟨name', hname'⟩ := hp'.name
  simp only [Parts.text, List.append_assoc] at h
  obtain ⟨rfl, hclauses⟩ := IsWhole.append_inj h hname hname' (endsPattern_clauses clauses next)
    (endsPattern_clauses clauses' next')
  obtain ⟨rfl, rfl⟩ := clausesText_append_inj hclauses hp.clauses hp'.clauses
  exact ⟨rfl, rfl⟩

/-! ## Reading -/

/-- The offset in bytes at which the text after a bar begins, if there is a bar. -/
def nextOffset? (t : Text) (next : Option Text) : Option Nat :=
  next.map fun rest => t.byteLength - rest.byteLength

theorem nextOffset?_append_tail (s : Text) (next : Option Text) :
    nextOffset? (s ++ tail next) next = next.map fun _ => s.byteLength + 1 := by
  cases next with
  | none => rfl
  | some rest =>
    have hbar : ('|' : Char).utf8Size = 1 := rfl
    simp only [nextOffset?, tail, Option.map_some, Text.byteLength_append, Text.byteLength_cons, hbar]
    congr 1
    omega

/-- **Segments are read exactly from accepted parts**, each segment from one choice of parts. -/
theorem read_parts :
    (∀ (parts : Parts) (next : Option Text), parts.Accepted →
      ∃ segment, read (parts.text ++ tail next) = .ok (segment, next) ∧
        nextOffset? (parts.text ++ tail next) next =
          next.map (fun _ => parts.text.byteLength + 1) ∧
        ∀ forest node, segment.accepts forest node = true ↔ parts.Passed forest node) ∧
    (∀ (parts parts' : Parts) (segment segment' : Segment) (next next' : Option Text),
      parts.Accepted → parts'.Accepted → parts.name = parts'.name →
      (∀ clause, clause ∈ parts.clauses ↔ clause ∈ parts'.clauses) →
      read (parts.text ++ tail next) = .ok (segment, next) →
      read (parts'.text ++ tail next') = .ok (segment', next') →
      ∀ forest node, segment.accepts forest node = segment'.accepts forest node) ∧
    ∀ (t : Text) (segment : Segment) (next : Option Text), read t = .ok (segment, next) →
      ∃! split : Parts × Option Text, split.1.Accepted ∧ t = split.1.text ++ tail split.2 := by
  have hread : ∀ (parts : Parts) (next : Option Text), parts.Accepted →
      ∃ segment, read (parts.text ++ tail next) = .ok (segment, next) ∧
        ∀ forest node, segment.accepts forest node = true ↔ parts.Passed forest node := by
    intro parts next hp
    obtain ⟨segment, hs, ha⟩ := hp.exists_spelled
    exact ⟨segment, read_append_tail hs next, ha⟩
  refine ⟨fun parts next hp => ?_, ?_, fun t segment next h => ?_⟩
  · obtain ⟨segment, hs, ha⟩ := hread parts next hp
    exact ⟨segment, hs, nextOffset?_append_tail parts.text next, ha⟩
  · intro parts parts' segment segment' next next' hp hp' hn hc hs hs' forest node
    obtain ⟨_, hr, ha⟩ := hread parts next hp
    obtain ⟨_, hr', ha'⟩ := hread parts' next' hp'
    obtain ⟨rfl, -⟩ := Prod.mk.inj (Except.ok.inj (hs.symm.trans hr))
    obtain ⟨rfl, -⟩ := Prod.mk.inj (Except.ok.inj (hs'.symm.trans hr'))
    rw [Bool.eq_iff_iff, ha, ha', Parts.passed_congr hn hc]
  · obtain ⟨s, rfl, hs⟩ := read_eq_ok_iff.1 h
    obtain ⟨parts, hp, rfl⟩ := hs.exists_parts
    refine ⟨(parts, next), ⟨hp, rfl⟩, ?_⟩
    rintro ⟨parts', next'⟩ ⟨hp', h'⟩
    obtain ⟨rfl, rfl⟩ := hp.append_inj h' hp'
    rfl

/-- An escaped ampersand in a key, and an equals sign in a value. -/
theorem read_parts_of_escapes :
    ∃ parts : Parts, parts.Accepted ∧ parts.text ++ tail (some ['x']) = "w*&a^&b==|x".toList ∧
      (∃ segment, read "w*&a^&b==|x".toList = .ok (segment, some ['x']) ∧
        nextOffset? "w*&a^&b==|x".toList (some ['x']) = some 10) ∧
      ∃! split : Parts × Option Text,
        split.1.Accepted ∧ "w*&a^&b==|x".toList = split.1.text ++ tail split.2 := by
  have hname : ∃ p, IsWhole false ['w', '*'] p :=
    exists_isWhole_of_patternText (.plain rfl rfl (.star .nil)) rfl
  have hkey : ∃ p, IsWhole true ['a', '^', '&', 'b'] p :=
    exists_isWhole_of_patternText (.plain rfl rfl (.escape '&' (.plain rfl rfl .nil))) rfl
  have hvalue : ∃ p, IsWhole false ['='] p :=
    exists_isWhole_of_patternText (.plain rfl rfl .nil) rfl
  have hp : Parts.Accepted ⟨['w', '*'], [(['a', '^', '&', 'b'], ['='])]⟩ :=
    ⟨hname, List.forall_mem_singleton.2 ⟨hkey, hvalue⟩⟩
  obtain ⟨segment, hr, ho, -⟩ := read_parts.1 _ (some ['x']) hp
  exact ⟨_, hp, rfl, ⟨segment, hr, ho⟩, read_parts.2.2 _ segment _ hr⟩

end Segment

end TreeQuery.Path
