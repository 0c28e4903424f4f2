import TreeQuery.Path.Segment
import TreeQuery.Proofs.Pattern.Grammar

/-!
# The grammar of filter segments

A filter segment is the text of a pattern followed by clauses, and each clause is the text of a key
and the text of a value around an equals sign. A segment is read up to the bar after it, or else up
to the end of the text (`Segment.read_eq_ok_iff`).
-/

namespace TreeQuery.Path

open Pattern (Spells compile_eq_ok_iff map_eq_ok_iff map_fst_eq_ok_iff endsPattern unquote)

/-- The bar after a segment with what follows it, if there is one. -/
def tail : Option Text → Text
  | none => []
  | some next => '|' :: next

namespace Segment

/-- The texts of clauses, with the tests that they spell. -/
inductive ClausesText : Text → List (Text × Pattern) → Prop
  | nil : ClausesText [] []
  | cons {k v s : Text} {key value : Pattern} {clauses : List (Text × Pattern)} :
    Spells true k key → Spells false v value → ClausesText s clauses →
      ClausesText ('&' :: (k ++ '=' :: (v ++ s))) ((unquote k, value) :: clauses)

/-- The test that a text spells as a whole. -/
def Spelled (s : Text) (segment : Segment) : Prop :=
  ∃ n rest, s = n ++ rest ∧ Spells false n segment.name ∧ ClausesText rest segment.clauses

/-! ## Clauses -/

theorem readClause_eq_ok_iff {text part rest : Text} {param : Text} {pattern : Pattern} :
    readClause text part = .ok ((param, pattern), rest) ↔
      ∃ k v key, part = k ++ '=' :: (v ++ rest) ∧ Spells true k key ∧ Spells false v pattern ∧
        param = unquote k ∧ endsPattern false rest = true := by
  unfold readClause
  constructor
  · intro h
    split at h
    · cases h
    · next key hkey =>
      obtain ⟨keyPattern, keyRest⟩ := key
      obtain ⟨k, rfl, hk, -⟩ := compile_eq_ok_iff.1 hkey
      split at h
      · next rest' hrest =>
        dsimp only at hrest
        obtain ⟨⟨value, valueRest⟩, hv, he⟩ := map_eq_ok_iff.1 h
        obtain ⟨hc, rfl⟩ := Prod.mk.inj he
        obtain ⟨hparam, rfl⟩ := Prod.mk.inj hc
        obtain ⟨v, rfl, hvs, hend⟩ := compile_eq_ok_iff.1 hv
        refine ⟨k, v, keyPattern, by rw [hrest], hk, hvs, ?_, hend⟩
        rw [← hparam, hk.source_eq]
      · cases h
  · rintro ⟨k, v, key, rfl, hk, hv, rfl, hend⟩
    rw [compile_eq_ok_iff.2 ⟨k, rfl, hk, by simp [endsPattern]⟩]
    show (Pattern.compile text (v ++ rest) false).map _ = _
    rw [compile_eq_ok_iff.2 ⟨v, rfl, hv, hend⟩, ← hk.source_eq]
    rfl

/-- Where the clauses of a segment go on, there is an ampersand, a bar or nothing. -/
theorem endsPattern_clausesText {s : Text} {clauses : List (Text × Pattern)}
    (h : ClausesText s clauses) (next : Option Text) :
    endsPattern false (s ++ tail next) = true := by
  cases h with
  | nil => cases next <;> rfl
  | cons => rfl

theorem readClauses_append {text s : Text} {clauses : List (Text × Pattern)} {next : Option Text}
    (h : ClausesText s clauses) : readClauses text (s ++ tail next) = .ok (clauses, next) := by
  induction h with
  | nil =>
    cases next with
    | none => rw [tail, List.append_nil, readClauses] <;> simp
    | some next => rw [tail, List.nil_append, readClauses]
  | cons hk hv hs ih =>
    have hc : readClause text (_ ++ '=' :: (_ ++ (_ ++ tail next))) = .ok ((unquote _, _), _) :=
      readClause_eq_ok_iff.2 ⟨_, _, _, rfl, hk, hv, rfl, endsPattern_clausesText hs next⟩
    rw [List.cons_append, List.append_assoc, List.cons_append, List.append_assoc, readClauses]
    split
    · simp_all
    · next clause rest hc' =>
      obtain ⟨rfl, rfl⟩ := Prod.mk.inj (Except.ok.inj (hc.symm.trans hc'))
      rw [ih]
      rfl

theorem clausesText_of_readClauses {text part : Text} {clauses : List (Text × Pattern)}
    {next : Option Text} (hp : endsPattern false part = true)
    (h : readClauses text part = .ok (clauses, next)) :
    ∃ s, part = s ++ tail next ∧ ClausesText s clauses := by
  fun_induction readClauses text part generalizing clauses with
  | case1 => cases h
  | case2 part clause rest hc _ ih =>
    obtain ⟨clauses', hr, rfl⟩ := map_fst_eq_ok_iff.1 h
    obtain ⟨param, pattern⟩ := clause
    obtain ⟨k, v, key, rfl, hk, hv, rfl, hend⟩ := readClause_eq_ok_iff.1 hc
    obtain ⟨s, rfl, hs⟩ := ih hend hr
    exact ⟨_, by simp, .cons hk hv hs⟩
  | case3 next' =>
    obtain ⟨rfl, rfl⟩ := Prod.mk.inj (Except.ok.inj h)
    exact ⟨[], rfl, .nil⟩
  | case4 part hamp hbar =>
    obtain ⟨rfl, rfl⟩ := Prod.mk.inj (Except.ok.inj h)
    cases part with
    | nil => exact ⟨[], rfl, .nil⟩
    | cons c part => simp_all [endsPattern]

/-! ## Segments -/

theorem read_append_tail {s : Text} {segment : Segment} (h : Spelled s segment)
    (next : Option Text) : read (s ++ tail next) = .ok (segment, next) := by
  obtain ⟨n, rest, rfl, hn, hs⟩ := h
  unfold read
  rw [List.append_assoc, compile_eq_ok_iff.2 ⟨n, rfl, hn, endsPattern_clausesText hs next⟩]
  dsimp only
  rw [readClauses_append hs]
  rfl

theorem read_of_spelled {s : Text} {segment : Segment} (h : Spelled s segment) :
    read s = .ok (segment, none) := by
  have := read_append_tail h none
  rwa [tail, List.append_nil] at this

/-- A segment is taken whole if a bar follows it. -/
theorem read_append_bar_of_spelled {s : Text} {segment : Segment} (h : Spelled s segment)
    (next : Text) : read (s ++ '|' :: next) = .ok (segment, some next) :=
  read_append_tail h (some next)

/-- **A segment is read up to the bar after it, or else up to the end of the text.** -/
theorem read_eq_ok_iff {t : Text} {segment : Segment} {next : Option Text} :
    read t = .ok (segment, next) ↔ ∃ s, t = s ++ tail next ∧ Spelled s segment := by
  constructor
  · intro h
    unfold read at h
    split at h
    · cases h
    · next name hname =>
      obtain ⟨pattern, rest⟩ := name
      obtain ⟨clauses, hc, rfl⟩ := map_fst_eq_ok_iff.1 h
      obtain ⟨n, rfl, hn, hend⟩ := compile_eq_ok_iff.1 hname
      obtain ⟨s, rfl, hs⟩ := clausesText_of_readClauses hend hc
      exact ⟨n ++ s, by simp, n, s, rfl, hn, hs⟩
  · rintro ⟨s, rfl, hs⟩
    exact read_append_tail hs next

end Segment

end TreeQuery.Path
