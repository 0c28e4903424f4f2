import TreeQuery.Proofs.Path.Lines
import TreeQuery.Proofs.Path.Opening
import TreeQuery.Proofs.Pattern.Literal

/-!
# Quoted names as paths

Quoting escapes what means something in a pattern. A path knows more: line breaks, and dots at the
beginning of a line. So a quoted name finds the nodes of that name exactly when the name has no line
break and does not begin like an operator (`evaluate_quote_iff`).

For a name that quoting does not protect, the smallest forest is enough: one node of that name below
a detached root. Reading the quoted name never leads to the node, because an operator leaves the root
as it is or drops it, and what is left of the name after an operator is too short to be the name of
the node (`found_eq_nil_of_run_quote`).
-/

namespace TreeQuery

open Pattern (quote isSpecial literal endsPattern)

/-- Texts that mean themselves as a path once they are quoted: they have no line break and do not
begin like an operator. -/
def IsLiteral (v : Text) : Prop :=
  OneLine v ∧ v ≠ ['.'] ∧ v ≠ ['.', '.'] ∧ ¬['.', '#'] <+: v ∧ ¬['.', '!'] <+: v

instance (v : Text) : Decidable (IsLiteral v) := inferInstanceAs (Decidable (_ ∧ _))

/-! ## Quoted texts -/

theorem Pattern.quote_cons_of_special {c : Char} (h : isSpecial c = true) (v : Text) :
    quote (c :: v) = '^' :: c :: quote v := by
  rw [quote, if_pos h]

theorem Pattern.quote_cons_of_not_special {c : Char} (h : isSpecial c = false) (v : Text) :
    quote (c :: v) = c :: quote v := by
  rw [quote, if_neg (by simp [h])]

/-- A character without meaning at the beginning of a quoted text stands for itself. -/
theorem Pattern.exists_of_quote_eq_cons {c : Char} {v t : Text} (hc : c ≠ '^')
    (h : quote v = c :: t) : ∃ w, v = c :: w ∧ quote w = t ∧ isSpecial c = false := by
  cases v with
  | nil => cases h
  | cons d v =>
    by_cases hd : isSpecial d = true
    · rw [quote_cons_of_special hd] at h
      exact absurd (List.cons.inj h).1 (Ne.symm hc)
    · rw [Bool.not_eq_true] at hd
      rw [quote_cons_of_not_special hd] at h
      obtain ⟨rfl, rfl⟩ := List.cons.inj h
      exact ⟨v, rfl, rfl, hd⟩

/-- What follows the first bar of a quoted text is a shorter quoted text. -/
theorem Pattern.exists_of_quote_eq_append_bar {v operand rest : Text} (hn : '|' ∉ operand)
    (h : quote v = operand ++ '|' :: rest) : ∃ w, rest = quote w ∧ w.length < v.length := by
  induction v generalizing operand with
  | nil => cases operand <;> cases h
  | cons c v ih =>
    -- cutting off the first character of the operand at a time
    have step {s : Text} (h : quote v = s ++ '|' :: rest) (hn : '|' ∉ s) :
        ∃ w, rest = quote w ∧ w.length < (c :: v).length := by
      obtain ⟨w, hw, hl⟩ := ih hn h
      exact ⟨w, hw, Nat.lt_succ_of_lt hl⟩
    by_cases hc : isSpecial c = true
    · rw [quote_cons_of_special hc] at h
      match operand with
      | [] => cases (List.cons.inj h).1
      | [_] =>
        obtain ⟨-, rfl⟩ := List.cons.inj (List.cons.inj h).2
        exact ⟨v, rfl, Nat.lt_succ_self _⟩
      | _ :: _ :: s =>
        exact step (List.cons.inj (List.cons.inj h).2).2 fun hs => hn (by simp [hs])
    · rw [Bool.not_eq_true] at hc
      rw [quote_cons_of_not_special hc] at h
      cases operand with
      | nil =>
        rw [(List.cons.inj h).1] at hc
        cases hc
      | cons _ s => exact step (List.cons.inj h).2 fun hs => hn (List.mem_cons_of_mem _ hs)

open TreeQuery.Path (isLineBreak)

/-- No character that breaks a line has a meaning in a pattern. -/
theorem Pattern.isSpecial_of_isLineBreak {c : Char} (h : isLineBreak c = true) :
    isSpecial c = false := by
  simp only [isLineBreak, Bool.or_eq_true, decide_eq_true_eq] at h
  rcases h with rfl | rfl <;> rfl

/-- Quoting leaves line breaks where they are. -/
theorem Pattern.splitBy_quote (v : Text) :
    Text.splitBy isLineBreak (quote v) = (Text.splitBy isLineBreak v).map quote := by
  induction v with
  | nil => rfl
  | cons c v ih =>
    by_cases hb : isLineBreak c = true
    · rw [quote_cons_of_not_special (isSpecial_of_isLineBreak hb), Text.splitBy, if_pos hb,
        Text.splitBy, if_pos hb, ih]
      rfl
    · obtain ⟨first, pieces, hv⟩ := List.exists_cons_of_ne_nil (Text.splitBy_ne_nil isLineBreak v)
      rw [hv, List.map_cons] at ih
      have hcv : Text.splitBy isLineBreak (c :: v) = (c :: first) :: pieces := by
        rw [Text.splitBy, if_neg hb, hv]
      rw [hcv, List.map_cons]
      by_cases hc : isSpecial c = true
      · rw [quote_cons_of_special hc, quote_cons_of_special hc, Text.splitBy, if_neg (by decide),
          Text.splitBy, if_neg hb, ih]
      · rw [Bool.not_eq_true] at hc
        rw [quote_cons_of_not_special hc, quote_cons_of_not_special hc, Text.splitBy, if_neg hb, ih]

theorem Pattern.oneLine_quote_iff {v : Text} : OneLine (quote v) ↔ OneLine v := by
  induction v with
  | nil => exact Iff.rfl
  | cons c v ih =>
    by_cases hc : isSpecial c = true
    · rw [quote_cons_of_special hc, oneLine_cons_iff, oneLine_cons_iff, oneLine_cons_iff, ih]
      exact and_iff_right (by decide)
    · rw [Bool.not_eq_true] at hc
      rw [quote_cons_of_not_special hc, oneLine_cons_iff, oneLine_cons_iff, ih]

namespace Path

variable {forest : Forest}

/-! ## Names without a meaning of their own -/

namespace Plan

theorem opening_cons_of_ne {c : Char} (hs : c ≠ '*') (hd : c ≠ '.') (t : Text) :
    opening (c :: t) = .filter := by
  rw [opening] <;> simp_all

theorem endsName_cons_of_ne {c : Char} (hb : c ≠ '|') (ha : c ≠ '&') (t : Text) :
    endsName (c :: t) = false := by
  rw [endsName] <;> simp_all

theorem opening_dot_of_ne {c : Char} (hd : c ≠ '.') (hn : c ≠ '#') (hx : c ≠ '!') (hb : c ≠ '|')
    (ha : c ≠ '&') (t : Text) : opening ('.' :: c :: t) = .filter := by
  rw [opening, endsName_cons_of_ne hb ha] <;> simp_all

theorem opening_dots_of_ne {c : Char} (hc : c ≠ '|') (t : Text) :
    opening ('.' :: '.' :: c :: t) = .filter := by
  rw [opening, endsName_cons_of_ne] <;> simp_all

/-- A quoted text begins with the caret or with a character that has no meaning in a pattern. -/
theorem exists_of_quote_cons (c : Char) (v : Text) :
    ∃ d t, quote (c :: v) = d :: t ∧ d ≠ '*' ∧ d ≠ '|' ∧ d ≠ '&' ∧ (d = c ∨ d = '^') := by
  by_cases hc : isSpecial c = true
  · exact ⟨'^', _, Pattern.quote_cons_of_special hc v, by decide, by decide, by decide, .inr rfl⟩
  · rw [Bool.not_eq_true] at hc
    refine ⟨c, _, Pattern.quote_cons_of_not_special hc v, ?_, ?_, ?_, .inl rfl⟩ <;>
      (rintro rfl; exact absurd hc (by decide))

/-- A quoted text that means itself begins with a filter, if a segment goes on or ends after it. -/
theorem opening_quote_append {v u : Text} (hv : IsLiteral v) (hu : endsPattern false u = true) :
    opening (quote v ++ u) = .filter := by
  obtain ⟨-, hself, hclimb, hselect, hsort⟩ := hv
  cases v with
  | nil =>
    cases u with
    | nil => rfl
    | cons c u =>
      have hc : c = '&' ∨ c = '|' := by simpa [endsPattern] using hu
      rcases hc with rfl | rfl <;> rfl
  | cons c v =>
    obtain ⟨d, t, hq, hstar, -, -, hdc⟩ := exists_of_quote_cons c v
    rw [hq, List.cons_append]
    by_cases hdot : d = '.'
    · -- after a dot it is the next character that decides
      obtain rfl : c = '.' := (hdc.resolve_right (by rw [hdot]; decide)).symm.trans hdot
      rw [Pattern.quote_cons_of_not_special (by decide)] at hq
      obtain ⟨rfl, rfl⟩ := List.cons.inj hq
      cases v with
      | nil => exact absurd rfl hself
      | cons e v =>
        obtain ⟨f, t, hq, -, hbar, hamp, hfe⟩ := exists_of_quote_cons e v
        rw [hq, List.cons_append]
        by_cases hdots : f = '.'
        · obtain rfl : e = '.' := (hfe.resolve_right (by rw [hdots]; decide)).symm.trans hdots
          rw [Pattern.quote_cons_of_not_special (by decide)] at hq
          obtain ⟨rfl, rfl⟩ := List.cons.inj hq
          cases v with
          | nil => exact absurd rfl hclimb
          | cons g v =>
            obtain ⟨h, t, hq, -, hbar, -⟩ := exists_of_quote_cons g v
            rw [hq, List.cons_append]
            exact opening_dots_of_ne hbar _
        · refine opening_dot_of_ne hdots ?_ ?_ hbar hamp _
          · rintro rfl
            exact hselect (by simp [← hfe.resolve_right (by decide)])
          · rintro rfl
            exact hsort (by simp [← hfe.resolve_right (by decide)])
    · exact opening_cons_of_ne hstar hdot _

/-- A line without an operator that is not protected would begin with it once it is quoted. -/
theorem isLiteral_of_opening_quote {v : Text} (hv : OneLine v) (h : opening (quote v) = .filter) :
    IsLiteral v := by
  refine ⟨hv, ?_, ?_, ?_, ?_⟩
  · rintro rfl
    cases h
  · rintro rfl
    cases h
  · rintro ⟨w, rfl⟩
    obtain ⟨bounds, rest, hw, hn⟩ := exists_operand (quote w)
    have hq : quote (['.', '#'] ++ w) = '.' :: '#' :: quote w := rfl
    rw [hq, hw, opening_select hn] at h
    cases h
  · rintro ⟨w, rfl⟩
    obtain ⟨key, rest, hw, hn⟩ := exists_operand (quote w)
    have hq : quote (['.', '!'] ++ w) = '.' :: '!' :: quote w := rfl
    rw [hq, hw, opening_sort hn] at h
    cases h

end Plan

/-- The segment that a quoted name is read as. -/
theorem Segment.spelled_quote (v : Text) : Spelled (quote v) { name := literal v } :=
  ⟨quote v, [], (List.append_nil _).symm, Pattern.spells_quote v, .nil⟩

theorem Segment.spelled_star : Spelled ['*'] { name := Pattern.lone } :=
  ⟨['*'], [], rfl, Pattern.spells_star false, .nil⟩

/-- A star accepts every node. -/
theorem Segment.accepts_lone (node : Node) :
    Segment.accepts forest { name := Pattern.lone } node = true := by
  show (Pattern.lone.isMatch (forest.name node) && true) = true
  rw [Pattern.isMatch_lone]
  rfl

/-- A line that is a filter as a whole finds the children that the filter accepts. -/
theorem run_of_spelled (fuel : Fuel) {s : Text} {segment : Segment} (ho : Plan.opening s = .filter)
    (hs : Segment.Spelled s segment) (roots : List Root) :
    (Plan.read false s).run forest fuel roots = .ok (filter forest false segment roots, fuel) := by
  rw [Plan.read_filter false ho, Plan.readFilter_last false (Segment.read_of_spelled hs)]
  rfl

theorem evaluate_of_spelled (fuel : Fuel) {s : Text} {segment : Segment} (hl : OneLine s)
    (ho : Plan.opening s = .filter) (hs : Segment.Spelled s segment) (roots : List Root) :
    evaluate forest fuel s roots = .ok (filter forest false segment roots) := by
  rw [evaluate_of_oneLine forest fuel hl, run_of_spelled fuel ho hs]
  rfl

theorem filter_literal (v : Text) (roots : List Root) :
    filter forest false { name := literal v } roots =
      (roots.flatMap (·.children forest)).filter fun n => decide (forest.name n = v) := by
  refine List.filter_congr fun n _ => ?_
  show ((literal v).isMatch (forest.name n) && true) = _
  rw [Bool.and_true, Pattern.isMatch_literal]

/-- A quoted name that means itself finds the children of that name. -/
theorem evaluate_quote_of_isLiteral (fuel : Fuel) {v : Text} (hv : IsLiteral v)
    (roots : List Root) :
    evaluate forest fuel (quote v) roots =
      .ok ((roots.flatMap (·.children forest)).filter fun n => decide (forest.name n = v)) := by
  have ho := Plan.opening_quote_append hv (u := []) rfl
  rw [List.append_nil] at ho
  rw [evaluate_of_spelled fuel (Pattern.oneLine_quote_iff.2 hv.1) ho (Segment.spelled_quote v)]
  rw [filter_literal]

/-! ## Names that quoting does not protect -/

namespace Plan

/-- From no root one finds nothing. -/
theorem found_eq_nil_of_run_nil {p : Plan} {fuel : Fuel} {found : List Node × Fuel}
    (h : p.run forest fuel [] = .ok found) : found.1 = [] := by
  induction p generalizing fuel with
  | stop e => cases h
  | last distinct segment =>
    obtain rfl := Except.ok.inj h
    cases distinct <;> rfl
  | step s next ih =>
    obtain ⟨⟨roots, fuel'⟩, hm, h⟩ := Pattern.bind_eq_ok_iff.1 h
    have hr : roots = [] := by
      cases s with
      | descend | climb | singleton =>
        obtain ⟨rfl, -⟩ := Prod.mk.inj (Except.ok.inj hm)
        rfl
      | select least greatest =>
        obtain ⟨rfl, -⟩ := Prod.mk.inj (Except.ok.inj hm)
        exact List.take_eq_nil_of_eq_nil List.drop_nil
      | sort descending param =>
        obtain ⟨rfl, -⟩ := Prod.mk.inj (Except.ok.inj hm)
        cases descending <;> exact List.mergeSort_nil
      | filter distinct segment =>
        obtain ⟨rfl, -⟩ := Prod.mk.inj (Except.ok.inj hm)
        cases distinct <;> rfl
    rw [hr] at h
    exact ih h

/-- From roots without children a filter finds nothing, and nothing is found after it. -/
theorem found_eq_nil_of_run_readFilter {t : Text} {distinct : Bool} {fuel : Fuel}
    {roots : List Root} {found : List Node × Fuel}
    (hr : roots.flatMap (·.children forest) = [])
    (h : (readFilter distinct t).run forest fuel roots = .ok found) : found.1 = [] := by
  have hfilter (segment : Segment) : filter forest distinct segment roots = [] := by
    unfold filter
    rw [hr]
    cases distinct <;> rfl
  cases hread : Segment.read t with
  | error e =>
    rw [readFilter_stop distinct hread] at h
    cases h
  | ok r =>
    obtain ⟨segment, next⟩ := r
    cases next with
    | none =>
      rw [readFilter_last distinct hread] at h
      obtain rfl := Except.ok.inj h
      exact hfilter segment
    | some next =>
      rw [readFilter_step distinct hread] at h
      have h : (read false next).run forest fuel ((filter forest distinct segment roots).map .node) =
        .ok found := h
      rw [hfilter] at h
      exact found_eq_nil_of_run_nil h

theorem select_singleton {α : Type} (least greatest : Int) (a : α) :
    select least greatest [a] = [a] := by
  have hplace (i : Int) : clamp 1 i = 0 := by
    unfold clamp
    omega
  unfold select
  simp [hplace]

theorem sort_singleton (descending : Bool) (param : Text) (root : Root) :
    sort forest descending param [root] = [root] := by
  cases descending <;> exact List.mergeSort_singleton root

theorem exists_sortStep (key : Text) : ∃ descending param, sortStep key = .sort descending param := by
  unfold sortStep
  split
  · exact ⟨true, _, rfl⟩
  · exact ⟨false, _, rfl⟩

/-- The rest of a quoted text after the operand of an operator is a quoted text again. -/
theorem exists_of_quote_eq_append_tail {v operand : Text} {rest : Option Text}
    (hn : '|' ∉ operand) (h : quote v = operand ++ tail rest) :
    ∃ w, restOf rest = quote w ∧ w.length < v.length + 2 := by
  cases rest with
  | none => exact ⟨['.'], rfl, by simp⟩
  | some rest =>
    obtain ⟨w, hw, hl⟩ := Pattern.exists_of_quote_eq_append_bar hn h
    exact ⟨w, hw, Nat.lt_add_right 2 hl⟩

/-- A quoted text does not lead from a detached root to its only child, if it is shorter than the
name of the child or begins with an operator. -/
theorem found_eq_nil_of_run_quote {node : Node} {v : Text} {distinct : Bool} {fuel : Fuel}
    {found : List Node × Fuel} (hl : v.length ≤ (forest.name node).length)
    (hv : opening (quote v) = .filter → v ≠ forest.name node)
    (h : (read distinct (quote v)).run forest fuel [.detached [node]] = .ok found) :
    found.1 = [] := by
  induction hn : v.length using Nat.strongRecOn generalizing v distinct fuel with
  | ind n ih =>
    subst hn
    -- an operator that leaves the root as it is goes on with a shorter quoted text
    have after {w operand : Text} {rest : Option Text} (hw : v.length = w.length + 2)
        (hn : '|' ∉ operand) (hq : quote w = operand ++ tail rest)
        (h : (read false (restOf rest)).run forest fuel [.detached [node]] = .ok found) :
        found.1 = [] := by
      obtain ⟨u, hu, hlu⟩ := exists_of_quote_eq_append_tail hn hq
      rw [hu] at h
      have hlt : u.length < (forest.name node).length := by omega
      exact ih u.length (by omega) (by omega) (fun _ he => by simp [he] at hlt) h rfl
    -- quoting leaves no star in front, and no path of two dots finds a parent of a detached root
    rcases opening_cases (quote v) with
      ⟨rest, hq⟩ | ⟨rest, hq⟩ | ⟨bounds, rest, hq, hn⟩ | ⟨key, rest, hq, hn⟩ | ⟨rest, hq, he⟩ | ho
    · obtain ⟨_, -, -, hs⟩ := Pattern.exists_of_quote_eq_cons (by decide) hq
      exact absurd hs (by decide)
    · rw [hq, read_climb] at h
      exact found_eq_nil_of_run_nil h
    · obtain ⟨_, rfl, hq', -⟩ := Pattern.exists_of_quote_eq_cons (by decide) hq
      obtain ⟨w, rfl, hw, -⟩ := Pattern.exists_of_quote_eq_cons (by decide) hq'
      rw [hq, read_select distinct rest hn] at h
      split at h
      · next least greatest _ =>
        have h : (read false (restOf rest)).run forest fuel
          (select least greatest [.detached [node]]) = .ok found := h
        rw [select_singleton] at h
        exact after rfl hn hw h
      · cases h
    · obtain ⟨_, rfl, hq', -⟩ := Pattern.exists_of_quote_eq_cons (by decide) hq
      obtain ⟨w, rfl, hw, -⟩ := Pattern.exists_of_quote_eq_cons (by decide) hq'
      obtain ⟨descending, param, hs⟩ := exists_sortStep key
      rw [hq, read_sort distinct rest hn, hs] at h
      have h : (read false (restOf rest)).run forest fuel
        (sort forest descending param [.detached [node]]) = .ok found := h
      rw [sort_singleton] at h
      exact after rfl hn hw h
    · rw [hq, read_self distinct he] at h
      have hroots : [Root.detached []].flatMap (·.children forest) = [] := rfl
      exact found_eq_nil_of_run_readFilter hroots h
    · rw [read_filter distinct ho, readFilter_last distinct
        (Segment.read_of_spelled (Segment.spelled_quote v))] at h
      obtain rfl := Except.ok.inj h
      have hnil : filter forest false { name := literal v } [.detached [node]] = [] := by
        rw [filter_literal]
        simp [Root.children, Ne.symm (hv ho)]
      cases distinct with
      | false => exact hnil
      | true => exact congrArg List.eraseDups hnil

end Plan

/-- A quoted name does not lead from a detached root to its only child, if the child is of that name
and the name does not mean itself. -/
theorem found_eq_nil_of_evaluate_quote {node : Node} {fuel : Fuel} {found : List Node}
    (hv : ¬IsLiteral (forest.name node))
    (h : evaluate forest fuel (quote (forest.name node)) [.detached [node]] = .ok found) :
    found = [] := by
  obtain ⟨result, hr, rfl⟩ := Pattern.map_eq_ok_iff.1 h
  refine found_eq_nil_of_followLines (fun line hl fuel found hf => ?_) hr
  -- each line is a quoted piece of the name, and is shorter than the name if there is another one
  by_cases ho : OneLine (forest.name node)
  · rw [lines_of_oneLine (Pattern.oneLine_quote_iff.2 ho)] at hl
    obtain rfl := List.mem_singleton.1 hl
    exact Plan.found_eq_nil_of_run_quote (Nat.le_refl _)
      (fun h => absurd (Plan.isLiteral_of_opening_quote ho h) hv) hf
  · rw [lines_of_not_oneLine (fun h => ho (Pattern.oneLine_quote_iff.1 h)), Pattern.splitBy_quote]
      at hl
    obtain ⟨piece, hp, rfl⟩ := List.mem_map.1 (List.mem_filter.1 hl).1
    have hlt := length_lt_of_mem_splitBy ho hp
    exact Plan.found_eq_nil_of_run_quote (Nat.le_of_lt hlt)
      (fun _ he => Nat.lt_irrefl _ (he ▸ hlt)) hf

/-! ## Which names a quoted name finds -/

/-- **A quoted name finds the nodes of that name exactly if it means itself.** -/
theorem evaluate_quote_iff (v : Text) :
    (∀ forest fuel roots, evaluate forest fuel (quote v) roots =
      .ok ((roots.flatMap (·.children forest)).filter fun n => decide (forest.name n = v))) ↔
      IsLiteral v := by
  constructor
  · intro h
    by_cases hv : IsLiteral v
    · exact hv
    -- one node of that name below a detached root is not found
    have he := h [Tree.build [.node v]] none [.detached [⟨0, 0⟩]]
    have hname : Forest.name [Tree.build [.node v]] ⟨0, 0⟩ = v := rfl
    have hnil := found_eq_nil_of_evaluate_quote (hname ▸ hv) (hname ▸ he)
    simp [Root.children, Forest.name, Forest.record?, Tree.build, Tree.edit, Tree.addNode,
      Tree.empty, Tree.record?] at hnil
  · exact fun hv forest fuel roots => evaluate_quote_of_isLiteral fuel hv roots

end Path

end TreeQuery
