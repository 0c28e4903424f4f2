import TreeQuery.Proofs.Locator.Description
import TreeQuery.Proofs.Locator.Soundness
import TreeQuery.Proofs.Path.Keys

/-!
# When an expression is found

An expression ought to be found for each child that differs from all others in its name or in the
value of a candidate parameter that it has, and for no other child (`Complete`). It is so for children
whose description means what it says (`Plain`), by `complete_of_plain`.

The condition cannot be weakened for names, for keys or for values. For each text that it excludes
there is a forest of one or two nodes in which an expression is missed (`plain_of_complete`):

* a name that does not mean itself does not lead to its node;
* a value with a line break is cut there, so a node with the first piece for its value is found too;
* a key that does not mean itself is never asked for. Then it makes no difference which of two nodes
  of the same name has that parameter, and at most one of the two can be found.
-/

namespace TreeQuery.Locator

open TreeQuery.Path (evaluate lines Plan SameFor AskedIn evaluate_congr askedIn_of_mem_keys_read)
open Pattern (quote)

variable {forest : Forest}

/-! ## Completeness -/

/-- Whether a node has the name of the target and, for each candidate parameter that the target has,
its value. -/
def Agrees (forest : Forest) (params : List Text) (target other : Node) : Prop :=
  forest.name other = forest.name target ∧
    ∀ p ∈ params, forest.parameter target p ≠ [] →
      forest.parameter other p = forest.parameter target p

/-- Whether an expression for the target is found exactly if no other child agrees with it. -/
def Complete (forest : Forest) (params : List Text) (root : Root) (target : Node) : Prop :=
  ((∀ other ∈ (root.children forest).erase target, ¬Agrees forest params target other) →
    ∃ e, expression forest params root target = .ok e) ∧
  ((∃ other ∈ (root.children forest).erase target, Agrees forest params target other) →
    expression forest params root target = .error .indistinct)

/-- Whether the description of the target means what it says. -/
def Plain (forest : Forest) (params : List Text) (target : Node) : Prop :=
  IsLiteral (forest.name target) ∧
    ∀ p ∈ params, forest.parameter target p ≠ [] → IsKey p ∧ OneLine (forest.parameter target p)

/-! ## Plain descriptions -/

theorem filter_eq_singleton_iff {α : Type} [DecidableEq α] {l : List α} {f : α → Bool} {a : α}
    (ha : a ∈ l) (hf : f a = true) : l.filter f = [a] ↔ ∀ b ∈ l.erase a, f b = false := by
  -- what passes is the item itself and what passes of the others
  have hp : (l.filter f).Perm (a :: (l.erase a).filter f) := by
    have := (List.perm_cons_erase ha).filter f
    rwa [List.filter_cons_of_pos hf] at this
  constructor
  · intro h b hb
    rw [h] at hp
    have hnil : (l.erase a).filter f = [] := (List.cons.inj hp.singleton_eq).2.symm
    simpa using List.filter_eq_nil_iff.1 hnil b hb
  · intro h
    have hnil : (l.erase a).filter f = [] := List.filter_eq_nil_iff.2 fun b hb => by simp [h b hb]
    rw [hnil] at hp
    exact hp.eq_singleton

/-- What is tested of the target, parameter by parameter. -/
def wanted (forest : Forest) (params : List Text) (target : Node) : List (Text × Text) :=
  (params.filter (forest.parameter target · ≠ [])).map fun p => (p, forest.parameter target p)

theorem clauses_eq_map_wanted (params : List Text) (target : Node) :
    clauses forest target params = (wanted forest params target).map fun t => clause t.1 t.2 := by
  unfold clauses wanted
  rw [List.map_map]
  rfl

theorem fits_wanted_iff {params : List Text} {target other : Node} :
    fits forest (forest.name target) (wanted forest params target) other = true ↔
      Agrees forest params target other := by
  simp only [fits, wanted, Agrees, Bool.and_eq_true, decide_eq_true_eq, List.all_eq_true,
    List.forall_mem_map, List.mem_filter, and_imp]

theorem selectsOnly_described {v : Text} {tests : List (Text × Text)} (hv : IsLiteral v)
    (ht : ∀ t ∈ tests, IsKey t.1 ∧ OneLine t.2) (root : Root) (target : Node) :
    selectsOnly forest root target (described v tests) =
      .ok (decide ((root.children forest).filter (fits forest v tests) = [target])) := by
  unfold selectsOnly
  rw [evaluate_described hv ht, List.flatMap_singleton]
  rfl

/-- Once a description finds the target alone, it goes on to do so with more tests that fit. -/
theorem filter_fits_append {v : Text} {tests more : List (Text × Text)} {nodes : List Node}
    {target : Node} (hfits : fits forest v (tests ++ more) target = true)
    (h : nodes.filter (fits forest v tests) = [target]) :
    nodes.filter (fits forest v (tests ++ more)) = [target] := by
  rw [fits_append, Bool.and_eq_true] at hfits
  have hf : fits forest v (tests ++ more) = fun node =>
      (more.all fun t => decide (forest.parameter node t.1 = t.2)) && fits forest v tests node :=
    funext fun node => (fits_append forest v tests more node).trans (Bool.and_comm _ _)
  rw [hf, ← List.filter_filter, h]
  exact List.filter_cons_of_pos hfits.2

/-- Lengthening a description finds the target if all tests together find it alone, and fails for want
of distinction otherwise. -/
theorem lengthen_described {v : Text} {tests more : List (Text × Text)} (root : Root)
    {target : Node} (hv : IsLiteral v) (ht : ∀ t ∈ tests ++ more, IsKey t.1 ∧ OneLine t.2)
    (hfits : fits forest v (tests ++ more) target = true) :
    if (root.children forest).filter (fits forest v (tests ++ more)) = [target] then
      ∃ e, lengthen forest root target (described v tests) (more.map fun t => clause t.1 t.2) = .ok e
    else
      lengthen forest root target (described v tests) (more.map fun t => clause t.1 t.2) =
        .error .indistinct := by
  have hs : selectsOnly forest root target (described v tests) =
      .ok (decide ((root.children forest).filter (fits forest v tests) = [target])) :=
    selectsOnly_described hv (fun t hmem => ht t (List.mem_append_left _ hmem)) root target
  induction more generalizing tests with
  | nil =>
    rw [List.append_nil, List.map_nil, lengthen, hs]
    split
    · next h =>
      rw [decide_eq_true h]
      exact ⟨described v tests, rfl⟩
    · next h =>
      rw [decide_eq_false h]
      rfl
  | cons t more ih =>
    rw [List.map_cons, lengthen, hs]
    by_cases h : (root.children forest).filter (fits forest v tests) = [target]
    · rw [if_pos (filter_fits_append hfits h), decide_eq_true h]
      exact ⟨described v tests, rfl⟩
    -- the clause stays in every later attempt: it goes over to the tests that are described
    · rw [decide_eq_false h]
      have hsplit : tests ++ t :: more = (tests ++ [t]) ++ more := by rw [List.append_assoc]; rfl
      rw [hsplit] at ht hfits ⊢
      have hd : described v (tests ++ [t]) = described v tests ++ clause t.1 t.2 := by
        rw [described_append, List.flatMap_singleton]
      rw [← hd]
      exact ih ht hfits (selectsOnly_described hv
        (fun t' hmem => ht t' (List.mem_append_left _ hmem)) root target)

/-- An expression is found as it should be for a node whose description means what it says. -/
theorem complete_of_plain {params : List Text} {root : Root} {target : Node}
    (hmem : target ∈ root.children forest) (hp : Plain forest params target) :
    Complete forest params root target := by
  have ht : ∀ t ∈ wanted forest params target, IsKey t.1 ∧ OneLine t.2 := by
    intro t ht
    obtain ⟨p, hpm, rfl⟩ := List.mem_map.1 ht
    obtain ⟨hp', hne⟩ := List.mem_filter.1 hpm
    exact hp.2 p hp' (by simpa using hne)
  have hself : fits forest (forest.name target) (wanted forest params target) target = true :=
    fits_wanted_iff.2 ⟨rfl, fun _ _ _ => rfl⟩
  have he : expression forest params root target =
      lengthen forest root target (described (forest.name target) [])
        ((wanted forest params target).map fun t => clause t.1 t.2) := by
    rw [expression, if_pos hmem, clauses_eq_map_wanted, described, List.flatMap_nil, List.append_nil]
  have hl := lengthen_described root hp.1 (List.nil_append (wanted forest params target) ▸ ht) hself
  rw [List.nil_append, ← he] at hl
  have hiff := filter_eq_singleton_iff hmem hself
  constructor
  · intro hother
    rwa [if_pos (hiff.2 fun b hb => Bool.eq_false_iff.2 fun h =>
      hother b hb (fits_wanted_iff.1 h))] at hl
  · rintro ⟨other, hmem', hagree⟩
    rwa [if_neg] at hl
    intro h
    have := hiff.1 h other hmem'
    rw [fits_wanted_iff.2 hagree] at this
    cases this

/-! ## What is missed -/

/-- Where the name does not do, one parameter is tried. -/
theorem evaluate_of_complete {p : Text} {root : Root} {target : Node}
    (hc : Complete forest [p] root target) (hx : forest.parameter target p ≠ [])
    (hother : ∀ other ∈ (root.children forest).erase target, ¬Agrees forest [p] target other)
    (hname : evaluate forest .standard (quote (forest.name target)) [root] ≠ .ok [target]) :
    evaluate forest .standard (described (forest.name target) [(p, forest.parameter target p)])
      [root] = .ok [target] := by
  obtain ⟨e, he⟩ := hc.1 hother
  obtain ⟨hfound, count, rfl⟩ := evaluate_of_expression he
  have hclauses : clauses forest target [p] = [clause p (forest.parameter target p)] := by
    rw [clauses, List.filter_cons_of_pos (by simpa using hx)]
    rfl
  rw [hclauses] at hfound
  cases count with
  | zero => exact absurd (by simpa using hfound) hname
  | succ count => simpa [described] using hfound

/-- A name that does not mean itself is missed. -/
theorem not_complete_of_not_isLiteral {v : Text} (hv : ¬IsLiteral v) :
    ¬Complete [Tree.build [.node v]] [] (.detached [⟨0, 0⟩]) ⟨0, 0⟩ := by
  intro hc
  obtain ⟨e, he⟩ := hc.1 (fun other h => absurd h (by simp [Root.children]))
  obtain ⟨hfound, count, rfl⟩ := evaluate_of_expression he
  have hquote : quote v ++ (([] : List Text).take count).flatten = quote v := by simp
  have hname : Forest.name [Tree.build [.node v]] ⟨0, 0⟩ = v := rfl
  have hnil := Path.found_eq_nil_of_evaluate_quote (hname ▸ hv) (hquote ▸ hfound)
  cases hnil

/-! ### Values with line breaks -/

/-- Two nodes of one name with different values of a parameter. -/
def rivals (x y : Text) : Forest :=
  [Tree.build [.node ['a'], .node ['a'], .param 0 ['i', 'd'] x, .param 1 ['i', 'd'] y]]

theorem isKey_id : IsKey ['i', 'd'] :=
  isKey_of_plain (by decide) (List.forall_mem_cons.2 ⟨by decide,
    List.forall_mem_cons.2 ⟨by decide, List.forall_mem_nil _⟩⟩)

/-- A value with a line break is missed, if another node has its first line for a value. -/
theorem exists_not_complete_rivals {x : Text} (hx : ¬OneLine x) :
    ∃ y, ¬Complete (rivals x y) [['i', 'd']] (.detached [⟨0, 0⟩, ⟨0, 1⟩]) ⟨0, 0⟩ := by
  obtain ⟨first, pieces, hs⟩ := List.exists_cons_of_ne_nil (Text.splitBy_ne_nil Path.isLineBreak x)
  have hfirst : OneLine first := Path.oneLine_of_mem_splitBy (hs ▸ List.mem_cons_self)
  have hne : x ≠ [] := fun he => hx (he ▸ List.forall_mem_nil _)
  have hdiffer : first ≠ x := fun he => hx (he ▸ hfirst)
  refine ⟨first, fun hc => ?_⟩
  have hname : evaluate (rivals x first) .standard (quote ['a'])
      [.detached [⟨0, 0⟩, ⟨0, 1⟩]] = .ok [⟨0, 0⟩, ⟨0, 1⟩] :=
    Path.evaluate_quote_of_isLiteral .standard (by decide) _
  have hother : ∀ other ∈ [(⟨0, 1⟩ : Node)], ¬Agrees (rivals x first) [['i', 'd']] ⟨0, 0⟩ other := by
    intro other hmem hagree
    obtain rfl := List.mem_singleton.1 hmem
    exact hdiffer (hagree.2 _ List.mem_cons_self hne)
  have hfound := evaluate_of_complete hc hne hother (fun h => by cases hname.symm.trans h)
  -- the first line describes the other node
  have hlines : lines (described ['a'] [(['i', 'd'], x)]) =
      described ['a'] [(['i', 'd'], first)] :: (pieces.map quote).filter (· ≠ []) := by
    have hsplit : Text.splitBy Path.isLineBreak (quote x) = quote first :: pieces.map quote := by
      rw [Pattern.splitBy_quote, hs, List.map_cons]
    have hnot : ¬OneLine (['a', '&', 'i', 'd', '='] ++ quote x) := fun h =>
      hx (Pattern.oneLine_quote_iff.1 (oneLine_append_iff.1 h).2)
    have hd (y : Text) : described ['a'] [(['i', 'd'], y)] = ['a', '&', 'i', 'd', '='] ++ quote y := by
      rw [described, List.flatMap_singleton]
      rfl
    rw [hd, hd, Path.lines_of_not_oneLine hnot, Path.splitBy_append (by decide) hsplit]
    rfl
  obtain ⟨found, hline, hsub⟩ := Path.exists_subset_of_lines hlines hfound
  rw [evaluate_described (by decide) (by simpa using ⟨isKey_id, hfirst⟩)] at hline
  obtain rfl := Except.ok.inj hline
  have hmem : (⟨0, 1⟩ : Node) ∈ [(⟨0, 0⟩ : Node)] := by
    refine hsub (List.mem_filter.2 ⟨by simp [Root.children], ?_⟩)
    show (decide (['a'] = ['a']) && (decide (first = first) && true)) = true
    simp
  cases List.mem_singleton.1 hmem

/-! ### Keys -/

/-- Two nodes of one name, of which the one in the given slot has a parameter. -/
def twins (p : Text) (slot : Nat) : Forest :=
  [Tree.build [.node ['a'], .node ['a'], .param slot p ['1']]]

theorem get_singleton_self (p x : Text) : Params.get [(p, x)] p = x := by
  simp [Params.get, Params.stored?, Text.SameFolded]

/-- A stored name answers neither names that it is no beginning of. -/
theorem get_singleton_eq_nil {p x key : Text} (h : Text.dropFolded? p key = none) :
    Params.get [(p, x)] key = [] := by
  have hsame : ¬Text.SameFolded p key := fun hs => by
    rw [Text.dropFolded?_eq_some_iff.2 ⟨key, (List.append_nil key).symm, hs⟩] at h
    cases h
  have hasked : Params.askedFlag? p key = none := by
    unfold Params.askedFlag?
    rw [h]
    split <;> rfl
  simp [Params.get, Params.stored?, hsame, Params.flag?, Params.governing?, hasked]

/-- Two forests of twins look the same to what never asks for the parameter. -/
theorem sameFor_twins {p : Text} {keys : List Text}
    (h : ∀ key ∈ keys, Text.dropFolded? p key = none) : SameFor keys (twins p 0) (twins p 1) := by
  have hget {key : Text} (hk : key ∈ keys) : Params.get [(p, ['1'])] key = [] :=
    get_singleton_eq_nil (h key hk)
  refine ⟨?_, ?_, ?_, ?_⟩
  · rintro ⟨t, s⟩
    match t, s with
    | 0, 0 | 0, 1 | 0, _ + 2 | _ + 1, _ => rfl
  · rintro ⟨t, s⟩
    match t, s with
    | 0, 0 | 0, 1 | 0, _ + 2 | _ + 1, _ => rfl
  · rintro ⟨t, s⟩
    match t, s with
    | 0, 0 | 0, 1 | 0, _ + 2 | _ + 1, _ => rfl
  · rintro ⟨t, s⟩ key hk
    match t, s with
    | 0, 0 => exact hget hk
    | 0, 1 => exact (hget hk).symm
    | 0, _ + 2 | _ + 1, _ => rfl

theorem length_unquote_lt {p : Text} (h : '^' ∈ p) : (Pattern.unquote p).length < p.length := by
  fun_induction Pattern.unquote p with
  | case1 c rest ih =>
    have := (Path.unquote_sublist rest).length_le
    simp only [List.length_cons]
    omega
  | case2 => exact Nat.zero_lt_one
  | case3 c rest h1 h2 ih =>
    have hc : '^' ≠ c := by
      rintro rfl
      cases rest with
      | nil => exact h2 rfl rfl
      | cons d rest => exact h1 d rest rfl rfl
    exact Nat.succ_lt_succ (ih ((List.mem_cons.1 h).resolve_left hc))
  | case4 => cases h

/-- A clause with a value of one character and its key, however they are read, leave less room for
other keys than the key takes. -/
theorem length_of_clause {p k w : Text} (h : k ++ '=' :: w = p ++ ['=', '1']) :
    k.length + w.length = p.length + 1 ∧ 0 < w.length ∧ (w.length = 1 → k = p) := by
  have hlen := congrArg List.length h
  simp only [List.length_append, List.length_cons, List.length_nil] at hlen
  refine ⟨by omega, ?_, fun hw => ?_⟩
  · cases w with
    | cons c w => exact Nat.zero_lt_succ _
    | nil =>
      -- the text ends in the value and not in an equals sign
      have hlast := congrArg List.getLast? h
      simp at hlast
  · exact (List.append_inj h (by omega)).1

/-- What is asked for in a clause is shorter than a name that is not read as it stands. -/
theorem length_lt_of_mem_keys {p key : Text}
    (hp : '^' ∈ p ∨ ¬∃ pattern, Pattern.Spells true p pattern)
    (hk : key ∈ (Plan.read false ('a' :: '&' :: (p ++ ['=', '1']))).keys) :
    key.length < p.length := by
  rw [Plan.read_filter false (Plan.opening_cons_of_ne (by decide) (by decide) _)] at hk
  cases hr : Path.Segment.read ('a' :: '&' :: (p ++ ['=', '1'])) with
  | error e =>
    rw [Plan.readFilter_stop false hr] at hk
    cases hk
  | ok r =>
    obtain ⟨⟨name, clauses⟩, next⟩ := r
    obtain ⟨s, hL, n, rest, rfl, hn, hc⟩ := Path.Segment.read_eq_ok_iff.1 hr
    have hkeys : key ∈ clauses.map Prod.fst ∨
        ∃ after, next = some after ∧ key ∈ (Plan.read false after).keys := by
      cases next with
      | none =>
        rw [Plan.readFilter_last false hr] at hk
        exact .inl hk
      | some after =>
        rw [Plan.readFilter_step false hr] at hk
        exact (List.mem_append.1 hk).imp_right fun h => ⟨after, rfl, h⟩
    -- the name is read up to the ampersand, so the first clause begins with the parameter
    rw [List.append_assoc] at hL
    have hname : Pattern.Spells false ['a'] (Pattern.literal ['a']) := Pattern.spells_quote ['a']
    obtain ⟨rfl, hrest⟩ := Pattern.Spells.append_inj (s := ['a']) hL hname hn rfl
      (Path.Segment.endsPattern_clausesText hc next)
    cases hc with
    | nil => cases next <;> cases hrest
    | @cons k v more keyPattern value clauses hkey hvalue hmore =>
      have hcut : k ++ '=' :: (v ++ (more ++ Path.tail next)) = p ++ ['=', '1'] := by
        have := (List.cons.inj hrest).2
        simpa using this.symm
      obtain ⟨hlen, hpos, hown⟩ := length_of_clause hcut
      simp only [List.length_append] at hlen hpos hown
      rcases hkeys with hclause | ⟨after, rfl, hafter⟩
      · rcases List.mem_cons.1 hclause with rfl | hclause
        -- the key of the first clause: it is shorter unless all of the parameter is read as it
        · have hle := (Path.unquote_sublist k).length_le
          by_cases hw : v.length + (more.length + (Path.tail next).length) = 1
          · obtain rfl := hown hw
            rcases hp with hcaret | hnone
            · exact length_unquote_lt hcaret
            · exact absurd ⟨keyPattern, hkey⟩ hnone
          · dsimp only
            omega
        -- a key of a later clause or of a later segment has only the value to stand in
        · have := (Path.askedIn_of_clausesText hmore hclause).2
          omega
      · have := (askedIn_of_mem_keys_read hafter).2
        simp only [Path.tail, List.length_cons] at hlen
        omega

/-- A key that does not mean itself is asked for nowhere in the description that has it. -/
theorem dropFolded?_eq_none_of_mem_keys {p line key : Text} (hp : ¬IsKey p)
    (hl : line ∈ lines (described ['a'] [(p, ['1'])])) (hk : key ∈ (Plan.read false line).keys) :
    Text.dropFolded? p key = none := by
  have hd : described ['a'] [(p, ['1'])] = 'a' :: '&' :: (p ++ ['=', '1']) := by
    rw [described, List.flatMap_singleton, clause, List.append_assoc]
    rfl
  refine Option.eq_none_iff_forall_ne_some.2 fun rest hdrop => ?_
  obtain ⟨s, rfl, hs⟩ := Text.dropFolded?_eq_some_iff.1 hdrop
  have hline : OneLine line := Path.oneLine_of_mem_lines hl
  by_cases ho : OneLine p
  · -- on one line there is no room for the key, unless it is read as it stands
    have hpath : OneLine ('a' :: '&' :: (p ++ ['=', '1'])) := by
      rw [oneLine_cons_iff, oneLine_cons_iff, oneLine_append_iff]
      exact ⟨by decide, by decide, ho, by decide⟩
    rw [hd, Path.lines_of_oneLine hpath] at hl
    obtain rfl := List.mem_singleton.1 hl
    have hread : '^' ∈ p ∨ ¬∃ pattern, Pattern.Spells true p pattern := by
      by_cases hcaret : '^' ∈ p
      · exact .inl hcaret
      · exact .inr fun hspells => hp ⟨hcaret, ho, hspells⟩
    have hlt := length_lt_of_mem_keys hread hk
    have hlen : p.length = s.length := by
      have := congrArg List.length hs
      simpa [Text.fold] using this
    rw [List.length_append] at hlt
    omega
  · -- the key would have the line break that no line has
    have hkey := (askedIn_of_mem_keys_read hk).1
    exact ho (Path.oneLine_of_sameFolded hs fun c hc =>
      hline c (hkey.subset (List.mem_append_left _ hc)))

theorem parameter_twins {p : Text} {slot : Nat} (hs : slot = 0 ∨ slot = 1) :
    (twins p slot).parameter ⟨0, slot⟩ p = ['1'] := by
  rcases hs with rfl | rfl <;> exact get_singleton_self p ['1']

/-- A twin that is not missed is found by the key and its value. -/
theorem evaluate_of_complete_twins {p : Text} {slot : Nat} (hs : slot = 0 ∨ slot = 1)
    (hc : Complete (twins p slot) [p] (.detached [⟨0, 0⟩, ⟨0, 1⟩]) ⟨0, slot⟩) :
    evaluate (twins p slot) .standard (described ['a'] [(p, ['1'])])
      [.detached [⟨0, 0⟩, ⟨0, 1⟩]] = .ok [⟨0, slot⟩] := by
  have hvalue := parameter_twins (p := p) hs
  have hx : (twins p slot).parameter ⟨0, slot⟩ p ≠ [] := by
    rw [hvalue]
    simp
  have hother : ∀ other ∈ (Root.children (twins p slot)
      (.detached [⟨0, 0⟩, ⟨0, 1⟩])).erase ⟨0, slot⟩, ¬Agrees (twins p slot) [p] ⟨0, slot⟩ other := by
    intro other hmem hagree
    have hsame := hagree.2 p List.mem_cons_self hx
    rw [hvalue] at hsame
    rcases hs with rfl | rfl <;>
      (obtain rfl := List.mem_singleton.1 hmem; cases hsame)
  have hname : evaluate (twins p slot) .standard (quote ['a'])
      [.detached [⟨0, 0⟩, ⟨0, 1⟩]] = .ok [⟨0, 0⟩, ⟨0, 1⟩] := by
    rw [Path.evaluate_quote_of_isLiteral .standard (by decide)]
    rcases hs with rfl | rfl <;> rfl
  have hfound := evaluate_of_complete hc hx hother
  rw [hvalue] at hfound
  rcases hs with rfl | rfl <;> exact hfound fun h => by cases hname.symm.trans h

/-- Of two twins one is missed, if the key does not mean itself. -/
theorem not_complete_twins {p : Text} (hp : ¬IsKey p) :
    ¬(Complete (twins p 0) [p] (.detached [⟨0, 0⟩, ⟨0, 1⟩]) ⟨0, 0⟩ ∧
      Complete (twins p 1) [p] (.detached [⟨0, 0⟩, ⟨0, 1⟩]) ⟨0, 1⟩) := by
  rintro ⟨hc₀, hc₁⟩
  have hfound₀ := evaluate_of_complete_twins (.inl rfl) hc₀
  have hfound₁ := evaluate_of_complete_twins (.inr rfl) hc₁
  have hsame : evaluate (twins p 0) .standard (described ['a'] [(p, ['1'])])
      [.detached [⟨0, 0⟩, ⟨0, 1⟩]] = evaluate (twins p 1) .standard (described ['a'] [(p, ['1'])])
      [.detached [⟨0, 0⟩, ⟨0, 1⟩]] :=
    evaluate_congr (fun line hl => sameFor_twins fun key hk =>
      dropFolded?_eq_none_of_mem_keys hp hl hk) .standard _
  cases hfound₀.symm.trans (hsame.trans hfound₁)

/-! ## The condition -/

/-- **An expression is found as it should be for every node whose description means what it says.**
For a name, a key or a value that does not mean what it says there is a node for which it is not. -/
theorem complete_exactly_if_plain (forest : Forest) (params : List Text) (root : Root) (target : Node)
    (hmem : target ∈ root.children forest) :
    (Plain forest params target → Complete forest params root target) ∧
    (¬IsLiteral (forest.name target) → ∃ forest' root' target',
      target' ∈ Root.children forest' root' ∧ forest'.name target' = forest.name target ∧
        ¬Complete forest' [] root' target') ∧
    (∀ p ∈ params, ¬IsKey p → ∃ forest' root' target',
      target' ∈ Root.children forest' root' ∧ IsLiteral (forest'.name target') ∧
        OneLine (forest'.parameter target' p) ∧ ¬Complete forest' [p] root' target') ∧
    (∀ p ∈ params, ¬OneLine (forest.parameter target p) → ∃ forest' key root' target',
      target' ∈ Root.children forest' root' ∧ IsLiteral (forest'.name target') ∧ IsKey key ∧
        forest'.parameter target' key = forest.parameter target p ∧
        ¬Complete forest' [key] root' target') := by
  refine ⟨complete_of_plain hmem, ?_, ?_, ?_⟩
  · intro hv
    exact ⟨_, _, ⟨0, 0⟩, List.mem_cons_self, rfl, not_complete_of_not_isLiteral hv⟩
  · intro p _ hp
    have hone {slot : Nat} (hs : slot = 0 ∨ slot = 1)
        (h : ¬Complete (twins p slot) [p] (.detached [⟨0, 0⟩, ⟨0, 1⟩]) ⟨0, slot⟩) :
        ∃ forest' root' target', target' ∈ Root.children forest' root' ∧
          IsLiteral (forest'.name target') ∧ OneLine (forest'.parameter target' p) ∧
          ¬Complete forest' [p] root' target' := by
      have hname : IsLiteral ['a'] := by decide
      have hvalue : OneLine ((twins p slot).parameter ⟨0, slot⟩ p) := by
        rw [parameter_twins hs]
        decide
      refine ⟨twins p slot, .detached [⟨0, 0⟩, ⟨0, 1⟩], ⟨0, slot⟩, ?_, ?_, hvalue, h⟩
      · rcases hs with rfl | rfl <;> simp [Root.children]
      · rcases hs with rfl | rfl <;> exact hname
    by_cases hfirst : Complete (twins p 0) [p] (.detached [⟨0, 0⟩, ⟨0, 1⟩]) ⟨0, 0⟩
    · exact hone (.inr rfl) fun hsecond => not_complete_twins hp ⟨hfirst, hsecond⟩
    · exact hone (.inl rfl) hfirst
  · intro p _ hx
    obtain ⟨y, hy⟩ := exists_not_complete_rivals hx
    have hname : IsLiteral ['a'] := by decide
    exact ⟨rivals (forest.parameter target p) y, ['i', 'd'], _, ⟨0, 0⟩, List.mem_cons_self, hname,
      isKey_id, rfl, hy⟩

/-- Of two nodes of one name the first is told by a parameter. -/
theorem complete_of_plain_rivals :
    (⟨0, 0⟩ : Node) ∈ Root.children (rivals ['1'] ['2']) (.detached [⟨0, 0⟩, ⟨0, 1⟩]) ∧
      Plain (rivals ['1'] ['2']) [['i', 'd']] ⟨0, 0⟩ ∧
      Complete (rivals ['1'] ['2']) [['i', 'd']] (.detached [⟨0, 0⟩, ⟨0, 1⟩]) ⟨0, 0⟩ := by
  have hmem : (⟨0, 0⟩ : Node) ∈ Root.children (rivals ['1'] ['2']) (.detached [⟨0, 0⟩, ⟨0, 1⟩]) :=
    List.mem_cons_self
  have hname : IsLiteral ['a'] := by decide
  have hvalue : OneLine ['1'] := by decide
  have hplain : Plain (rivals ['1'] ['2']) [['i', 'd']] ⟨0, 0⟩ := by
    refine ⟨hname, fun p hp _ => ?_⟩
    obtain rfl := List.mem_singleton.1 hp
    exact ⟨isKey_id, hvalue⟩
  exact ⟨hmem, hplain, (complete_exactly_if_plain _ _ _ _ hmem).1 hplain⟩

end TreeQuery.Locator
