import TreeQuery.Locator
import TreeQuery.Proofs.Path.OperatorEnd

/-!
# What a locator finds

Each expression is judged where it starts, so it finds its node (`evaluate_of_expression`). A path of
several expressions is not judged again as a whole. It finds its target if it is one line and nothing
in it descends (`evaluate_of_path`): then each expression leads on from the node that it finds, and
nothing that is read before a bar is read again after it.

Both conditions are about the path that is given out. A line break in a name or a value ends the line
in the middle of a step, and what follows starts from the root again. A candidate name is taken as it
is written, so it can hold a descent; then the steps share their fuel, and a detached root can stay
behind where a step ends.
-/

namespace TreeQuery.Locator

open TreeQuery.Path (evaluate lines Plan evaluate_of_oneLine followLines_cons_of_ok
  run_append_bar_of_found run_parent)
open Pattern (map_eq_ok_iff bind_eq_ok_iff)

variable {forest : Forest}

/-! ## Expressions -/

theorem selectsOnly_eq_ok_true_iff {root : Root} {target : Node} {expr : Text} :
    selectsOnly forest root target expr = .ok true ↔
      evaluate forest .standard expr [root] = .ok [target] := by
  unfold selectsOnly
  rw [map_eq_ok_iff]
  constructor
  · rintro ⟨found, h, hd⟩
    rw [h, of_decide_eq_true hd]
  · exact fun h => ⟨[target], h, decide_eq_true rfl⟩

/-- An expression is given out only if it finds the target. It has some of the clauses, from the first
one on. -/
theorem evaluate_of_lengthen {root : Root} {target : Node} {expr e : Text} {cs : List Text}
    (h : lengthen forest root target expr cs = .ok e) :
    evaluate forest .standard e [root] = .ok [target] ∧
      ∃ count, e = expr ++ (cs.take count).flatten := by
  induction cs generalizing expr with
  | nil =>
    obtain ⟨selects, hs, h⟩ := bind_eq_ok_iff.1 h
    cases selects with
    | false => cases h
    | true =>
      obtain rfl := Except.ok.inj h
      exact ⟨selectsOnly_eq_ok_true_iff.1 hs, 0, (List.append_nil _).symm⟩
  | cons c cs ih =>
    obtain ⟨selects, hs, h⟩ := bind_eq_ok_iff.1 h
    cases selects with
    | false =>
      obtain ⟨he, count, rfl⟩ := ih h
      exact ⟨he, count + 1, List.append_assoc _ _ _⟩
    | true =>
      obtain rfl := Except.ok.inj h
      exact ⟨selectsOnly_eq_ok_true_iff.1 hs, 0, (List.append_nil _).symm⟩

theorem evaluate_of_expression {params : List Text} {root : Root} {target : Node} {e : Text}
    (h : expression forest params root target = .ok e) :
    evaluate forest .standard e [root] = .ok [target] ∧
      ∃ count, e = Pattern.quote (forest.name target) ++
        ((clauses forest target params).take count).flatten := by
  unfold expression at h
  split at h
  · exact evaluate_of_lengthen h
  · cases h

/-- A name that finds the target alone is the whole expression. -/
theorem expression_of_evaluate_quote {params : List Text} {root : Root} {target : Node}
    (hmem : target ∈ root.children forest)
    (h : evaluate forest .standard (Pattern.quote (forest.name target)) [root] = .ok [target]) :
    expression forest params root target = .ok (Pattern.quote (forest.name target)) := by
  rw [expression, if_pos hmem]
  cases clauses forest target params <;> rw [lengthen, selectsOnly_eq_ok_true_iff.2 h] <;> rfl

/-! ## Paths -/

/-- A chain ends in the node that it is sought for. -/
theorem exists_chain?_eq {top seen chain : List Node} {node : Node}
    (h : chain? forest top seen node = some chain) : ∃ above, chain = above ++ [node] := by
  rw [chain?] at h
  split at h
  · cases h
  · split at h
    · exact ⟨[], (Option.some.inj h).symm⟩
    · split at h
      · cases h
      · obtain ⟨above, -, rfl⟩ := Option.map_eq_some_iff.1 h
        exact ⟨above, rfl⟩

theorem intercalate_bar_cons_cons (s t : Text) (rest : List Text) :
    ['|'].intercalate (s :: t :: rest) = s ++ '|' :: ['|'].intercalate (t :: rest) := by
  simp [List.intercalate, List.intersperse]

theorem expressions_cons_eq_ok_iff {params : List Text} {root : Root} {node : Node}
    {nodes : List Node} {exprs : List Text} :
    expressions forest params root (node :: nodes) = .ok exprs ↔
      ∃ e es, expression forest params root node = .ok e ∧
        expressions forest params (.node node) nodes = .ok es ∧ exprs = e :: es := by
  constructor
  · intro h
    obtain ⟨e, he, h⟩ := bind_eq_ok_iff.1 h
    obtain ⟨es, hes, h⟩ := bind_eq_ok_iff.1 h
    exact ⟨e, es, he, hes, (Except.ok.inj h).symm⟩
  · rintro ⟨e, es, he, hes, rfl⟩
    exact bind_eq_ok_iff.2 ⟨e, he, bind_eq_ok_iff.2 ⟨es, hes, rfl⟩⟩

/-- An expression of one line leads to its node without a descent before it. -/
theorem exists_run_of_expression {params : List Text} {root : Root} {node : Node} {e : Text}
    (h : expression forest params root node = .ok e) (hl : OneLine e) :
    ∃ fuel, (Plan.read false e).run forest .standard [root] = .ok ([node], fuel) := by
  have he := (evaluate_of_expression h).1
  rw [evaluate_of_oneLine forest .standard hl] at he
  obtain ⟨⟨found, fuel⟩, hr, rfl⟩ := map_eq_ok_iff.1 he
  exact ⟨fuel, hr⟩

/-- Expressions along a chain, with bars between them, lead from the root to the last node. -/
theorem exists_run_of_expressions {params : List Text} {root : Root} {above : List Node}
    {node : Node} {exprs : List Text}
    (he : expressions forest params root (above ++ [node]) = .ok exprs)
    (hl : OneLine (['|'].intercalate exprs))
    (hd : (Plan.read false (['|'].intercalate exprs)).descends = false) :
    ∃ fuel, (Plan.read false (['|'].intercalate exprs)).run forest .standard [root] =
      .ok ([node], fuel) := by
  induction above generalizing root exprs with
  | nil =>
    obtain ⟨e, es, h, hes, rfl⟩ := expressions_cons_eq_ok_iff.1 he
    obtain rfl := Except.ok.inj hes
    rw [show ['|'].intercalate [e] = e from List.append_nil e] at hl ⊢
    exact exists_run_of_expression h hl
  | cons first above ih =>
    obtain ⟨e, es, h, hes, rfl⟩ := expressions_cons_eq_ok_iff.1 he
    -- there is at least the expression of the last node
    obtain ⟨e', es', rfl⟩ : ∃ e' es', es = e' :: es' := by
      cases above with
      | nil | cons =>
        obtain ⟨e', es', -, -, rfl⟩ := expressions_cons_eq_ok_iff.1 hes
        exact ⟨e', es', rfl⟩
    rw [intercalate_bar_cons_cons] at hl hd ⊢
    obtain ⟨hle, hlq⟩ := oneLine_append_iff.1 hl
    obtain ⟨fuel, hr⟩ := exists_run_of_expression h hle
    obtain ⟨hdq, hrun⟩ := run_append_bar_of_found hd hr
    rw [hrun]
    exact ih hes (oneLine_cons_iff.1 hlq).2 hdq

/-- **A path finds its target.** A path of several expressions has to be one line without a
descent. -/
theorem evaluate_of_path {params : List Text} {root : Root} {target : Node} {p : Text}
    (h : path forest params root target = .ok p)
    (hp : target ∈ root.children forest ∨ OneLine p ∧ (Plan.read false p).descends = false) :
    evaluate forest .standard p [root] = .ok [target] := by
  unfold path at h
  split at h
  · cases h
  · next chain hc =>
    obtain ⟨exprs, he, rfl⟩ := map_eq_ok_iff.1 h
    rcases hp with ht | ⟨hl, hd⟩
    · rw [chain?, if_neg List.not_mem_nil, if_pos ht] at hc
      obtain rfl := Option.some.inj hc
      obtain ⟨e, es, hexpr, hes, rfl⟩ := expressions_cons_eq_ok_iff.1 he
      obtain rfl := Except.ok.inj hes
      rw [show ['|'].intercalate [e] = e from List.append_nil e]
      exact (evaluate_of_expression hexpr).1
    · obtain ⟨above, rfl⟩ := exists_chain?_eq hc
      obtain ⟨fuel, hr⟩ := exists_run_of_expressions he hl hd
      rw [evaluate_of_oneLine forest .standard hl, hr]
      rfl

/-- The path to the node `b` below the node `a`. -/
theorem evaluate_of_path_below :
    path [Tree.build [.node ['a'], .node ['b'], .child 0 1]] [] (.detached [⟨0, 0⟩]) ⟨0, 1⟩ =
        .ok ['a', '|', 'b'] ∧
      OneLine ['a', '|', 'b'] ∧ (Plan.read false ['a', '|', 'b']).descends = false ∧
      evaluate [Tree.build [.node ['a'], .node ['b'], .child 0 1]] .standard ['a', '|', 'b']
        [.detached [⟨0, 0⟩]] = .ok [⟨0, 1⟩] := by
  have hpath : path [Tree.build [.node ['a'], .node ['b'], .child 0 1]] []
      (.detached [⟨0, 0⟩]) ⟨0, 1⟩ = .ok ['a', '|', 'b'] := by
    have hchain : chain? [Tree.build [.node ['a'], .node ['b'], .child 0 1]] [⟨0, 0⟩] [] ⟨0, 1⟩ =
        some [⟨0, 0⟩, ⟨0, 1⟩] := by cbv
    have hexprs : expressions [Tree.build [.node ['a'], .node ['b'], .child 0 1]] []
        (.detached [⟨0, 0⟩]) [⟨0, 0⟩, ⟨0, 1⟩] = .ok [['a'], ['b']] :=
      expressions_cons_eq_ok_iff.2 ⟨['a'], [['b']],
        expression_of_evaluate_quote (by decide)
          (Path.evaluate_quote_of_isLiteral .standard (v := ['a']) (by decide) _),
        expressions_cons_eq_ok_iff.2 ⟨['b'], [],
          expression_of_evaluate_quote (by decide)
            (Path.evaluate_quote_of_isLiteral .standard (v := ['b']) (by decide) _), rfl, rfl⟩, rfl⟩
    unfold path
    rw [show Root.children _ (.detached [⟨0, 0⟩]) = [⟨0, 0⟩] from rfl, hchain]
    exact congrArg (Except.map _) hexprs
  have hl : OneLine ['a', '|', 'b'] := by decide
  have hd : (Plan.read false ['a', '|', 'b']).descends = false := by
    have ha := Path.Segment.read_append_bar_of_spelled (Path.Segment.spelled_quote ['a']) ['b']
    have hb := Path.Segment.read_of_spelled (Path.Segment.spelled_quote ['b'])
    rw [Plan.read_filter false rfl]
    refine (congrArg Plan.descends (Plan.readFilter_step false ha)).trans ?_
    rw [Plan.read_filter false rfl]
    exact congrArg Plan.descends (Plan.readFilter_last false hb)
  exact ⟨hpath, hl, hd, evaluate_of_path hpath (.inr ⟨hl, hd⟩)⟩

/-! ## Paths that do not find their target -/

/-- Two nodes, each the parent of the other. The name of the second one is cut by a line break. -/
def loop : Forest :=
  [Tree.build [.node ['w'], .node ['n', '\n', '.', '.'], .child 1 0, .child 0 1]]

/-- A path is not to have a second line: that line starts from the root again. -/
theorem path_of_two_lines :
    path loop [] (.detached [⟨0, 0⟩]) ⟨0, 1⟩ = .ok ['w', '|', 'n', '\n', '.', '.'] ∧
      evaluate loop .standard ['w', '|', 'n', '\n', '.', '.'] [.detached [⟨0, 0⟩]] = .ok [] := by
  have hn := Path.Segment.spelled_quote ['n']
  have hfirst : (Plan.read false ['n']).run loop .standard [.node ⟨0, 0⟩] = .ok ([], .standard) :=
    (Path.run_of_spelled .standard rfl hn _).trans
      (congrArg (fun nodes => Except.ok (nodes, _)) (Path.filter_literal ['n'] _))
  -- below the first node the first line finds nothing and the second one its parent
  have hname : evaluate loop .standard ['n', '\n', '.', '.'] [.node ⟨0, 0⟩] = .ok [⟨0, 1⟩] := by
    have hlines : lines ['n', '\n', '.', '.'] = [['n'], ['.', '.']] := rfl
    rw [evaluate, hlines, followLines_cons_of_ok hfirst (followLines_cons_of_ok (run_parent _ _) rfl)]
    rfl
  constructor
  · have hchain : chain? loop [⟨0, 0⟩] [] ⟨0, 1⟩ = some [⟨0, 0⟩, ⟨0, 1⟩] := by cbv
    have hexprs : expressions loop [] (.detached [⟨0, 0⟩]) [⟨0, 0⟩, ⟨0, 1⟩] =
        .ok [['w'], ['n', '\n', '.', '.']] :=
      expressions_cons_eq_ok_iff.2 ⟨['w'], _,
        expression_of_evaluate_quote (by decide)
          (Path.evaluate_quote_of_isLiteral .standard (v := ['w']) (by decide) _),
        expressions_cons_eq_ok_iff.2 ⟨_, [], expression_of_evaluate_quote (by decide) hname, rfl, rfl⟩,
        rfl⟩
    unfold path
    rw [show Root.children _ (.detached [⟨0, 0⟩]) = [⟨0, 0⟩] from rfl, hchain]
    exact congrArg (Except.map _) hexprs
  · have hw : (Plan.read false ['w']).run loop .standard [.detached [⟨0, 0⟩]] =
        .ok ([⟨0, 0⟩], .standard) :=
      (Path.run_of_spelled .standard rfl (Path.Segment.spelled_quote ['w']) _).trans
        (congrArg (fun nodes => Except.ok (nodes, _)) (Path.filter_literal ['w'] _))
    have hline : (Plan.read false ['w', '|', 'n']).run loop .standard [.detached [⟨0, 0⟩]] =
        .ok ([], .standard) := by
      have hf : Path.IsFilter ['w'] := .children rfl (Path.Segment.spelled_quote ['w'])
      refine (congrArg (Plan.run loop .standard [.detached [⟨0, 0⟩]])
        (Plan.read_isFilter_append_bar hf false ['n'])).trans ?_
      rw [Plan.run_followedBy, hw]
      exact hfirst
    have hlines : lines ['w', '|', 'n', '\n', '.', '.'] = [['w', '|', 'n'], ['.', '.']] := rfl
    rw [evaluate, hlines, followLines_cons_of_ok hline (followLines_cons_of_ok (run_parent _ _) rfl)]
    rfl

/-- A name of a parameter that holds a descent and a slice after it. -/
def descent : Text := ['x', '|', '*', '*', '|', '.', '#', '1', '.', '.', '2', '|', '.', '!', 'y']

/-- A node that sorts by its name, with the parameter `descent`, above a node `b`, and another node `b`
beside it. -/
def beside : Forest :=
  [Tree.build [.node ['.', '!'], .node ['b'], .node ['b'], .param 0 descent ['v'], .child 0 1]]

/-- Roots that have nothing to be sorted by stay as they are. -/
theorem sort_of_sortKey_eq_nil {descending : Bool} {param : Text} {roots : List Root}
    (h : ∀ root ∈ roots, Path.sortKey forest param root = []) :
    Path.sort forest descending param roots = roots := by
  unfold Path.sort
  split <;> refine List.mergeSort_of_pairwise (List.pairwise_of_forall_mem_list ?_)
  all_goals
    intro a ha b hb
    rw [h a ha, h b hb]
    rfl

/-- The expression of the first node leads to it and leaves the detached root beside it. -/
theorem run_descent (rest : Option Text) :
    (Plan.read false (['.', '!', '&'] ++ descent ++ ['=', 'v'] ++ Path.tail rest)).run beside
        .standard [.detached [⟨0, 0⟩, ⟨0, 2⟩]] =
      (Plan.read false (Plan.restOf rest)).run beside (some 999997)
        [.detached [⟨0, 0⟩, ⟨0, 2⟩], .node ⟨0, 0⟩] := by
  have hplan : Plan.read false (['.', '!', '&'] ++ descent ++ ['=', 'v'] ++ Path.tail rest) =
      .step (.sort false ['&', 'x']) (.step .descend (.step (.select 1 2)
        (.step (.sort false ['y', '=', 'v']) (Plan.read false (Plan.restOf rest))))) := by
    have hx : '|' ∉ ['&', 'x'] := by decide
    have hb : '|' ∉ ['1', '.', '.', '2'] := by decide
    have hy : '|' ∉ ['y', '=', 'v'] := by decide
    refine (Plan.read_sort_bar false hx).trans (congrArg (Plan.step _) ?_)
    refine (Plan.read_descend_bar false _).trans (congrArg (Plan.step _) ?_)
    refine (Plan.read_select_bar true hb rfl).trans (congrArg (Plan.step _) ?_)
    exact Plan.read_sort false rest hy
  have hsort : Path.Step.move beside .standard [.detached [⟨0, 0⟩, ⟨0, 2⟩]]
      (.sort false ['&', 'x']) = .ok ([.detached [⟨0, 0⟩, ⟨0, 2⟩]], .standard) :=
    congrArg (fun roots => Except.ok (roots, _)) (sort_of_sortKey_eq_nil (by decide))
  have hdescend : Path.Step.move beside .standard [.detached [⟨0, 0⟩, ⟨0, 2⟩]] .descend =
      .ok ([.detached [⟨0, 0⟩, ⟨0, 2⟩], .node ⟨0, 0⟩, .node ⟨0, 1⟩, .node ⟨0, 2⟩],
        some 999997) := by cbv
  have hselect : Path.Step.move beside (some 999997) [.detached [⟨0, 0⟩, ⟨0, 2⟩], .node ⟨0, 0⟩,
      .node ⟨0, 1⟩, .node ⟨0, 2⟩] (.select 1 2) =
      .ok ([.detached [⟨0, 0⟩, ⟨0, 2⟩], .node ⟨0, 0⟩], some 999997) := rfl
  have hlast : Path.Step.move beside (some 999997) [.detached [⟨0, 0⟩, ⟨0, 2⟩], .node ⟨0, 0⟩]
      (.sort false ['y', '=', 'v']) =
      .ok ([.detached [⟨0, 0⟩, ⟨0, 2⟩], .node ⟨0, 0⟩], some 999997) :=
    congrArg (fun roots => Except.ok (roots, _)) (sort_of_sortKey_eq_nil (by decide))
  rw [hplan, Plan.run_step_of_ok hsort, Plan.run_step_of_ok hdescend, Plan.run_step_of_ok hselect,
    Plan.run_step_of_ok hlast]

/-- A path is not to have a descent: the detached root is a root of the last step too. -/
theorem path_with_descent :
    path beside [descent] (.detached [⟨0, 0⟩, ⟨0, 2⟩]) ⟨0, 1⟩ =
        .ok (['.', '!', '&'] ++ descent ++ ['=', 'v', '|', 'b']) ∧
      evaluate beside .standard (['.', '!', '&'] ++ descent ++ ['=', 'v', '|', 'b'])
        [.detached [⟨0, 0⟩, ⟨0, 2⟩]] = .ok [⟨0, 2⟩, ⟨0, 1⟩] := by
  constructor
  · have hchain : chain? beside [⟨0, 0⟩, ⟨0, 2⟩] [] ⟨0, 1⟩ = some [⟨0, 0⟩, ⟨0, 1⟩] := by cbv
    -- the name sorts what is there already, and nothing of that is a node
    have hname : selectsOnly beside (.detached [⟨0, 0⟩, ⟨0, 2⟩]) ⟨0, 0⟩ ['.', '!'] = .ok false := by
      have hsort : (Plan.read false ['.', '!']).run beside .standard
          [.detached [⟨0, 0⟩, ⟨0, 2⟩]] = .ok ([], .standard) := by
        have hplan : Plan.read false ['.', '!'] = .step (.sort false []) (Plan.read false ['.']) :=
          Plan.read_sort false none List.not_mem_nil
        rw [hplan, Plan.run_step_of_ok rfl, Path.run_self,
          sort_of_sortKey_eq_nil (by decide)]
        rfl
      rw [selectsOnly, evaluate_of_oneLine _ _ (by decide), hsort]
      rfl
    have hclause : selectsOnly beside (.detached [⟨0, 0⟩, ⟨0, 2⟩]) ⟨0, 0⟩
        (['.', '!', '&'] ++ descent ++ ['=', 'v']) = .ok true := by
      refine selectsOnly_eq_ok_true_iff.2 ((evaluate_of_oneLine _ _ (by decide) _).trans ?_)
      refine (congrArg (Except.map Prod.fst) (run_descent none)).trans ?_
      exact congrArg (Except.map Prod.fst) (Path.run_self _ _)
    have hfirst : expression beside [descent] (.detached [⟨0, 0⟩, ⟨0, 2⟩]) ⟨0, 0⟩ =
        .ok (['.', '!', '&'] ++ descent ++ ['=', 'v']) := by
      have hclauses : clauses beside ⟨0, 0⟩ [descent] = [['&'] ++ descent ++ ['=', 'v']] := rfl
      rw [expression, if_pos (by decide), hclauses]
      show lengthen beside _ _ ['.', '!'] _ = _
      rw [lengthen, hname]
      show lengthen beside _ _ (['.', '!', '&'] ++ descent ++ ['=', 'v']) [] = _
      rw [lengthen, hclause]
      rfl
    have hexprs : expressions beside [descent] (.detached [⟨0, 0⟩, ⟨0, 2⟩]) [⟨0, 0⟩, ⟨0, 1⟩] =
        .ok [['.', '!', '&'] ++ descent ++ ['=', 'v'], ['b']] :=
      expressions_cons_eq_ok_iff.2 ⟨_, _, hfirst,
        expressions_cons_eq_ok_iff.2 ⟨['b'], [],
          expression_of_evaluate_quote (by decide)
            (Path.evaluate_quote_of_isLiteral .standard (v := ['b']) (by decide) _), rfl, rfl⟩, rfl⟩
    unfold path
    rw [show Root.children _ (.detached [⟨0, 0⟩, ⟨0, 2⟩]) = [⟨0, 0⟩, ⟨0, 2⟩] from rfl, hchain]
    exact congrArg (Except.map _) hexprs
  · have hb : (Plan.read false ['b']).run beside (some 999997)
        [.detached [⟨0, 0⟩, ⟨0, 2⟩], .node ⟨0, 0⟩] = .ok ([⟨0, 2⟩, ⟨0, 1⟩], some 999997) :=
      (Path.run_of_spelled _ rfl (Path.Segment.spelled_quote ['b']) _).trans
        (congrArg (fun nodes => Except.ok (nodes, _)) (Path.filter_literal ['b'] _))
    refine (evaluate_of_oneLine _ _ (by decide) _).trans ?_
    refine (congrArg (Except.map Prod.fst) ((run_descent (some ['b'])).trans hb)).trans ?_
    rfl

end TreeQuery.Locator
