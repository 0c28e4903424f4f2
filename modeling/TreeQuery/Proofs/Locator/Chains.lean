import TreeQuery.Proofs.Access.Slots
import TreeQuery.Proofs.Locator.Soundness
import TreeQuery.Proofs.Path.Faults

/-!
# The way up

A path to a node is sought from below. One turn of the ascent goes from a node to its parent, until it
stands on a child of the root or there is no new node to go to. A cycle of parents is no trouble, as each
turn comes to another node of the same tree (`Ascent.repeatUpTo_turn`).

What each turn keeps (`Ascent.Climbed`) says what the end means: there is no chain exactly if no node
above the target is a child of the root (`chain?_eq_none_iff`). In a chain, each node is a child of the
one before it. So an expression for a node of the chain is never sought below a node that it is not a
child of, and only the target can be reported as such (`ascent_ends_and_blames_target`).
-/

namespace TreeQuery

open TreeQuery.Path (Turn repeatUpTo)

/-- The node itself, its parent, the parent of that one and so on. -/
inductive Forest.Above (forest : Forest) (node : Node) : Node → Prop
  | self : Above forest node node
  | parent {n parent : Node} :
      Above forest node n → forest.parent? n = some parent → Above forest node parent

/-- Nodes that have their parents among them have everything above them among them. -/
theorem Forest.Above.mem_of_closed {forest : Forest} {node n : Node} {nodes : List Node}
    (h : forest.Above node n) (hnode : node ∈ nodes)
    (hclosed : ∀ m ∈ nodes, ∀ parent, forest.parent? m = some parent → parent ∈ nodes) :
    n ∈ nodes := by
  induction h with
  | self => exact hnode
  | parent _ hp ih => exact hclosed _ ih _ hp

/-- **A child reports a parent that lists it.** -/
theorem Forest.mem_children_of_parent? {forest : Forest} (hf : ∀ tree ∈ forest, tree.IsBuilt)
    {node parent : Node} (h : forest.parent? node = some parent) :
    node ∈ forest.children parent := by
  obtain ⟨s, hs, rfl⟩ := Option.map_eq_some_iff.1 h
  obtain ⟨r, hr, hparent⟩ := Option.bind_eq_some_iff.1 hs
  obtain ⟨tree, htree, hrecord⟩ := Option.bind_eq_some_iff.1 hr
  have hbuilt := hf tree (List.mem_of_getElem? htree)
  have hs : s < tree.size := (hbuilt.closed _ r hrecord).2 s hparent
  have hmem : node.slot ∈ (tree.recordAt s).children := by
    refine hbuilt.mem_children_of_parent ?_
    rw [Tree.recordAt, hrecord]
    exact hparent
  rw [children, record?, htree, Option.bind_some, Tree.record?_of_lt hs]
  exact List.mem_map.2 ⟨node.slot, hmem, rfl⟩

namespace Locator

variable {forest : Forest} {top : List Node} {target : Node}

/-- A chain to a node is one to its parent, unless the way up ends there. -/
theorem chain?_eq_bind {seen : List Node} {node : Node} (hseen : node ∉ seen) (htop : node ∉ top) :
    chain? forest top seen node = (forest.parent? node).bind fun parent =>
      (chain? forest top (node :: seen) parent).map (· ++ [node]) := by
  rw [chain?, if_neg hseen, if_neg htop]
  split <;> next hp => simp [hp]

/-- Where the way up from a target stands. -/
structure Ascent where
  node : Node
  /-- The nodes that were passed, the target last. -/
  below : List Node := []
  /-- The nodes that were come to. -/
  seen : List Node

namespace Ascent

/-- The beginning of the way up. -/
def start (target : Node) : Ascent := { node := target, seen := [target] }

/-- Goes up to the parent, unless the node is one of `top` or the parent was come to before. -/
def turn (forest : Forest) (top : List Node) (a : Ascent) : Turn Ascent (Option (List Node)) :=
  if a.node ∈ top then .over (some (a.node :: a.below))
  else
    match forest.parent? a.node with
    | none => .over none
    | some parent =>
      if parent ∈ a.seen then .over none
      else .next { node := parent, below := a.node :: a.below, seen := parent :: a.seen }

/-! ## The end of the way -/

/-- The way up ends, with the chain: it comes to each of the nodes once that it can come to. -/
theorem repeatUpTo_turn {nodes : List Node}
    (hclosed : ∀ n ∈ nodes, ∀ parent, forest.parent? n = some parent → parent ∈ nodes)
    {limit : Nat} {node : Node} {seen : List Node} (below : List Node)
    (hnodup : (node :: seen).Nodup) (hsub : node :: seen ⊆ nodes)
    (hlimit : nodes.length ≤ limit + seen.length) :
    repeatUpTo (turn forest top) limit { node, below, seen := node :: seen } =
      some ((chain? forest top seen node).map (· ++ below)) := by
  induction limit generalizing node seen below with
  | zero =>
    have hle : (node :: seen).length ≤ nodes.length := (hnodup.subperm hsub).length_le
    rw [List.length_cons] at hle
    omega
  | succ limit ih =>
    have hnew := (List.nodup_cons.1 hnodup).1
    rw [repeatUpTo, turn]
    by_cases htop : node ∈ top
    · rw [if_pos htop, chain?, if_neg hnew, if_pos htop]
      rfl
    · rw [if_neg htop, chain?_eq_bind hnew htop]
      cases hp : forest.parent? node with
      | none => rfl
      | some parent =>
        by_cases hseen : parent ∈ node :: seen
        · simp only [hseen, if_true, Option.bind_some]
          rw [chain?, if_pos hseen]
          rfl
        · simp only [hseen, if_false, Option.bind_some]
          have hparent := hclosed node (hsub List.mem_cons_self) parent hp
          rw [ih (node :: below) (List.nodup_cons.2 ⟨hseen, hnodup⟩)
            (List.cons_subset.2 ⟨hparent, hsub⟩) (by rw [List.length_cons]; omega), Option.map_map]
          refine congrArg some (Option.map_congr fun chain _ => ?_)
          exact List.append_cons chain node below

/-! ## What a turn keeps -/

/-- The nodes that were come to lead from the target up, each to its parent, and those that were passed
are none of `top`. -/
structure Climbed (forest : Forest) (top : List Node) (target : Node) (a : Ascent) : Prop where
  above : forest.Above target a.node
  linked : (a.node :: a.below).IsChain fun parent child => forest.parent? child = some parent
  seen_eq : ∀ n, n ∈ a.seen ↔ n ∈ a.node :: a.below
  target_mem : target ∈ a.node :: a.below
  below_not_mem : ∀ n ∈ a.below, n ∉ top

theorem climbed_start : (start target).Climbed forest top target where
  above := .self
  linked := .singleton target
  seen_eq _ := Iff.rfl
  target_mem := List.mem_cons_self
  below_not_mem _ hn := absurd hn List.not_mem_nil

/-- **A turn goes on along the parents.** -/
theorem Climbed.next {a b : Ascent} (h : a.Climbed forest top target)
    (hturn : a.turn forest top = .next b) : b.Climbed forest top target := by
  unfold turn at hturn
  split at hturn
  · cases hturn
  · next htop =>
    split at hturn
    · cases hturn
    · next parent hp =>
      split at hturn <;> cases hturn
      exact {
        above := h.above.parent hp
        linked := .cons_cons hp h.linked
        seen_eq := fun n => by rw [List.mem_cons, List.mem_cons, h.seen_eq]
        target_mem := List.mem_cons_of_mem _ h.target_mem
        below_not_mem := List.forall_mem_cons.2 ⟨htop, h.below_not_mem⟩ }

/-- In a chain of parents, all but the first have their parent in it. -/
theorem parent_mem_of_isChain {first : Node} {rest : List Node}
    (h : (first :: rest).IsChain fun parent child => forest.parent? child = some parent)
    {n parent : Node} (hn : n ∈ rest) (hp : forest.parent? n = some parent) :
    parent ∈ first :: rest := by
  induction rest generalizing first with
  | nil => cases hn
  | cons second rest ih =>
    obtain ⟨hsecond, hrest⟩ := List.isChain_cons_cons.1 h
    rcases List.mem_cons.1 hn with rfl | hn
    · obtain rfl := Option.some.inj (hsecond.symm.trans hp)
      exact List.mem_cons_self
    · exact List.mem_cons_of_mem _ (ih hrest hn)

/-- What the end of the way says: a chain leads down from one of `top`, and if there is none, nothing
above the target is one of `top`. -/
def Ends (forest : Forest) (top : List Node) (target : Node) : Option (List Node) → Prop
  | none => ∀ n, forest.Above target n → n ∉ top
  | some chain =>
    chain.IsChain (fun parent child => forest.parent? child = some parent) ∧
      ∃ first ∈ chain.head?, first ∈ top ∧ forest.Above target first

/-- **The last turn ends where nothing is left to go up to.** -/
theorem Climbed.ends {a : Ascent} {result : Option (List Node)} (h : a.Climbed forest top target)
    (hturn : a.turn forest top = .over result) : Ends forest top target result := by
  -- without a way on, the nodes that were come to have their parents among them
  have hnone (htop : a.node ∉ top)
      (hparent : ∀ parent, forest.parent? a.node = some parent → parent ∈ a.node :: a.below) :
      Ends forest top target none := by
    intro n hn
    have hmem : n ∈ a.node :: a.below :=
      hn.mem_of_closed h.target_mem (List.forall_mem_cons.2 ⟨hparent,
        fun m hm parent hp => parent_mem_of_isChain h.linked hm hp⟩)
    rcases List.mem_cons.1 hmem with rfl | hmem
    · exact htop
    · exact h.below_not_mem n hmem
  unfold turn at hturn
  split at hturn
  · next htop =>
    cases hturn
    exact ⟨h.linked, a.node, rfl, htop, h.above⟩
  · next htop =>
    split at hturn
    · next hp =>
      cases hturn
      exact hnone htop fun parent hparent => absurd (hp.symm.trans hparent) nofun
    · next parent hp =>
      split at hturn <;> cases hturn
      next hseen =>
        refine hnone htop fun parent' hp' => ?_
        obtain rfl := Option.some.inj (hp.symm.trans hp')
        exact (h.seen_eq parent).1 hseen

theorem Climbed.ends_of_repeatUpTo {a : Ascent} {limit : Nat} {result : Option (List Node)}
    (h : a.Climbed forest top target) (hrun : repeatUpTo (turn forest top) limit a = some result) :
    Ends forest top target result := by
  induction limit generalizing a with
  | zero => cases hrun
  | succ limit ih =>
    rcases hturn : a.turn forest top with result' | b
    · rw [Path.repeatUpTo_of_over hturn] at hrun
      cases hrun
      exact h.ends hturn
    · rw [Path.repeatUpTo_of_next hturn] at hrun
      exact ih (h.next hturn) hrun

/-- A tree has as many nodes to go up to as it has slots. -/
theorem repeatUpTo_start (hf : ∀ tree ∈ forest, tree.IsBuilt) (top : List Node) {tree : Tree}
    (ht : forest[target.tree]? = some tree) (hs : target.slot < tree.size) :
    repeatUpTo (turn forest top) tree.size (start target) =
      some (chain? forest top [] target) := by
  have hclosed : ∀ n ∈ (List.range tree.size).map (Node.mk target.tree),
      ∀ parent, forest.parent? n = some parent →
        parent ∈ (List.range tree.size).map (Node.mk target.tree) := by
    intro n hn parent hp
    obtain ⟨s, hs, rfl⟩ := List.mem_map.1 hn
    obtain ⟨p, hlink, rfl⟩ := Option.map_eq_some_iff.1 hp
    obtain ⟨r, hr, hparent⟩ := Option.bind_eq_some_iff.1 hlink
    obtain ⟨tree', ht', hrecord⟩ := Option.bind_eq_some_iff.1 hr
    obtain rfl := Option.some.inj (ht.symm.trans ht')
    have hlt := ((hf tree (List.mem_of_getElem? ht)).closed s r hrecord).2 p hparent
    exact List.mem_map_of_mem (List.mem_range.2 hlt)
  have hmem : target ∈ (List.range tree.size).map (Node.mk target.tree) :=
    List.mem_map_of_mem (List.mem_range.2 hs)
  refine (repeatUpTo_turn hclosed [] (List.nodup_singleton target)
    (List.cons_subset.2 ⟨hmem, List.nil_subset _⟩) (by simp)).trans ?_
  simp

end Ascent

theorem ends_of_chain? (hf : ∀ tree ∈ forest, tree.IsBuilt) (top : List Node) {tree : Tree}
    (ht : forest[target.tree]? = some tree) (hs : target.slot < tree.size) :
    Ascent.Ends forest top target (chain? forest top [] target) :=
  Ascent.climbed_start.ends_of_repeatUpTo (Ascent.repeatUpTo_start hf top ht hs)

/-- **There is no chain exactly if there is nothing to begin it with.** -/
theorem chain?_eq_none_iff (hf : ∀ tree ∈ forest, tree.IsBuilt) {tree : Tree}
    (ht : forest[target.tree]? = some tree) (hs : target.slot < tree.size) :
    chain? forest top [] target = none ↔ ∀ n, forest.Above target n → n ∉ top := by
  have hends := ends_of_chain? hf top ht hs
  cases hchain : chain? forest top [] target with
  | none =>
    rw [hchain] at hends
    exact iff_of_true rfl hends
  | some chain =>
    rw [hchain] at hends
    obtain ⟨-, first, -, htop, habove⟩ := hends
    exact iff_of_false nofun fun h => h first habove htop

/-! ## Expressions along a chain -/

/-- What expressions are sought for a chain of nodes: each node below the one before it. -/
def calls (root : Root) : List Node → List (Root × Node)
  | [] => []
  | node :: nodes => (root, node) :: calls (.node node) nodes

variable {params : List Text} {root : Root} {e : Error}

theorem expressions_eq_mapM (chain : List Node) :
    expressions forest params root chain =
      (calls root chain).mapM fun call => expression forest params call.1 call.2 := by
  induction chain generalizing root with
  | nil => rfl
  | cons node nodes ih => rw [expressions, calls, List.mapM_cons, ih]

theorem exists_of_expressions_eq_error {chain : List Node}
    (h : expressions forest params root chain = .error e) :
    ∃ call ∈ calls root chain, expression forest params call.1 call.2 = .error e := by
  rw [expressions_eq_mapM] at h
  generalize calls root chain = cs at h
  induction cs with
  | nil => cases h
  | cons call cs ih =>
    rw [List.mapM_cons] at h
    cases hcall : expression forest params call.1 call.2 with
    | error e' =>
      rw [hcall] at h
      cases h
      exact ⟨call, List.mem_cons_self, hcall⟩
    | ok expr =>
      rw [hcall] at h
      cases hrest : cs.mapM fun call => expression forest params call.1 call.2 with
      | error e' =>
        rw [hrest] at h
        cases h
        obtain ⟨call', hmem, he⟩ := ih hrest
        exact ⟨call', List.mem_cons_of_mem _ hmem, he⟩
      | ok exprs =>
        rw [hrest] at h
        cases h

theorem selectsOnly_ne_notAChild (expr x : Text) :
    selectsOnly forest root target expr ≠ .error (.notAChild x) := by
  intro h
  unfold selectsOnly at h
  cases he : Path.evaluate forest .standard expr [root] with
  | error e =>
    rw [he] at h
    cases h
    obtain hfuel | hfault := Path.isFault_of_evaluate he
    · cases hfuel
    · exact hfault
  | ok found =>
    rw [he] at h
    cases h

/-- Lengthening does not ask whose child the target is. -/
theorem lengthen_ne_notAChild (expr : Text) (cs : List Text) (x : Text) :
    lengthen forest root target expr cs ≠ .error (.notAChild x) := by
  induction cs generalizing expr with
  | nil =>
    intro h
    rw [lengthen] at h
    rcases hs : selectsOnly forest root target expr with e | selects
    · rw [hs] at h
      cases h
      exact selectsOnly_ne_notAChild expr x hs
    · rw [hs] at h
      cases selects <;> cases h
  | cons c cs ih =>
    intro h
    rw [lengthen] at h
    rcases hs : selectsOnly forest root target expr with e | selects
    · rw [hs] at h
      cases h
      exact selectsOnly_ne_notAChild expr x hs
    · rw [hs] at h
      cases selects with
      | false => exact ih (expr ++ c) h
      | true => cases h

theorem expression_ne_notAChild (h : target ∈ root.children forest) (x : Text) :
    expression forest params root target ≠ .error (.notAChild x) := by
  rw [expression, if_pos h]
  exact lengthen_ne_notAChild _ _ x

/-- **The expressions of a chain are sought among children.** -/
theorem mem_children_of_mem_calls (hf : ∀ tree ∈ forest, tree.IsBuilt) {chain : List Node}
    (hlinked : chain.IsChain fun parent child => forest.parent? child = some parent)
    (hfirst : ∀ first ∈ chain.head?, first ∈ root.children forest) :
    ∀ call ∈ calls root chain, call.2 ∈ call.1.children forest := by
  induction chain generalizing root with
  | nil => exact fun call hcall => absurd hcall List.not_mem_nil
  | cons node nodes ih =>
    obtain ⟨hnext, hrest⟩ := List.isChain_cons.1 hlinked
    refine List.forall_mem_cons.2 ⟨hfirst node rfl, ih hrest fun next hn => ?_⟩
    exact Forest.mem_children_of_parent? hf (hnext next hn)

theorem expression_ne_notAChild_of_chain (hf : ∀ tree ∈ forest, tree.IsBuilt) {tree : Tree}
    (ht : forest[target.tree]? = some tree) (hs : target.slot < tree.size) {chain : List Node}
    (hchain : chain? forest (root.children forest) [] target = some chain) :
    ∀ call ∈ calls root chain, ∀ x, expression forest params call.1 call.2 ≠
      .error (.notAChild x) := by
  have hends := ends_of_chain? hf (root.children forest) ht hs
  rw [hchain] at hends
  obtain ⟨hlinked, first, hfirst, htop, -⟩ := hends
  intro call hcall
  refine expression_ne_notAChild (mem_children_of_mem_calls hf hlinked ?_ call hcall)
  intro first' hfirst'
  rwa [← Option.some.inj (hfirst.symm.trans hfirst')]

theorem path_of_chain? {chain : List Node}
    (hchain : chain? forest (root.children forest) [] target = some chain) :
    path forest params root target =
      (expressions forest params root chain).map (['|'].intercalate ·) := by
  rw [path, hchain]

variable (target) in
/-- **The way up ends, and only the target is ever blamed.** It takes at most one turn for each node of
the target's tree. The target is reported not to be a child exactly if neither it nor anything above it
is a child of the root, under its own name, and no expression along a chain reports this. -/
theorem ascent_ends_and_blames_target (hf : ∀ tree ∈ forest, tree.IsBuilt) (params : List Text)
    (root : Root) {tree : Tree} (ht : forest[target.tree]? = some tree)
    (hs : target.slot < tree.size) :
    repeatUpTo (Ascent.turn forest (root.children forest)) tree.size (Ascent.start target) =
        some (chain? forest (root.children forest) [] target) ∧
      (∀ x, path forest params root target = .error (.notAChild x) ↔
        x = forest.name target ∧ ∀ n, forest.Above target n → n ∉ root.children forest) ∧
      ∀ chain, chain? forest (root.children forest) [] target = some chain →
        ∀ call ∈ calls root chain, ∀ x,
          expression forest params call.1 call.2 ≠ .error (.notAChild x) := by
  refine ⟨Ascent.repeatUpTo_start hf _ ht hs, fun x => ?_,
    fun chain hchain => expression_ne_notAChild_of_chain hf ht hs hchain⟩
  rw [← chain?_eq_none_iff hf ht hs]
  cases hchain : chain? forest (root.children forest) [] target with
  | none =>
    rw [path, hchain]
    constructor
    · intro h
      cases h
      exact ⟨rfl, rfl⟩
    · rintro ⟨rfl, -⟩
      rfl
  | some chain =>
    refine iff_of_false (fun h => ?_) fun h => absurd h.2 nofun
    rw [path_of_chain? hchain] at h
    cases he : expressions forest params root chain with
    | error e =>
      rw [he] at h
      cases h
      obtain ⟨call, hcall, hexpr⟩ := exists_of_expressions_eq_error he
      exact expression_ne_notAChild_of_chain hf ht hs hchain call hcall x hexpr
    | ok exprs =>
      rw [he] at h
      cases h

/-- Two nodes, each the parent of the other, and a node of another tree. -/
def cycle : Forest :=
  [Tree.build [.node ['a'], .node ['b'], .child 0 1, .child 1 0], Tree.build [.node ['c']]]

theorem ascent_of_cycle :
    (∀ tree ∈ cycle, tree.IsBuilt) ∧
      repeatUpTo (Ascent.turn cycle []) 2 (Ascent.start ⟨0, 1⟩) = some (chain? cycle [] [] ⟨0, 1⟩) ∧
      path cycle [] (.node ⟨1, 0⟩) ⟨0, 1⟩ = .error (.notAChild ['b']) := by
  have hf : ∀ tree ∈ cycle, tree.IsBuilt :=
    List.forall_mem_cons.2 ⟨⟨_, rfl⟩, List.forall_mem_singleton.2 ⟨_, rfl⟩⟩
  obtain ⟨hturns, hpath, -⟩ :=
    ascent_ends_and_blames_target ⟨0, 1⟩ hf [] (.node ⟨1, 0⟩) rfl (by decide)
  exact ⟨hf, hturns, (hpath ['b']).2 ⟨rfl, fun n _ => List.not_mem_nil⟩⟩

end Locator

end TreeQuery
