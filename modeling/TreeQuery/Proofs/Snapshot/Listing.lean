import Mathlib.Data.Set.Finite.Basic
import TreeQuery.Display
import TreeQuery.Proofs.Path.Search
import TreeQuery.Proofs.Path.Turns
import TreeQuery.Proofs.Snapshot.Planting

/-!
# The listing of a snapshot

Three traversals go through the tree of a snapshot: planting fills its slots, the listing indents
each node by its depth, and a descent meets each node once. They agree on the order
(`listing_eq_descent`), because each of them follows the stretches of slots that planting leaves
(`Tree.Holds`): the listing needs no look at the ancestors and the descent no look at the visited
nodes, since all of these are in earlier slots. So a loop that takes the nodes off a stack, and looks
back at none of them, prints the listing too (`Display.Pending.repeatUpTo_of_holds`).
-/

namespace TreeQuery

/-! ## Depth -/

namespace Tree

variable {tree : Tree} {start stop : Nat} {slots : List Nat} {outlines : List Outline}

/-- Whether the node in one slot has the node in another as its parent. -/
def HasParent (tree : Tree) (c p : Nat) : Prop := (tree.recordAt c).parent = some p

/-- The slots of the ancestors of the node in a slot. -/
def ancestors (tree : Tree) (slot : Nat) : Set Nat := {a | Relation.TransGen tree.HasParent slot a}

/-- The number of ancestors. -/
noncomputable def depth (tree : Tree) (slot : Nat) : Nat := (tree.ancestors slot).ncard

theorem depth_of_parent_eq_none {c : Nat} (h : (tree.recordAt c).parent = none) :
    tree.depth c = 0 := by
  have hnone : tree.ancestors c = ∅ := by
    ext a
    refine iff_of_false (fun ha => ?_) (Set.notMem_empty a)
    obtain ⟨p, hp, -⟩ := Relation.TransGen.head'_iff.1 ha
    cases h.symm.trans hp
  rw [depth, hnone, Set.ncard_empty]

theorem ancestors_of_hasParent {c p : Nat} (h : tree.HasParent c p) :
    tree.ancestors c = insert p (tree.ancestors p) := by
  ext a
  constructor
  · intro ha
    obtain ⟨q, hq, hr⟩ := Relation.TransGen.head'_iff.1 ha
    cases h.symm.trans hq
    exact (Relation.reflTransGen_iff_eq_or_transGen.1 hr).imp_left fun he => he
  · rintro (rfl | ha)
    · exact .single h
    · exact .head h ha

/-- A node is one level deeper than its parent, where parents come first. -/
theorem depth_of_hasParent (hlt : ∀ c p, tree.HasParent c p → p < c) {c p : Nat}
    (h : tree.HasParent c p) : tree.depth c = tree.depth p + 1 := by
  have habove : ∀ a ∈ tree.ancestors p, a < p := by
    intro a ha
    induction ha with
    | single hp => exact hlt _ _ hp
    | tail _ hp ih => exact Nat.lt_trans (hlt _ _ hp) ih
  have hfinite : (tree.ancestors p).Finite := (Set.finite_lt_nat p).subset habove
  rw [depth, ancestors_of_hasParent h,
    Set.ncard_insert_of_notMem (fun hp => Nat.lt_irrefl p (habove p hp)) hfinite, depth]

/-- In a stretch, children come after their parent. -/
theorem Holds.lt_of_mem_children (h : tree.Holds start stop slots outlines) {c p : Nat}
    (hp : start ≤ p) (hlt : p < stop) (hc : c ∈ (tree.recordAt p).children) : p < c := by
  induction h with
  | nil => omega
  | @cons start mid stop slots name params children rest _ _ hchildren hrest ih ih' =>
    rcases Nat.lt_trichotomy p start with h | rfl | h
    · omega
    · exact (List.Ico.mem.1 (hchildren.sublist_Ico.subset hc)).1
    · rcases Nat.lt_or_ge p mid with hm | hm
      · exact ih h hm
      · exact ih' hm hlt

/-- Where a stretch is the whole of a built tree, a node is one level deeper than the one that lists
it as a child. -/
theorem Holds.depth_of_mem_children (h : tree.Holds 0 tree.size slots outlines) (hb : tree.IsBuilt)
    {c p : Nat} (hc : c ∈ (tree.recordAt p).children) : tree.depth c = tree.depth p + 1 := by
  have hlt : ∀ c p, tree.HasParent c p → p < c := by
    intro c p hp
    have hm := hb.mem_children_of_parent hp
    exact h.lt_of_mem_children (Nat.zero_le p) (lt_size_of_mem_children hm) hm
  obtain ⟨q, hq⟩ := Option.ne_none_iff_exists'.1 fun hn => hb.parent_eq_none_iff.1 hn p hc
  have hcount := h.count_children hb hq p
  split at hcount
  · next he => exact depth_of_hasParent hlt (he ▸ hq)
  · exact absurd hc (List.count_eq_zero.1 hcount)

end Tree

/-! ## Nodes of a tree in a forest -/

namespace Forest

variable {forest : Forest} {tree : Tree} {i : Nat}

theorem children_eq (h : forest[i]? = some tree) (s : Nat) :
    forest.children ⟨i, s⟩ = (tree.recordAt s).children.map (Node.mk i) := by
  have hrecord : forest.record? ⟨i, s⟩ = tree.record? s := by
    rw [record?, h]
    rfl
  rw [children, hrecord, Tree.recordAt]
  cases tree.record? s <;> rfl

theorem desktop_eq (h : forest[i]? = some tree) :
    forest.desktop i = .detached (tree.roots.map (Node.mk i)) := by
  rw [desktop, h]
  rfl

end Forest

/-! ## Listing off a stack -/

namespace Display

variable (forest : Forest) (palette : Palette)

/-- How a node is shown at a depth. -/
def entry (depth : Nat) (node : Node) : Text :=
  List.replicate (2 * depth) ' ' ++ nodeLine forest palette node ++ ['\n']

/-- Where a loop that lists nodes stands. -/
structure Pending where
  /-- The nodes on the stack, each with its depth. The topmost comes first. -/
  stack : List (Nat × Node)
  /-- What has been printed. -/
  output : Text := []

/-- Shows the node that is taken off the stack, and puts its children there. -/
def Pending.turn (p : Pending) : Path.Turn Pending Text :=
  match p.stack with
  | [] => .over p.output
  | (depth, node) :: stack =>
    .next {
      stack := (forest.children node).map (Prod.mk (depth + 1)) ++ stack
      output := p.output ++ entry forest palette depth node }

end Display

/-! ## Traversals of a stretch -/

section

variable {forest : Forest} {tree : Tree} {i start stop : Nat} {slots : List Nat}
  {outlines : List Outline}

/-- The listing of a stretch shows its slots in order, each with its depth. -/
theorem Display.listBelow_of_holds (hi : forest[i]? = some tree)
    (hdepth : ∀ p c, c ∈ (tree.recordAt p).children → tree.depth c = tree.depth p + 1)
    (h : tree.Holds start stop slots outlines) {ancestors : List Node}
    (ha : ∀ a ∈ ancestors, a.slot < start) (hs : ∀ s ∈ slots, tree.depth s = ancestors.length) :
    listBelow forest ancestors (slots.map (Node.mk i)) =
      (List.Ico start stop).map fun s => (tree.depth s, ⟨i, s⟩) := by
  induction h generalizing ancestors with
  | nil => rw [List.Ico.self_empty, List.map_nil, listBelow]; rfl
  | @cons start mid stop slots name params children rest _ _ hchildren hrest ih ih' =>
    have hnot : Node.mk i start ∉ ancestors := fun hm => Nat.lt_irrefl _ (ha _ hm)
    have hstart := hs start List.mem_cons_self
    have hlt : ∀ a ∈ Node.mk i start :: ancestors, a.slot < start + 1 := by
      intro a hm
      rcases List.mem_cons.1 hm with rfl | hm
      · exact Nat.lt_succ_self _
      · exact Nat.lt_succ_of_lt (ha a hm)
    have hbelow := ih hlt fun s hm => by rw [hdepth start s hm, hstart, List.length_cons]
    have hafter := ih' (fun a hm => Nat.lt_of_lt_of_le (ha a hm) (Nat.le_of_succ_le hchildren.le))
      fun s hm => hs s (List.mem_cons_of_mem _ hm)
    rw [List.map_cons, listBelow, if_neg hnot, forest.children_eq hi, hbelow, hafter,
      Tree.Ico_eq_cons_append hchildren.le hrest.le, List.map_cons, List.map_append, hstart]

/-- A loop takes one turn for each slot of a stretch, and prints the slots in order. -/
theorem Display.Pending.repeatUpTo_of_holds (hi : forest[i]? = some tree)
    (hdepth : ∀ p c, c ∈ (tree.recordAt p).children → tree.depth c = tree.depth p + 1)
    (h : tree.Holds start stop slots outlines) (palette : Palette) {depth : Nat}
    (hs : ∀ s ∈ slots, tree.depth s = depth) (limit : Nat) (stack : List (Nat × Node))
    (output : Text) :
    Path.repeatUpTo (turn forest palette) (stop - start + limit)
        ⟨(slots.map (Node.mk i)).map (Prod.mk depth) ++ stack, output⟩ =
      Path.repeatUpTo (turn forest palette) limit
        ⟨stack, output ++ (List.Ico start stop).flatMap fun s =>
          entry forest palette (tree.depth s) ⟨i, s⟩⟩ := by
  induction h generalizing depth limit stack output with
  | nil => simp
  | @cons start mid stop slots name params children rest _ _ hchildren hrest ih ih' =>
    have hstart := hs start List.mem_cons_self
    have hturns : stop - start + limit = (mid - (start + 1) + (stop - mid + limit)) + 1 := by
      have := hchildren.le
      have := hrest.le
      omega
    have hturn : turn forest palette
          ⟨((start :: slots).map (Node.mk i)).map (Prod.mk depth) ++ stack, output⟩ =
        .next ⟨(forest.children ⟨i, start⟩).map (Prod.mk (depth + 1)) ++
            ((slots.map (Node.mk i)).map (Prod.mk depth) ++ stack),
          output ++ entry forest palette depth ⟨i, start⟩⟩ := rfl
    rw [hturns, Path.repeatUpTo_of_next hturn, forest.children_eq hi,
      ih fun s hm => by rw [hdepth start s hm, hstart], ih' fun s hm => hs s (List.mem_cons_of_mem _ hm),
      Tree.Ico_eq_cons_append hchildren.le hrest.le, List.flatMap_cons, List.flatMap_append, hstart,
      List.append_assoc, List.append_assoc]

/-- A descent through a stretch meets its slots in order. -/
theorem Path.Descent.met_of_holds (hi : forest[i]? = some tree)
    (h : tree.Holds start stop slots outlines) {visited : List Node}
    (hv : ∀ n ∈ visited, n.slot < start) :
    met forest visited (slots.map (Node.mk i)) = (List.Ico start stop).map (Node.mk i) := by
  induction h generalizing visited with
  | nil => rw [List.Ico.self_empty, List.map_nil, met_nil]
  | @cons start mid stop slots name params children rest _ _ hchildren hrest ih ih' =>
    have hnot : Node.mk i start ∉ visited := fun hm => Nat.lt_irrefl _ (hv _ hm)
    have hvisited : ∀ n ∈ Node.mk i start :: visited, n.slot < start + 1 := by
      intro n hm
      rcases List.mem_cons.1 hm with rfl | hm
      · exact Nat.lt_succ_self _
      · exact Nat.lt_succ_of_lt (hv n hm)
    rw [List.map_cons, met_cons_of_not_mem hnot, forest.children_eq hi, met_append, ih hvisited, ih',
      Tree.Ico_eq_cons_append hchildren.le hrest.le, List.map_cons, List.map_append]
    intro n hm
    rcases List.mem_append.1 hm with hm | hm
    · obtain ⟨s, hs, rfl⟩ := List.mem_map.1 (List.mem_reverse.1 hm)
      exact (List.Ico.mem.1 hs).2
    · exact Nat.lt_of_lt_of_le (hvisited n hm) hchildren.le

end

/-! ## A bare descent -/

theorem List.eraseDups_of_nodup {α : Type} [DecidableEq α] {l : List α} (h : l.Nodup) :
    l.eraseDups = l := by
  induction l with
  | nil => rfl
  | cons a l ih =>
    obtain ⟨ha, hl⟩ := List.nodup_cons.1 h
    have hfilter : l.filter (fun b => !b == a) = l := by
      refine List.filter_eq_self.2 fun b hb => ?_
      rw [Bool.not_eq_true', beq_eq_false_iff_ne]
      rintro rfl
      exact ha hb
    rw [List.eraseDups_cons, hfilter, ih hl]

/-- A descent alone finds the nodes that it meets, in order. -/
theorem Path.evaluate_descent {forest : Forest} {fuel : Fuel} {roots : List Root}
    (h : fuel.Covers (reached forest roots).length) :
    evaluate forest fuel ['*', '*'] roots = .ok (reached forest roots) := by
  have hfound : filter forest true { name := Pattern.lone }
      ((expand forest roots).map Root.singleton) = reached forest roots := by
    show (((expand forest roots).map Root.singleton).flatMap _ |>.filter _).eraseDups = _
    rw [flatMap_children_singleton, filterMap_expand,
      List.filter_eq_self.2 fun n _ => Segment.accepts_lone n,
      List.eraseDups_of_nodup (nodup_reached roots)]
  have hl : OneLine ['*', '*'] := by decide
  have hdemand : demand forest ['*', '*'] roots = (reached forest roots).length := by
    rw [demand_of_descend hl read_descent (fun _ => rfl), ncard_reaches]
  rw [evaluate_of_covers (hdemand ▸ h)]
  exact evaluate_of_outcome hl (by rw [read_descent]; exact congrArg Except.ok hfound)

/-! ## Listings -/

/-- Nodes, one a line, each behind some blanks. -/
def Display.indented (forest : Forest) (palette : Palette) (indent : Node → Nat) (ns : List Node) :
    Text :=
  ns.flatMap fun n => List.replicate (indent n) ' ' ++ nodeLine forest palette n ++ ['\n']

namespace Outline

/-- **The listing of a snapshot shows its slots in order, and a descent finds them in the same
order.** The listing is printed off a stack, in one turn for each slot and a last one. It indents each
node by two blanks for each of its ancestors; apart from that it shows what the nodes that the descent
finds are shown as. -/
theorem listing_eq_descent {outlines : List Outline} {forest : Forest} {i : Nat}
    (hi : forest[i]? = some (plantAll outlines)) {fuel : Fuel}
    (hf : fuel.Covers (plantAll outlines).size) (palette : Palette) :
    let tree := plantAll outlines
    let all := (List.range tree.size).map (Node.mk i)
    Path.repeatUpTo (Display.Pending.turn forest palette) (tree.size + 1)
        { stack := ((forest.desktop i).children forest).map (Prod.mk 0) } =
      some (Display.listing forest palette ((forest.desktop i).children forest)) ∧
    Display.listing forest palette ((forest.desktop i).children forest) =
      Display.indented forest palette (fun n => 2 * tree.depth n.slot) all ∧
    Path.evaluate forest fuel ['*', '*'] [forest.desktop i] = .ok all ∧
    Display.nodes forest palette all = Display.indented forest palette (fun _ => 0) all := by
  intro tree all
  obtain ⟨slots, hslots⟩ := holds_plantAll outlines
  have hb : tree.IsBuilt := isBuilt_plantAll outlines
  have hroots : tree.roots = slots := hslots.roots_eq hb
  have hdesktop : forest.desktop i = .detached (slots.map (Node.mk i)) :=
    (forest.desktop_eq hi).trans (by rw [← hroots])
  have hreached : Path.reached forest [forest.desktop i] = all := by
    have hmet := Path.Descent.met_of_holds hi hslots (List.forall_mem_nil _)
    rw [hdesktop, Path.reached, List.flatMap_cons, List.flatMap_nil, List.append_nil, Root.entries,
      hmet, List.Ico.zero_bot]
  have hdepth : ∀ p c, c ∈ (tree.recordAt p).children → tree.depth c = tree.depth p + 1 :=
    fun p c => hslots.depth_of_mem_children hb
  have htop : ∀ s ∈ slots, tree.depth s = 0 := fun s hs =>
    Tree.depth_of_parent_eq_none (Tree.mem_roots_iff.1 (hroots ▸ hs)).2
  have hlisting : Display.listing forest palette ((forest.desktop i).children forest) =
      Display.indented forest palette (fun n => 2 * tree.depth n.slot) all := by
    rw [hdesktop, Display.listing, Root.children,
      Display.listBelow_of_holds hi hdepth hslots (List.forall_mem_nil _) htop, List.Ico.zero_bot,
      Display.indented, List.flatMap_map, List.flatMap_map]
  refine ⟨?_, hlisting, ?_, rfl⟩
  · have hloop := Display.Pending.repeatUpTo_of_holds hi hdepth hslots palette htop 1 [] []
    rw [List.append_nil, Nat.sub_zero, List.nil_append, List.Ico.zero_bot] at hloop
    rw [hlisting, hdesktop, Root.children, hloop, Display.indented, List.flatMap_map]
    exact Path.repeatUpTo_of_over rfl 0
  · rw [← hreached]
    refine Path.evaluate_descent ?_
    rw [hreached, List.length_map, List.length_range]
    exact hf

/-- A node with two children, the first of which has one of its own, and fuel for these four. -/
theorem listing_eq_descent_of_four :
    let outlines : List Outline := [⟨['a'], [], [⟨['b'], [], [⟨['c'], [], []⟩]⟩, ⟨['d'], [], []⟩]⟩]
    let forest : Forest := [Tree.empty, plantAll outlines]
    let all : List Node := [⟨1, 0⟩, ⟨1, 1⟩, ⟨1, 2⟩, ⟨1, 3⟩]
    forest[1]? = some (plantAll outlines) ∧ Fuel.Covers (some 4) (plantAll outlines).size ∧
      Path.evaluate forest (some 4) ['*', '*'] [forest.desktop 1] = .ok all ∧
      Display.listing forest .plain ((forest.desktop 1).children forest) =
        "a\n  b\n    c\n  d\n".toList := by
  intro outlines forest all
  have hf : Fuel.Covers (some 4) (plantAll outlines).size := by
    rintro _ ⟨rfl⟩
    decide
  have hi : forest[1]? = some (plantAll outlines) := rfl
  obtain ⟨hloop, -, hfound, -⟩ := listing_eq_descent hi hf .plain
  exact ⟨hi, hf, hfound, Option.some.inj (hloop.symm.trans (by decide +kernel))⟩

end Outline

end TreeQuery
