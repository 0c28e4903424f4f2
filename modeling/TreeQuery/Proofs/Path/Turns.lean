import Mathlib.Algebra.BigOperators.Finprod
import TreeQuery.Proofs.Path.Opening
import TreeQuery.Proofs.Path.Outcome

/-!
# How many turns a path takes

A line is followed in turns. Each reads the segment that the line begins with, moves the frontier and
goes on with the rest. The rest need not be shorter: a dot becomes a star, and an operator at the end of
a line goes on with a dot. Still a line takes at most one turn more than it has characters
(`Stage.endsWithin_length`), because the star and the added dot each come after something longer.

A descent takes its nodes off a stack, and puts the children of each new one there. On cycles and
repeated links the stack grows, but each entry is either there at the start or comes from a link of a
node that is met for the first time, and no node is met twice (`Descending.exists_repeatUpTo_roots`).

Neither is true because of the fuel: both bounds hold without any limit (`turns_and_pops_le`).
-/

namespace TreeQuery.Path

open Plan (bounds? opening opening_cases opening_star restOf sortStep)

/-! ## Loops -/

/-- What comes of one turn of a loop. -/
inductive Turn (σ ρ : Type) where
  | over (result : ρ)
  | next (state : σ)

/-- Repeats a turn until it gives a result, or until as many turns as are allowed have been taken. -/
def repeatUpTo {σ ρ : Type} (turn : σ → Turn σ ρ) : Nat → σ → Option ρ
  | 0, _ => none
  | limit + 1, s =>
    match turn s with
    | .over result => some result
    | .next s => repeatUpTo turn limit s

section Loop

variable {σ ρ : Type} {turn : σ → Turn σ ρ} {s s' : σ} {result : ρ}

theorem repeatUpTo_of_over (h : turn s = .over result) (limit : Nat) :
    repeatUpTo turn (limit + 1) s = some result := by
  rw [repeatUpTo, h]

theorem repeatUpTo_of_next (h : turn s = .next s') (limit : Nat) :
    repeatUpTo turn (limit + 1) s = repeatUpTo turn limit s' := by
  rw [repeatUpTo, h]

/-- A loop that has ended is not changed by a higher limit. -/
theorem repeatUpTo_of_le {limit more : Nat} (h : repeatUpTo turn limit s = some result)
    (hle : limit ≤ more) : repeatUpTo turn more s = some result := by
  induction limit generalizing s more with
  | zero => cases h
  | succ limit ih =>
    obtain ⟨more, rfl⟩ := Nat.exists_eq_add_of_le' (Nat.le_trans (Nat.le_add_left 1 limit) hle)
    rw [repeatUpTo] at h ⊢
    split at h
    · exact h
    · exact ih h (Nat.le_of_succ_le_succ hle)

end Loop

/-! ## Lines -/

/-- Where the following of a line stands. -/
structure Stage where
  /-- What is left of the line. -/
  text : Text
  /-- Whether the next filter keeps each node once. -/
  distinct : Bool := false
  fuel : Fuel
  roots : List Root

namespace Stage

variable {forest : Forest}

/-- Moves the frontier, and goes on with the rest of the line unless the fuel runs out. -/
def move (forest : Forest) (s : Stage) (step : Step) (distinct : Bool) (rest : Text) :
    Turn Stage (Except Error (List Node × Fuel)) :=
  match step.move forest s.fuel s.roots with
  | .error e => .over (.error e)
  | .ok (roots, fuel) => .next { text := rest, distinct, fuel, roots }

/-- Reads one segment and moves the frontier. -/
def turn (forest : Forest) (s : Stage) : Turn Stage (Except Error (List Node × Fuel)) :=
  match opening s.text with
  | .descend rest => s.move forest .descend true (restOf rest)
  | .climb rest => s.move forest .climb false (restOf rest)
  | .select bounds rest =>
    match bounds? bounds with
    | some (least, greatest) => s.move forest (.select least greatest) false (restOf rest)
    | none => .over (.error (.malformed s.text 2 (.index bounds)))
  | .sort key rest => s.move forest (sortStep key) false (restOf rest)
  | .self rest => s.move forest .singleton s.distinct ('*' :: rest)
  | .filter =>
    match Segment.read s.text with
    | .error e => .over (.error e)
    | .ok (segment, none) => .over (.ok (filter forest s.distinct segment s.roots, s.fuel))
    | .ok (segment, some next) => s.move forest (.filter s.distinct segment) false next

/-- Whether a loop that starts from a line ends within some turns, with what the plan of the line
gives. -/
def EndsWithin (forest : Forest) (limit : Nat) (distinct : Bool) (t : Text) : Prop :=
  ∀ fuel roots, repeatUpTo (turn forest) limit { text := t, distinct, fuel, roots } =
    some ((Plan.read distinct t).run forest fuel roots)

theorem EndsWithin.mono {limit more : Nat} {distinct : Bool} {t : Text}
    (h : EndsWithin forest limit distinct t) (hle : limit ≤ more) :
    EndsWithin forest more distinct t :=
  fun fuel roots => repeatUpTo_of_le (h fuel roots) hle

/-- A turn that moves the frontier comes before those of the rest. -/
theorem EndsWithin.move {limit : Nat} {distinct distinct' : Bool} {t rest : Text}
    (hrest : EndsWithin forest limit distinct' rest) (step : Step)
    (hread : Plan.read distinct t = .step step (Plan.read distinct' rest))
    (hturn : ∀ fuel roots, turn forest { text := t, distinct, fuel, roots } =
      Stage.move forest { text := t, distinct, fuel, roots } step distinct' rest) :
    EndsWithin forest (limit + 1) distinct t := by
  intro fuel roots
  rw [hread, repeatUpTo, hturn, Stage.move]
  show _ = some ((step.move forest fuel roots).bind _)
  cases step.move forest fuel roots with
  | error e => rfl
  | ok moved => exact hrest moved.2 moved.1

/-! ### One turn for each opening -/

section Openings

variable {limit : Nat} {distinct : Bool}

theorem endsWithin_of_descend {rest : Option Text} (h : EndsWithin forest limit true (restOf rest)) :
    EndsWithin forest (limit + 1) distinct ('*' :: '*' :: tail rest) := by
  refine h.move .descend (Plan.read_descend distinct rest) fun fuel roots => ?_
  simp only [turn, Plan.opening_descend]

theorem endsWithin_of_climb {rest : Option Text} (h : EndsWithin forest limit false (restOf rest)) :
    EndsWithin forest (limit + 1) distinct ('.' :: '.' :: tail rest) := by
  refine h.move .climb (Plan.read_climb distinct rest) fun fuel roots => ?_
  simp only [turn, Plan.opening_climb]

/-- A slice whose bounds are malformed is the end of a line. -/
theorem endsWithin_of_select {bounds : Text} {rest : Option Text} (hn : '|' ∉ bounds)
    (h : EndsWithin forest limit false (restOf rest)) :
    EndsWithin forest (limit + 1) distinct ('.' :: '#' :: (bounds ++ tail rest)) := by
  have hread := Plan.read_select distinct rest hn
  cases hb : bounds? bounds with
  | none =>
    intro fuel roots
    rw [hb] at hread
    rw [hread]
    exact repeatUpTo_of_over (by simp only [turn, Plan.opening_select hn, hb]; rfl) limit
  | some b =>
    rw [hb] at hread
    refine h.move (.select b.1 b.2) hread fun fuel roots => ?_
    simp only [turn, Plan.opening_select hn, hb]

theorem endsWithin_of_sort {key : Text} {rest : Option Text} (hn : '|' ∉ key)
    (h : EndsWithin forest limit false (restOf rest)) :
    EndsWithin forest (limit + 1) distinct ('.' :: '!' :: (key ++ tail rest)) := by
  refine h.move (sortStep key) (Plan.read_sort distinct rest hn) fun fuel roots => ?_
  simp only [turn, Plan.opening_sort hn]

theorem endsWithin_of_self {rest : Text} (he : Plan.endsName rest = true)
    (h : EndsWithin forest limit distinct ('*' :: rest)) :
    EndsWithin forest (limit + 1) distinct ('.' :: rest) := by
  refine h.move .singleton ?_ fun fuel roots => ?_
  · rw [Plan.read_self distinct he, Plan.read_filter distinct (opening_star he)]
  · simp only [turn, Plan.opening_self he]

/-- A filter is the end of a line, or a bar follows it. -/
theorem endsWithin_of_filter {t : Text} (ho : opening t = .filter)
    (hnext : ∀ segment next, Segment.read t = .ok (segment, some next) →
      EndsWithin forest limit false next) : EndsWithin forest (limit + 1) distinct t := by
  cases hr : Segment.read t with
  | error e =>
    intro fuel roots
    rw [Plan.read_filter distinct ho, Plan.readFilter_stop distinct hr]
    exact repeatUpTo_of_over (by simp only [turn, ho, hr]; rfl) limit
  | ok r =>
    obtain ⟨segment, next | next⟩ := r
    · intro fuel roots
      rw [Plan.read_filter distinct ho, Plan.readFilter_last distinct hr]
      exact repeatUpTo_of_over (by simp only [turn, ho, hr]; rfl) limit
    · refine (hnext segment next hr).move (.filter distinct segment) ?_ fun fuel roots => ?_
      · rw [Plan.read_filter distinct ho, Plan.readFilter_step distinct hr]
      · simp only [turn, ho, hr]

end Openings

/-! ### All turns of a line -/

/-- What an operator goes on with is shorter, be it a dot that is added. -/
theorem length_restOf_lt {t : Text} (h : 2 ≤ t.length) (rest : Option Text) :
    (restOf rest).length < (t ++ tail rest).length := by
  rw [List.length_append]
  cases rest with
  | none => exact Nat.lt_of_lt_of_le Nat.one_lt_two (Nat.le_trans h (Nat.le_add_right _ _))
  | some rest =>
    show rest.length < _ + (rest.length + 1)
    omega

/-- What follows a segment that begins with a star is shorter by two characters. -/
theorem length_lt_of_read_star {rest next : Text} {segment : Segment}
    (h : Segment.read ('*' :: rest) = .ok (segment, some next)) : next.length < rest.length := by
  obtain ⟨s, ht, -⟩ := Segment.read_eq_ok_iff.1 h
  cases s with
  | nil => cases ht
  | cons c s =>
    have hrest : rest = s ++ '|' :: next := (List.cons.inj ht).2
    rw [hrest, List.length_append, List.length_cons]
    omega

/-- **A line takes at most one turn more than it has characters.** -/
theorem endsWithin_length (distinct : Bool) (t : Text) :
    EndsWithin forest (t.length + 1) distinct t := by
  induction hn : t.length using Nat.strongRecOn generalizing t distinct with
  | ind n ih =>
    subst hn
    have hshorter {u : Text} (hlt : u.length < t.length) (distinct : Bool) :
        EndsWithin forest t.length distinct u :=
      (ih _ hlt distinct u rfl).mono hlt
    rcases opening_cases t with
      ⟨rest, rfl⟩ | ⟨rest, rfl⟩ | ⟨bounds, rest, rfl, hn⟩ | ⟨key, rest, rfl, hn⟩ | ⟨rest, rfl, he⟩ | ho
    · have hlt := length_restOf_lt (t := ['*', '*']) (Nat.le_refl 2) rest
      exact endsWithin_of_descend (hshorter hlt true)
    · have hlt := length_restOf_lt (t := ['.', '.']) (Nat.le_refl 2) rest
      exact endsWithin_of_climb (hshorter hlt false)
    · have hlt := length_restOf_lt (t := '.' :: '#' :: bounds) (by simp) rest
      exact endsWithin_of_select hn (hshorter hlt false)
    · have hlt := length_restOf_lt (t := '.' :: '!' :: key) (by simp) rest
      exact endsWithin_of_sort hn (hshorter hlt false)
    -- the star that a dot becomes is cut off with the segment, so there is a turn left for it
    · refine endsWithin_of_self he (endsWithin_of_filter (opening_star he) fun segment next hr => ?_)
      have hlt := length_lt_of_read_star hr
      exact (ih _ (Nat.lt_succ_of_lt hlt) false next rfl).mono hlt
    · exact endsWithin_of_filter ho fun segment next hr => hshorter (Segment.length_lt_of_read hr) false

end Stage

/-! ## Descents -/

/-- A descent under way. -/
structure Descending where
  /-- The roots that are still to come. -/
  roots : List Root
  stack : List Node := []
  descent : Descent
  /-- The frontier as far as it has come. -/
  found : List Root := []
  /-- How many entries were taken off the stack. -/
  popped : Nat := 0

namespace Descending

variable {forest : Forest}

/-- Takes an entry off the stack, or goes on to the next root if there is none. -/
def turn (forest : Forest) (s : Descending) :
    Turn Descending (Nat × Except Error (List Root × Fuel)) :=
  match s.stack with
  | [] =>
    match s.roots with
    | [] => .over (s.popped, .ok (s.found, s.descent.fuel))
    | root :: roots => .next { s with roots, stack := root.entries, found := s.found ++ root.kept }
  | node :: stack =>
    if node ∈ s.descent.visited then .next { s with stack, popped := s.popped + 1 }
    else
      match s.descent.fuel.spend? with
      | none => .over (s.popped + 1, .error .fuelExhausted)
      | some fuel =>
        .next { s with
          stack := forest.children node ++ stack
          descent := ⟨node :: s.descent.visited, fuel⟩
          found := s.found ++ [.node node]
          popped := s.popped + 1 }

/-- How many links lead away from some nodes. -/
def linksOf (forest : Forest) (nodes : List Node) : Nat := (nodes.flatMap forest.children).length

/-- How many entries are taken off a stack until it is empty: those on it, and one for each link of a
node that is met. -/
def pops (forest : Forest) (visited stack : List Node) : Nat :=
  stack.length + linksOf forest (Descent.met forest visited stack)

open Descent (met met_nil met_cons_of_mem met_cons_of_not_mem)

theorem pops_nil (visited : List Node) : pops forest visited [] = 0 := by
  rw [pops, met_nil]
  rfl

theorem pops_cons_of_mem {visited stack : List Node} {node : Node} (h : node ∈ visited) :
    pops forest visited (node :: stack) = pops forest visited stack + 1 := by
  rw [pops, pops, met_cons_of_mem h, List.length_cons]
  omega

theorem pops_cons_of_not_mem {visited stack : List Node} {node : Node} (h : node ∉ visited) :
    pops forest visited (node :: stack) =
      pops forest (node :: visited) (forest.children node ++ stack) + 1 := by
  rw [pops, pops, met_cons_of_not_mem h, linksOf, linksOf, List.flatMap_cons, List.length_append,
    List.length_append, List.length_cons]
  omega

section Stack

variable {visited stack : List Node} {fuel : Fuel} {roots found : List Root} {popped turns : Nat}

theorem turn_visited {node : Node} (h : node ∈ visited) :
    turn forest ⟨roots, node :: stack, ⟨visited, fuel⟩, found, popped⟩ =
      .next ⟨roots, stack, ⟨visited, fuel⟩, found, popped + 1⟩ :=
  if_pos h

theorem turn_new {node : Node} {left : Fuel} (h : node ∉ visited) (hs : fuel.spend? = some left) :
    turn forest ⟨roots, node :: stack, ⟨visited, fuel⟩, found, popped⟩ =
      .next ⟨roots, forest.children node ++ stack, ⟨node :: visited, left⟩, found ++ [.node node],
        popped + 1⟩ := by
  simp only [turn, if_neg h, hs]

theorem turn_exhausted {node : Node} (h : node ∉ visited) (hs : fuel.spend? = none) :
    turn forest ⟨roots, node :: stack, ⟨visited, fuel⟩, found, popped⟩ =
      .over (popped + 1, .error .fuelExhausted) := by
  simp only [turn, if_neg h, hs]

/-- With fuel for everything below a stack, the stack is emptied. -/
theorem repeatUpTo_stack {left : Fuel}
    (h : fuel.pay (met forest visited stack).length = .ok left) :
    repeatUpTo (turn forest) (turns + pops forest visited stack)
        ⟨roots, stack, ⟨visited, fuel⟩, found, popped⟩ =
      repeatUpTo (turn forest) turns
        ⟨roots, [], ⟨(met forest visited stack).reverse ++ visited, left⟩,
          found ++ (met forest visited stack).map .node, popped + pops forest visited stack⟩ := by
  fun_induction met forest visited stack generalizing fuel found popped with
  | case1 visited =>
    rw [List.length_nil, Fuel.pay_zero] at h
    obtain rfl := Except.ok.inj h
    rw [pops_nil, List.map_nil, List.append_nil]
    rfl
  | case2 visited node stack hv ih =>
    rw [pops_cons_of_mem hv, ← Nat.add_assoc, repeatUpTo_of_next (turn_visited hv), ih h,
      Nat.add_right_comm]
    rfl
  | case3 visited node stack hv ih =>
    rw [List.length_cons, Nat.add_comm, Fuel.pay_add] at h
    cases hs : fuel.spend? with
    | none =>
      rw [← Fuel.pay_add, Nat.add_comm, Fuel.pay_succ_of_spend? hs] at h
      cases h
    | some rest =>
      rw [Fuel.pay_one_of_spend? hs] at h
      rw [pops_cons_of_not_mem hv, ← Nat.add_assoc, repeatUpTo_of_next (turn_new hv hs), ih h,
        List.append_assoc, List.reverse_cons, List.append_assoc, Nat.add_right_comm]
      rfl

variable (roots found popped turns) in
/-- Without, the descent fails before it would be. -/
theorem exists_repeatUpTo_stack {e : Error}
    (h : fuel.pay (met forest visited stack).length = .error e) :
    ∃ more, more ≤ pops forest visited stack ∧
      repeatUpTo (turn forest) (turns + pops forest visited stack)
        ⟨roots, stack, ⟨visited, fuel⟩, found, popped⟩ = some (popped + more, .error e) := by
  fun_induction met forest visited stack generalizing fuel found popped with
  | case1 visited =>
    rw [List.length_nil, Fuel.pay_zero] at h
    cases h
  | case2 visited node stack hv ih =>
    obtain ⟨more, hle, hr⟩ := ih found (popped + 1) h
    rw [pops_cons_of_mem hv, ← Nat.add_assoc, repeatUpTo_of_next (turn_visited hv), hr]
    exact ⟨more + 1, Nat.succ_le_succ hle, by rw [Nat.add_right_comm]; rfl⟩
  | case3 visited node stack hv ih =>
    rw [pops_cons_of_not_mem hv, ← Nat.add_assoc]
    cases hs : fuel.spend? with
    | none =>
      rw [List.length_cons, Fuel.pay_succ_of_spend? hs] at h
      cases h
      exact ⟨1, Nat.le_add_left _ _, repeatUpTo_of_over (turn_exhausted hv hs) _⟩
    | some rest =>
      rw [List.length_cons, Nat.add_comm, Fuel.pay_add, Fuel.pay_one_of_spend? hs] at h
      obtain ⟨more, hle, hr⟩ := ih (found ++ [.node node]) (popped + 1) h
      rw [repeatUpTo_of_next (turn_new hv hs), hr]
      exact ⟨more + 1, Nat.succ_le_succ hle, by rw [Nat.add_right_comm]; rfl⟩

end Stack

/-! ### Root after root -/

theorem linksOf_append (nodes more : List Node) :
    linksOf forest (nodes ++ more) = linksOf forest nodes + linksOf forest more := by
  rw [linksOf, List.flatMap_append, List.length_append]
  rfl

/-- What is taken off the stack root after root is what would be taken off one stack. -/
theorem pops_flatMap_cons (visited : List Node) (root : Root) (roots : List Root) :
    pops forest visited ((root :: roots).flatMap Root.entries) =
      pops forest visited root.entries + pops forest
        ((met forest visited root.entries).reverse ++ visited) (roots.flatMap Root.entries) := by
  rw [pops, Descent.met_flatMap_cons, linksOf_append, List.flatMap_cons, List.length_append, pops,
    pops]
  omega

open Descent (visit visitRoots)

/-- A root is kept in its place, if it is detached, and what is met below it comes behind it. -/
theorem visitRoots_cons (d : Descent) (root : Root) (roots : List Root) :
    visitRoots forest d (root :: roots) =
      (visit forest d root.entries).bind fun (found, d) =>
        (visitRoots forest d roots).map fun (more, d) =>
          (root.kept ++ (found.map .node ++ more), d) := by
  cases root with
  | node n | detached ns =>
    rw [visitRoots]
    simp only [Root.entries]
    cases visit forest d _ with
    | error e => rfl
    | ok r =>
      simp only [bind, Except.bind]
      cases visitRoots forest r.2 roots <;> rfl

variable (forest) in
/-- A descent ends, with what `visitRoots` gives. -/
theorem exists_repeatUpTo_roots (visited : List Node) (fuel : Fuel) (roots found : List Root)
    (popped : Nat) :
    ∃ more, more ≤ pops forest visited (roots.flatMap Root.entries) ∧
      repeatUpTo (turn forest)
          (roots.length + pops forest visited (roots.flatMap Root.entries) + 1)
          ⟨roots, [], ⟨visited, fuel⟩, found, popped⟩ =
        some (popped + more, (visitRoots forest ⟨visited, fuel⟩ roots).map
          fun (rest, d) => (found ++ rest, d.fuel)) := by
  induction roots generalizing visited fuel found popped with
  | nil =>
    refine ⟨0, Nat.zero_le _, repeatUpTo_of_over ?_ _⟩
    show _ = Turn.over (popped, Except.ok (found ++ [], fuel))
    rw [List.append_nil]
    rfl
  | cons root roots ih =>
    have hlimit : (root :: roots).length + pops forest visited ((root :: roots).flatMap Root.entries) =
        roots.length + pops forest ((met forest visited root.entries).reverse ++ visited)
          (roots.flatMap Root.entries) + 1 + pops forest visited root.entries := by
      rw [pops_flatMap_cons, List.length_cons]
      omega
    have hload : turn forest ⟨root :: roots, [], ⟨visited, fuel⟩, found, popped⟩ =
        .next ⟨roots, root.entries, ⟨visited, fuel⟩, found ++ root.kept, popped⟩ := rfl
    rw [hlimit, repeatUpTo_of_next hload, pops_flatMap_cons, visitRoots_cons, Descent.visit_eq]
    cases hp : fuel.pay (met forest visited root.entries).length with
    | error e =>
      obtain ⟨more, hle, hr⟩ := exists_repeatUpTo_stack roots (found ++ root.kept) popped _ hp
      exact ⟨more, Nat.le_trans hle (Nat.le_add_right _ _), hr⟩
    | ok left =>
      obtain ⟨more, hle, hr⟩ := ih ((met forest visited root.entries).reverse ++ visited) left
        (found ++ root.kept ++ (met forest visited root.entries).map .node)
        (popped + pops forest visited root.entries)
      refine ⟨pops forest visited root.entries + more, Nat.add_le_add_left hle _, ?_⟩
      rw [repeatUpTo_stack hp, hr, Nat.add_assoc]
      simp only [Except.map, Except.bind]
      cases visitRoots forest _ roots with
      | error e => rfl
      | ok r => simp only [List.append_assoc]

end Descending

/-! ## Bounds -/

/-- How many links lead away from what is reached from some roots. -/
noncomputable def linksBelow (forest : Forest) (roots : List Root) : Nat :=
  ∑ᶠ (node : Node) (_ : forest.Reaches roots node), (forest.children node).length

theorem linksBelow_eq (forest : Forest) (roots : List Root) :
    linksBelow forest roots = Descending.linksOf forest (reached forest roots) := by
  have hset (node : Node) : forest.Reaches roots node ↔ node ∈ (reached forest roots).toFinset := by
    rw [List.mem_toFinset, mem_reached_iff]
  rw [linksBelow, Descending.linksOf, List.length_flatMap, ← List.sum_toFinset _ (nodup_reached roots)]
  simp only [hset]
  exact finsum_mem_finset_eq_sum _ _

/-- **Every line comes to an end, and so does every descent.** A line of `L` bytes takes at most
`2 * L + 2` turns, and a descent takes no more entries off its stack than it starts with and than links
lead away from what it reaches, on cycles as well and without any limit to the fuel. -/
theorem turns_and_pops_le (forest : Forest) (t : Text) (fuel : Fuel) (roots : List Root) :
    (∃ turns, turns ≤ 2 * t.byteLength + 2 ∧
      repeatUpTo (Stage.turn forest) turns { text := t, fuel, roots } =
        some ((Plan.read false t).run forest fuel roots)) ∧
      ∀ (fuel : Fuel) (frontier : List Root),
        ∃ popped turns,
          popped ≤ (frontier.flatMap Root.entries).length + linksBelow forest frontier ∧
          repeatUpTo (Descending.turn forest) turns { roots := frontier, descent := { fuel } } =
            some (popped, descend forest fuel frontier) := by
  refine ⟨⟨t.length + 1, ?_, Stage.endsWithin_length false t fuel roots⟩, fun fuel frontier => ?_⟩
  · have := Text.length_le_byteLength t
    omega
  · obtain ⟨popped, hle, hr⟩ := Descending.exists_repeatUpTo_roots forest [] fuel frontier [] 0
    rw [linksBelow_eq]
    refine ⟨popped, _, hle, hr.trans ?_⟩
    rw [Nat.zero_add]
    rfl

end TreeQuery.Path
