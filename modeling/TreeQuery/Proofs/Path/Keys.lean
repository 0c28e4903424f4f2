import TreeQuery.Proofs.Path.Lines
import TreeQuery.Proofs.Path.Opening

/-!
# The names that a path asks for

A path looks at a node through its name, its links and the parameters that the keys of the path name.
Two forests that agree on these give the same answer (`evaluate_congr`).

A key stands in the path between an ampersand and an equals sign, or after the two characters of the
sort operator. So it is at least two characters shorter than the path (`asks_of_mem_keys_read`).
-/

namespace TreeQuery.Path

open Pattern (endsPattern unquote)
open Plan (opening_cases restOf)
open Segment (ClausesText)

/-! ## Keys -/

/-- The names of parameters that a segment tests. -/
def Segment.keys (segment : Segment) : List Text := segment.clauses.map Prod.fst

/-- The names of parameters that a move looks at. -/
def Step.keys : Step → List Text
  | sort _ param => [param]
  | filter _ segment => segment.keys
  | _ => []

/-- The names of parameters that a plan looks at. -/
def Plan.keys : Plan → List Text
  | stop _ => []
  | last _ segment => segment.keys
  | step s next => s.keys ++ next.keys

/-! ## Forests that look the same -/

/-- Forests that look the same to what asks for parameters of the given names only. -/
structure SameFor (keys : List Text) (A B : Forest) : Prop where
  name : ∀ n, A.name n = B.name n
  children : ∀ n, A.children n = B.children n
  parent? : ∀ n, A.parent? n = B.parent? n
  parameter : ∀ n, ∀ key ∈ keys, A.parameter n key = B.parameter n key

variable {A B : Forest} {keys : List Text}

theorem SameFor.mono {keys' : List Text} (h : SameFor keys A B) (hs : keys' ⊆ keys) :
    SameFor keys' A B :=
  { h with parameter := fun n key hk => h.parameter n key (hs hk) }

theorem SameFor.root_children (h : SameFor keys A B) (root : Root) :
    root.children A = root.children B := by
  cases root with
  | node n => exact h.children n
  | detached ns => rfl

theorem SameFor.root_parent? (h : SameFor keys A B) (root : Root) :
    root.parent? A = root.parent? B := by
  cases root with
  | node n => exact h.parent? n
  | detached ns => rfl

theorem accepts_congr {segment : Segment} (h : SameFor segment.keys A B) (n : Node) :
    segment.accepts A n = segment.accepts B n := by
  unfold Segment.accepts
  rw [h.name]
  congr 1
  rw [Bool.eq_iff_iff, List.all_eq_true, List.all_eq_true]
  refine forall_congr' fun clause => imp_congr_right fun hc => ?_
  show clause.2.isMatch (A.parameter n clause.1) = true ↔ _
  rw [h.parameter n clause.1 (List.mem_map_of_mem hc)]

theorem filter_congr {segment : Segment} (h : SameFor segment.keys A B) (distinct : Bool)
    (roots : List Root) : filter A distinct segment roots = filter B distinct segment roots := by
  unfold filter
  rw [funext fun root => h.root_children root, funext fun n => accepts_congr h n]

theorem sortKey_congr {param : Text} (h : SameFor [param] A B) (root : Root) :
    sortKey A param root = sortKey B param root := by
  cases root with
  | detached ns => rfl
  | node n =>
    show (if param = [] then A.name n else A.parameter n param) =
      if param = [] then B.name n else B.parameter n param
    rw [h.name, h.parameter n param List.mem_cons_self]

theorem sort_congr {param : Text} (h : SameFor [param] A B) (descending : Bool)
    (roots : List Root) : sort A descending param roots = sort B descending param roots := by
  unfold sort
  rw [funext fun root => sortKey_congr h root]

theorem Descent.visit_congr (h : SameFor keys A B) (d : Descent) (stack : List Node) :
    d.visit A stack = d.visit B stack := by
  fun_induction Descent.visit A d stack with
  | case1 d => rw [visit]
  | case2 d node stack hv ih => rw [visit, if_pos hv, ih]
  | case3 d node stack hv hf => rw [visit, if_neg hv, hf]
  | case4 d node stack hv fuel hf ih =>
    rw [visit, if_neg hv, hf, ← h.children, ih]

theorem Descent.visitRoots_congr (h : SameFor keys A B) (d : Descent) (roots : List Root) :
    d.visitRoots A roots = d.visitRoots B roots := by
  induction roots generalizing d with
  | nil => rfl
  | cons root roots ih =>
    cases root with
    | node n | detached ns =>
      rw [visitRoots, visitRoots, visit_congr h]
      simp only [ih]

theorem Step.move_congr {s : Step} (h : SameFor s.keys A B) (fuel : Fuel) (roots : List Root) :
    s.move A fuel roots = s.move B fuel roots := by
  cases s with
  | descend =>
    show (Descent.visitRoots A _ roots).map _ = (Descent.visitRoots B _ roots).map _
    rw [Descent.visitRoots_congr h]
  | climb =>
    show Except.ok ((roots.filterMap (·.parent? A)).map Root.node, fuel) = _
    rw [funext fun root => h.root_parent? root]
    rfl
  | select | singleton => rfl
  | sort descending param =>
    exact congrArg (fun r => Except.ok (r, fuel)) (sort_congr h descending roots)
  | filter distinct segment =>
    exact congrArg (fun nodes => Except.ok (nodes.map Root.node, fuel))
      (filter_congr h distinct roots)

theorem Plan.run_congr {p : Plan} (h : SameFor p.keys A B) (fuel : Fuel) (roots : List Root) :
    p.run A fuel roots = p.run B fuel roots := by
  induction p generalizing fuel roots with
  | stop e => rfl
  | last distinct segment =>
    exact congrArg (fun nodes => Except.ok (nodes, fuel)) (filter_congr h distinct roots)
  | step s next ih =>
    have hs : SameFor s.keys A B := h.mono (List.subset_append_left _ _)
    have hn : SameFor next.keys A B := h.mono (List.subset_append_right _ _)
    rw [run, run, Step.move_congr hs]
    cases s.move B fuel roots with
    | error e => rfl
    | ok moved => exact ih hn moved.2 moved.1

/-- **A path gives the same answer in forests that look the same to it.** -/
theorem evaluate_congr {path : Text}
    (h : ∀ line ∈ lines path, SameFor (Plan.read false line).keys A B) (fuel : Fuel)
    (roots : List Root) : evaluate A fuel path roots = evaluate B fuel path roots := by
  unfold evaluate
  congr 1
  generalize lines path = ls at h
  induction ls generalizing fuel with
  | nil => rfl
  | cons line ls ih =>
    rw [followLines, followLines, Plan.run_congr (h line List.mem_cons_self)]
    cases (Plan.read false line).run B fuel roots with
    | error e => rfl
    | ok found =>
      show (followLines A found.2 roots ls).bind _ = (followLines B found.2 roots ls).bind _
      rw [ih found.2 fun line hl => h line (List.mem_cons_of_mem _ hl)]

/-! ## Where keys stand -/

/-- A key stands in a text, with two more characters there. -/
def AskedIn (key t : Text) : Prop := key.Sublist t ∧ key.length + 2 ≤ t.length

theorem AskedIn.mono {key s t : Text} (h : AskedIn key s) (hs : s <:+ t) : AskedIn key t :=
  ⟨h.1.trans hs.sublist, Nat.le_trans h.2 hs.length_le⟩

theorem AskedIn.append {key s : Text} (h : AskedIn key s) (t : Text) : AskedIn key (s ++ t) := by
  refine ⟨h.1.trans (List.sublist_append_left s t), Nat.le_trans h.2 ?_⟩
  rw [List.length_append]
  exact Nat.le_add_right _ _

theorem unquote_sublist (k : Text) : (unquote k).Sublist k := by
  fun_induction unquote k with
  | case1 c rest ih => exact (ih.cons_cons c).cons '^'
  | case2 => exact List.nil_sublist _
  | case3 c rest _ _ ih => exact ih.cons_cons c
  | case4 => exact List.Sublist.slnil

theorem askedIn_of_clausesText {s key : Text} {clauses : List (Text × Pattern)}
    (h : ClausesText s clauses) (hk : key ∈ clauses.map Prod.fst) : AskedIn key s := by
  induction h with
  | nil => cases hk
  | @cons k v s _ value clauses _ _ _ ih =>
    rcases List.mem_cons.1 hk with rfl | hk
    · refine ⟨?_, ?_⟩
      · exact ((unquote_sublist k).trans (List.sublist_append_left _ _)).cons '&'
      · have := (unquote_sublist k).length_le
        simp only [List.length_cons, List.length_append]
        omega
    · refine (ih hk).mono ?_
      exact ⟨'&' :: (k ++ '=' :: v), by simp⟩

theorem suffix_of_mem_keys_sortStep {key operand : Text}
    (h : key ∈ (Plan.sortStep operand).keys) : key <:+ operand := by
  unfold Plan.sortStep at h
  split at h
  · obtain rfl := List.mem_singleton.1 h
    exact List.suffix_cons _ _
  · obtain rfl := List.mem_singleton.1 h
    exact List.suffix_refl _

/-- The keys of a filter stand in what follows the name pattern. -/
theorem exists_askedIn_of_mem_keys_readFilter {key t : Text} {distinct : Bool}
    (hnext : ∀ next : Text, next.length < t.length → key ∈ (Plan.read false next).keys →
      AskedIn key next)
    (h : key ∈ (Plan.readFilter distinct t).keys) :
    ∃ u, u <:+ t ∧ endsPattern false u = true ∧ AskedIn key u := by
  cases hr : Segment.read t with
  | error e =>
    rw [Plan.readFilter_stop distinct hr] at h
    cases h
  | ok r =>
    obtain ⟨segment, next⟩ := r
    obtain ⟨s, rfl, n, rest, rfl, hn, hc⟩ := Segment.read_eq_ok_iff.1 hr
    have hend := Segment.endsPattern_clausesText hc next
    refine ⟨rest ++ tail next, ⟨n, by simp⟩, hend, ?_⟩
    cases next with
    | none =>
      rw [Plan.readFilter_last distinct hr] at h
      exact (askedIn_of_clausesText hc h).append _
    | some next =>
      rw [Plan.readFilter_step distinct hr] at h
      rcases List.mem_append.1 h with h | h
      · exact (askedIn_of_clausesText hc h).append _
      · refine (hnext next ?_ h).mono ⟨rest ++ ['|'], by simp [tail]⟩
        simp only [tail, List.length_append, List.length_cons]
        omega

/-- **A key is at least two characters shorter than the line that it stands in.** -/
theorem askedIn_of_mem_keys_read {key t : Text} {distinct : Bool}
    (h : key ∈ (Plan.read distinct t).keys) : AskedIn key t := by
  induction hn : t.length using Nat.strongRecOn generalizing t distinct with
  | ind n ih =>
    subst hn
    have hshort {distinct : Bool} {rest : Text} (hl : rest.length < t.length)
        (h : key ∈ (Plan.read distinct rest).keys) : AskedIn key rest := ih _ hl h rfl
    -- after an operator the keys stand in its rest, for a dot alone asks for nothing
    have after {distinct : Bool} {x : Text} {rest : Option Text} (ht : t = x ++ tail rest)
        (hx : 2 ≤ x.length) (h : key ∈ (Plan.read distinct (restOf rest)).keys) :
        AskedIn key t := by
      cases rest with
      | none =>
        rw [tail, List.append_nil] at ht
        have := (hshort (by rw [ht]; exact hx) h).2
        exact absurd this (by simp [restOf])
      | some rest =>
        have hl : rest.length < t.length := by
          rw [ht, tail, List.length_append, List.length_cons]
          omega
        have ha : AskedIn key rest := hshort hl h
        exact ha.mono ⟨x ++ ['|'], by rw [ht, tail, List.append_assoc]; rfl⟩
    rcases opening_cases t with
      ⟨rest, ht⟩ | ⟨rest, ht⟩ | ⟨bounds, rest, ht, hn⟩ | ⟨operand, rest, ht, hn⟩ | ⟨rest, ht, he⟩ | ho
    · rw [ht, Plan.read_descend] at h
      exact after (x := ['*', '*']) ht (Nat.le_refl 2) h
    · rw [ht, Plan.read_climb] at h
      exact after (x := ['.', '.']) ht (Nat.le_refl 2) h
    · rw [ht, Plan.read_select distinct rest hn] at h
      split at h
      · exact after (x := '.' :: '#' :: bounds) ht (by simp) h
      · cases h
    · rw [ht, Plan.read_sort distinct rest hn] at h
      rcases List.mem_append.1 h with h | h
      · have hk := suffix_of_mem_keys_sortStep h
        rw [ht]
        refine ⟨((hk.sublist.trans (List.sublist_append_left _ _)).cons '!').cons '.', ?_⟩
        have := hk.length_le
        simp only [List.length_cons, List.length_append]
        omega
      · exact after (x := '.' :: '!' :: operand) ht (by simp) h
    · rw [ht, Plan.read_self distinct he] at h
      obtain ⟨u, hu, hend, hk⟩ := exists_askedIn_of_mem_keys_readFilter (t := '*' :: rest)
        (fun next hl => hshort (by rw [ht]; exact hl)) h
      -- the star that stands for the dot is part of the name pattern
      rcases List.suffix_cons_iff.1 hu with rfl | hu
      · cases hend
      · rw [ht]
        exact hk.mono (hu.trans (List.suffix_cons _ _))
    · rw [Plan.read_filter distinct ho] at h
      obtain ⟨u, hu, -, hk⟩ := exists_askedIn_of_mem_keys_readFilter (fun next hl => hshort hl) h
      exact hk.mono hu

end TreeQuery.Path
