import TreeQuery.Regex.Expr

/-!
# Which place is preferred

A list of places stands for what is found by trying them in order, so an expression is understood once
we can say what is found from the places that it leads to by what is found from those it started at.
This module does so where the places are not simply listed one after the other:

* `findSome?_firsts` — places that are kept once
* `findSome?_advance_star`, `findSome?_advance_plus`, `findSome?_advance_once` — greedy repetitions of
  one character, which share the places they have seen over all the places they start at
* `findSome?_advance_capture` — pieces that are remembered

What is left out in each case is a place that came before. This does no harm as long as what is found
at a place is decided by the rest of the text there (`DecidedByRest`), and the places belong to one
text (`PlacesOf`). Their rests are then final pieces of that text, told apart by their lengths, and no
expression leads away from it (`PlacesOf.advance`).
-/

namespace TreeQuery.Regex

/-! ## Places of one text -/

section Moves

variable {P : Cursor → Prop}

theorem Cursor.firstsAfter_subset (seen : List Nat) (cs : List Cursor) :
    Cursor.firstsAfter seen cs ⊆ cs := by
  induction cs generalizing seen with
  | nil => exact List.Subset.refl _
  | cons c cs ih =>
    unfold Cursor.firstsAfter
    by_cases h : c.remaining ∈ seen
    · rw [if_pos h]
      exact List.Subset.trans (ih seen) (List.subset_cons_self c cs)
    · rw [if_neg h]
      exact List.cons_subset_cons c (ih _)

/-- Leaving a repetition where `P` holds keeps `P` wherever it is left. -/
theorem Sweep.forall_mem_left_leave {c : Cursor} {s : Sweep} (hc : P c) (hs : ∀ d ∈ s.left, P d) :
    ∀ d ∈ (s.leave c).left, P d := by
  intro d hd
  rcases List.mem_cons.1 hd with rfl | hd
  · exact hc
  · exact hs d hd

/-- What each round keeps holds wherever a repetition is left. -/
theorem Sweep.forall_mem_left_loop {body : Cursor → List Cursor} {greedy : Bool}
    (hbody : ∀ c, P c → ∀ d ∈ body c, P d) {n : Nat} {c : Cursor} {s : Sweep} (hc : P c)
    (hs : ∀ d ∈ s.left, P d) : ∀ d ∈ (loop body greedy n c s).left, P d := by
  induction n generalizing c s with
  | zero => exact hs
  | succ n ih =>
    unfold loop
    split
    · exact hs
    · refine List.foldlRecOn (motive := fun s : Sweep => ∀ d ∈ s.left, P d) _ _ hs ?_
      intro s hs d hd
      have hPd : P d := hbody c hc d hd
      split
      · exact hs
      · cases greedy with
        | true => exact forall_mem_left_leave hPd (ih hPd hs)
        | false => exact ih hPd (forall_mem_left_leave hPd hs)

theorem Sweep.forall_mem_left_optional {body : Cursor → List Cursor} {greedy : Bool}
    (hbody : ∀ c, P c → ∀ d ∈ body c, P d) {n : Nat} {c : Cursor} {s : Sweep} (hc : P c)
    (hs : ∀ d ∈ s.left, P d) : ∀ d ∈ (optional body greedy n c s).left, P d := by
  induction n generalizing c s with
  | zero => exact forall_mem_left_leave hc hs
  | succ n ih =>
    have hrounds {s : Sweep} (hs : ∀ d ∈ s.left, P d) :
        ∀ d ∈ ((body c).foldl (fun s d => optional body greedy n d s) s).left, P d :=
      List.foldlRecOn (motive := fun s : Sweep => ∀ d ∈ s.left, P d) _ _ hs
        fun s hs d hd => ih (hbody c hc d hd) hs
    unfold optional
    split
    · exact hs
    · cases greedy with
      | true => exact forall_mem_left_leave hc (hrounds hs)
      | false => exact hrounds (forall_mem_left_leave hc hs)

/-- What a sweep leaves the repetition at, one starting place after the other. -/
theorem Sweep.forall_mem_ends {cs : List Cursor} (h : ∀ c ∈ cs, P c) (f : Cursor → Sweep → Sweep)
    (hf : ∀ c s, P c → (∀ d ∈ s.left, P d) → ∀ d ∈ (f c s).left, P d) :
    ∀ d ∈ (cs.foldl (fun s c => f c s) {}).ends, P d := by
  have hleft : ∀ d ∈ (cs.foldl (fun s c => f c s) {}).left, P d := by
    refine List.foldlRecOn (motive := fun s : Sweep => ∀ d ∈ s.left, P d) _ _ ?_ ?_
    · intro d hd
      cases hd
    · exact fun s hs c hc => hf c s (h c hc) hs
  intro d hd
  exact hleft d (List.mem_reverse.1 (Cursor.firstsAfter_subset _ _ hd))

theorem forall_mem_advanceTimes {step : List Cursor → List Cursor}
    (hstep : ∀ cs, (∀ c ∈ cs, P c) → ∀ d ∈ step cs, P d) (n : Nat) {cs : List Cursor}
    (h : ∀ c ∈ cs, P c) : ∀ d ∈ advanceTimes step n cs, P d := by
  fun_induction advanceTimes step n cs with
  | case1 => exact h
  | case2 => exact h
  | case3 n cs _ ih => exact ih (hstep cs h)

/-- **What is kept by taking a character and by remembering a piece holds wherever an expression
leads.** -/
theorem Expr.forall_mem_advance (hnext : ∀ accepts c d, P c → c.next? accepts = some d → P d)
    (hcapture : ∀ name c d, P c → P d →
      P { d with captures := (name, c.rest.take (c.remaining - d.remaining)) :: d.captures })
    (e : Expr) {cs : List Cursor} (h : ∀ c ∈ cs, P c) : ∀ d ∈ e.advance cs, P d := by
  induction e generalizing cs with
  | empty => exact h
  | one accepts =>
    intro d hd
    obtain ⟨c, hc, hd⟩ := List.mem_filterMap.1 hd
    exact hnext accepts c d (h c hc) hd
  | assertion condition => exact fun d hd => h d (List.mem_filter.1 hd).1
  | seq first second ihf ihs => exact ihs (ihf h)
  | either left right ihl ihr =>
    intro d hd
    obtain ⟨c, hc, hd⟩ := List.mem_flatMap.1 (Cursor.firstsAfter_subset _ _ hd)
    have hone : ∀ c' ∈ [c], P c' := List.forall_mem_singleton.2 (h c hc)
    rcases List.mem_append.1 hd with hd | hd
    · exact ihl hone d hd
    · exact ihr hone d hd
  | rounds body least most greedy ih =>
    have hbody : ∀ c, P c → ∀ d ∈ body.advance [c], P d :=
      fun c hc => ih (List.forall_mem_singleton.2 hc)
    have hforced (n : Nat) : ∀ d ∈ advanceTimes body.advance n cs, P d :=
      forall_mem_advanceTimes (fun _ => ih) n h
    unfold Expr.advance
    split
    · refine Sweep.forall_mem_ends h _ fun c s hc hs => ?_
      cases greedy with
      | true => exact Sweep.forall_mem_left_leave hc (Sweep.forall_mem_left_loop hbody hc hs)
      | false => exact Sweep.forall_mem_left_loop hbody hc (Sweep.forall_mem_left_leave hc hs)
    · exact Sweep.forall_mem_ends (hforced _) _ fun c s hc hs =>
        Sweep.forall_mem_left_loop hbody hc hs
    · dsimp only
      split
      · exact hforced _
      · exact Sweep.forall_mem_ends (hforced _) _ fun c s hc hs =>
          Sweep.forall_mem_left_optional hbody hc hs
  | capture name body ih =>
    intro d hd
    obtain ⟨c, hc, hd⟩ := List.mem_flatMap.1 (Cursor.firstsAfter_subset _ _ hd)
    obtain ⟨e, he, rfl⟩ := List.mem_map.1 hd
    exact hcapture name c e (h c hc) (ih (List.forall_mem_singleton.2 (h c hc)) e he)

end Moves

/-- The places are places of a text. -/
def PlacesOf (t : Text) (cs : List Cursor) : Prop := ∀ c ∈ cs, c.rest <:+ t

/-- Final pieces of one text that are equally long are the same. -/
theorem suffix_eq_of_length_eq {t r r' : Text} (h : r <:+ t) (h' : r' <:+ t)
    (hl : r.length = r'.length) : r = r' :=
  (List.suffix_of_suffix_length_le h h' (Nat.le_of_eq hl)).eq_of_length hl

theorem PlacesOf.of_subset {t : Text} {cs ds : List Cursor} (h : PlacesOf t cs) (hs : ds ⊆ cs) :
    PlacesOf t ds :=
  fun d hd => h d (hs hd)

theorem PlacesOf.singleton {t : Text} {c : Cursor} (h : c.rest <:+ t) : PlacesOf t [c] := by
  intro d hd
  rw [List.mem_singleton.1 hd]
  exact h

/-- A place belongs to the text that follows it. -/
theorem placesOf_rest (c : Cursor) : PlacesOf c.rest [c] := .singleton (List.suffix_refl _)

/-- The next place comes after one character, and remembers the same. -/
theorem Cursor.eq_of_next? {accepts : Char → Bool} {c d : Cursor} (h : c.next? accepts = some d) :
    ∃ x rest, c.rest = x :: rest ∧ d = { c with before := some x, rest } := by
  unfold Cursor.next? at h
  split at h
  · cases h
  · next x rest hr =>
    split at h
    · cases h
      exact ⟨x, rest, hr, rfl⟩
    · cases h

theorem Cursor.suffix_of_next? {accepts : Char → Bool} {c d : Cursor}
    (h : c.next? accepts = some d) : d.rest <:+ c.rest := by
  obtain ⟨x, rest, hr, rfl⟩ := Cursor.eq_of_next? h
  rw [hr]
  exact List.suffix_cons x rest

/-- **An expression leads from places of a text to places of the same text.** -/
theorem PlacesOf.advance {t : Text} (e : Expr) {cs : List Cursor} (h : PlacesOf t cs) :
    PlacesOf t (e.advance cs) :=
  e.forall_mem_advance (fun _ _ _ hc hd => (Cursor.suffix_of_next? hd).trans hc)
    (fun _ _ _ _ hd => hd) h

/-! ## What is found from places -/

/-- Whether something is found at a place is decided by what follows it. -/
def DecidedByRest {β : Type} (g : Cursor → Option β) : Prop :=
  ∀ c d, c.rest = d.rest → g c = none → g d = none

section Found

variable {β : Type} {g : Cursor → Option β} {t : Text}

theorem findSome?_firstsAfter (hg : DecidedByRest g) {seen : List Nat} {cs : List Cursor}
    (hcs : PlacesOf t cs) (hseen : ∀ c ∈ cs, c.remaining ∈ seen → g c = none) :
    (Cursor.firstsAfter seen cs).findSome? g = cs.findSome? g := by
  induction cs generalizing seen with
  | nil => rfl
  | cons c cs ih =>
    have hcs' : PlacesOf t cs := hcs.of_subset (List.subset_cons_self c cs)
    unfold Cursor.firstsAfter
    by_cases h : c.remaining ∈ seen
    · rw [if_pos h, List.findSome?_cons, hseen c List.mem_cons_self h]
      exact ih hcs' fun d hd => hseen d (List.mem_cons_of_mem c hd)
    · rw [if_neg h, List.findSome?_cons, List.findSome?_cons]
      cases hgc : g c with
      | some b => rfl
      | none =>
        -- nothing is found at `c`, so nothing is found where `c` comes again
        refine ih hcs' fun d hd hmem => ?_
        rcases List.mem_cons.1 hmem with hr | hmem
        · have hrest := suffix_eq_of_length_eq (hcs c List.mem_cons_self) (hcs' d hd) hr.symm
          exact hg c d hrest hgc
        · exact hseen d (List.mem_cons_of_mem c hd) hmem

/-- **Keeping each place only where it comes first does not change what is found.** -/
theorem findSome?_firsts (hg : DecidedByRest g) {cs : List Cursor} (hcs : PlacesOf t cs) :
    (Cursor.firsts cs).findSome? g = cs.findSome? g :=
  findSome?_firstsAfter hg hcs fun _ _ h => absurd h List.not_mem_nil

/-! ## One character again and again -/

/-- The places after one accepted character or more, the farthest first. -/
def onward (accepts : Char → Bool) (captures : List (Text × Text)) : Text → List Cursor
  | [] => []
  | x :: rest =>
    if accepts x then onward accepts captures rest ++ [⟨some x, rest, captures⟩] else []

theorem map_remaining_onward (accepts : Char → Bool) (captures captures' : List (Text × Text))
    (rest : Text) :
    (onward accepts captures rest).map Cursor.remaining =
      (onward accepts captures' rest).map Cursor.remaining := by
  induction rest with
  | nil => rfl
  | cons x rest ih =>
    unfold onward
    split
    · rw [List.map_append, List.map_append, ih]
      rfl
    · rfl

namespace Sweep

variable {accepts : Char → Bool}

/-- The numbers of the places where the repetition was left. -/
def places (s : Sweep) : List Nat := s.left.map Cursor.remaining

/-- The repetition was left at all places that more rounds lead to from the one before `rest`. -/
def Covers (accepts : Char → Bool) (s : Sweep) (rest : Text) : Prop :=
  (onward accepts [] rest).map Cursor.remaining ⊆ s.places

/-- Where rounds were begun or ended among the last `bound` places of a text, nothing is missing. -/
structure Settled (accepts : Char → Bool) (t : Text) (bound : Nat) (s : Sweep) : Prop where
  begun : ∀ rest, rest <:+ t → rest.length ≤ bound → (0, rest.length) ∈ s.begun →
    s.Covers accepts rest
  ended : ∀ rest, rest <:+ t → rest.length < bound → rest.length ∈ s.ended →
    rest.length ∈ s.places ∧ s.Covers accepts rest

/-- How a sweep goes on: where it begins or ends a round for the first time, nothing is missing
afterwards. -/
structure Grows (accepts : Char → Bool) (t : Text) (s s' : Sweep) : Prop where
  places : s.places ⊆ s'.places
  begun : ∀ rest, rest <:+ t → (0, rest.length) ∈ s'.begun →
    (0, rest.length) ∈ s.begun ∨ s'.Covers accepts rest
  ended : ∀ rest, rest <:+ t → rest.length ∈ s'.ended →
    rest.length ∈ s.ended ∨ rest.length ∈ s'.places ∧ s'.Covers accepts rest

theorem Settled.grow {t : Text} {bound : Nat} {s s' : Sweep} (h : s.Settled accepts t bound)
    (hg : Grows accepts t s s') : s'.Settled accepts t bound where
  begun rest ht hb hmem := by
    rcases hg.begun rest ht hmem with hmem | hcov
    · exact List.Subset.trans (h.begun rest ht hb hmem) hg.places
    · exact hcov
  ended rest ht hb hmem := by
    rcases hg.ended rest ht hmem with hmem | hnew
    · obtain ⟨hplace, hcov⟩ := h.ended rest ht hb hmem
      exact ⟨hg.places hplace, List.Subset.trans hcov hg.places⟩
    · exact hnew

theorem Grows.refl (t : Text) (s : Sweep) : Grows accepts t s s :=
  ⟨List.Subset.refl _, fun _ _ h => .inl h, fun _ _ h => .inl h⟩

/-- A sweep that begins a round at a place from which nothing is missing. -/
theorem grows_begin {t rest : Text} {s : Sweep} (ht : rest <:+ t) (h : s.Covers accepts rest) :
    Grows accepts t s { s with begun := (0, rest.length) :: s.begun } where
  places := List.Subset.refl _
  begun r hr hmem := by
    rcases List.mem_cons.1 hmem with he | hmem
    · obtain rfl := suffix_eq_of_length_eq hr ht (Prod.mk.inj he).2
      exact .inr h
    · exact .inl hmem
  ended _ _ hmem := .inl hmem

/-- A sweep that takes one more character, goes on from there as `s'` and then leaves the repetition
there. -/
theorem grows_round {t rest : Text} {x : Char} {d : Cursor} {s s' : Sweep}
    (ht : x :: rest <:+ t) (hx : accepts x) (hd : d.rest = rest)
    (hg : Grows accepts t
      ⟨(0, rest.length + 1) :: s.begun, rest.length :: s.ended, s.left⟩ s')
    (hcov : s'.Covers accepts rest) : Grows accepts t s (s'.leave d) := by
  have hplaces : s'.places ⊆ (s'.leave d).places := List.subset_cons_self _ _
  have hplace : rest.length ∈ (s'.leave d).places :=
    List.mem_cons.2 (.inl (by rw [Cursor.remaining, hd]))
  refine ⟨List.Subset.trans hg.places hplaces, ?_, ?_⟩
  · intro r hr hmem
    rcases hg.begun r hr hmem with hmem | hnew
    · rcases List.mem_cons.1 hmem with he | hmem
      · -- the round begun at `x` leads to the place after it and on from there
        obtain rfl := suffix_eq_of_length_eq hr ht (Prod.mk.inj he).2
        refine .inr ?_
        rw [Covers, onward, if_pos hx, List.map_append, List.append_subset]
        refine ⟨List.Subset.trans hcov hplaces, ?_⟩
        intro n hn
        rcases List.mem_singleton.1 hn with rfl
        exact hplace
      · exact .inl hmem
    · exact .inr (List.Subset.trans hnew hplaces)
  · intro r hr hmem
    rcases hg.ended r hr hmem with hmem | ⟨hr', hcov'⟩
    · rcases List.mem_cons.1 hmem with he | hmem
      · obtain rfl := suffix_eq_of_length_eq hr ((List.suffix_cons x rest).trans ht) he
        exact .inr ⟨hplace, List.Subset.trans hcov hplaces⟩
      · exact .inl hmem
    · exact .inr ⟨hplaces hr', List.Subset.trans hcov' hplaces⟩

/-! Rounds that end at one place at most. -/

section Rounds

variable {body : Cursor → List Cursor} {n : Nat} {c d : Cursor} {s : Sweep}

theorem loop_of_begun (h : (0, c.remaining) ∈ s.begun) : loop body true (n + 1) c s = s := by
  rw [loop, if_pos h]

theorem loop_of_stuck (h : (0, c.remaining) ∉ s.begun) (hb : body c = []) :
    loop body true (n + 1) c s = { s with begun := (0, c.remaining) :: s.begun } := by
  rw [loop, if_neg h, hb]
  rfl

theorem loop_of_ended (h : (0, c.remaining) ∉ s.begun) (hb : body c = [d])
    (he : d.remaining ∈ s.ended) :
    loop body true (n + 1) c s = { s with begun := (0, c.remaining) :: s.begun } := by
  rw [loop, if_neg h, hb]
  exact if_pos he

theorem loop_of_round (h : (0, c.remaining) ∉ s.begun) (hb : body c = [d])
    (he : d.remaining ∉ s.ended) :
    loop body true (n + 1) c s =
      (loop body true n d
        ⟨(0, c.remaining) :: s.begun, d.remaining :: s.ended, s.left⟩).leave d := by
  rw [loop, if_neg h, hb]
  exact if_neg he

end Rounds

theorem Covers.cons {s : Sweep} {x : Char} {rest : Text} (hx : accepts x)
    (hplace : rest.length ∈ s.places) (h : s.Covers accepts rest) :
    s.Covers accepts (x :: rest) := by
  rw [Covers, onward, if_pos hx, List.map_append, List.append_subset]
  refine ⟨h, ?_⟩
  intro n hn
  rcases List.mem_singleton.1 hn with rfl
  exact hplace

/-- What a greedy repetition from `c` does to a sweep: it leaves at the places ahead of `c` from the
farthest on, only that the farthest ones may be missing if they were left at before. -/
def LeavesOnward (accepts : Char → Bool) (t : Text) (c : Cursor) (s s' : Sweep) : Prop :=
  ∃ skipped fresh, onward accepts c.captures c.rest = skipped ++ fresh ∧
    skipped.map Cursor.remaining ⊆ s.places ∧ s'.left = fresh.reverse ++ s.left ∧
    Grows accepts t s s'

/-- When no round is taken, all places ahead of `c` were left at before. -/
theorem leavesOnward_of_covers {t : Text} {c : Cursor} {s s' : Sweep}
    (hcov : s.Covers accepts c.rest) (hleft : s'.left = s.left) (hg : Grows accepts t s s') :
    LeavesOnward accepts t c s s' := by
  rw [Covers, map_remaining_onward accepts [] c.captures] at hcov
  exact ⟨_, [], (List.append_nil _).symm, hcov, hleft, hg⟩

/-- Afterwards no place ahead of `c` is missing. -/
theorem LeavesOnward.covers {t : Text} {c : Cursor} {s s' : Sweep}
    (h : LeavesOnward accepts t c s s') : s'.Covers accepts c.rest := by
  obtain ⟨skipped, fresh, hsplit, hskipped, hleft, hgrows⟩ := h
  rw [Covers, map_remaining_onward accepts [] c.captures, hsplit, List.map_append,
    List.append_subset]
  refine ⟨List.Subset.trans hskipped hgrows.places, ?_⟩
  rw [places, hleft, List.map_append, List.map_reverse]
  exact fun n hn => List.mem_append_left _ (List.mem_reverse.2 hn)

/-- After the first round: what was settled for the places ahead is still settled. -/
theorem Settled.round {t rest : Text} {s : Sweep}
    (h : s.Settled accepts t (rest.length + 1)) :
    Settled accepts t rest.length
      ⟨(0, rest.length + 1) :: s.begun, rest.length :: s.ended, s.left⟩ where
  begun r hr hb hmem := by
    rcases List.mem_cons.1 hmem with he | hmem
    · obtain ⟨-, he⟩ := Prod.mk.inj he
      omega
    · exact h.begun r hr (Nat.le_succ_of_le hb) hmem
  ended r hr hb hmem := by
    rcases List.mem_cons.1 hmem with he | hmem
    · omega
    · exact h.ended r hr (Nat.lt_succ_of_lt hb) hmem

/-- **A greedy repetition of one character leaves at the places ahead of it, the farthest first.** -/
theorem loop_onward {t : Text} {n : Nat} {c : Cursor} {s : Sweep} (hc : c.rest <:+ t)
    (hn : c.remaining < n) (hs : s.Settled accepts t c.remaining) :
    LeavesOnward accepts t c s (loop (fun d => (Expr.one accepts).advance [d]) true n c s) := by
  induction n generalizing c s with
  | zero => exact absurd hn (Nat.not_lt_zero _)
  | succ n ih =>
    by_cases hbegun : (0, c.remaining) ∈ s.begun
    · rw [loop_of_begun hbegun]
      exact leavesOnward_of_covers (hs.begun c.rest hc (Nat.le_refl _) hbegun) rfl (.refl t s)
    · obtain ⟨before, rest, captures⟩ := c
      have hstuck (hb : (Expr.one accepts).advance [⟨before, rest, captures⟩] = [])
          (ho : onward accepts [] rest = []) :
          LeavesOnward accepts t ⟨before, rest, captures⟩ s
            (loop (fun d => (Expr.one accepts).advance [d]) true (n + 1) ⟨before, rest, captures⟩ s) := by
        have hcov : s.Covers accepts rest := by
          rw [Covers, ho]
          exact List.nil_subset _
        rw [loop_of_stuck hbegun hb]
        exact leavesOnward_of_covers hcov rfl (grows_begin hc hcov)
      cases rest with
      | nil => exact hstuck rfl rfl
      | cons x rest =>
        by_cases hx : accepts x
        · let d : Cursor := ⟨some x, rest, captures⟩
          have hbody : (Expr.one accepts).advance [⟨before, x :: rest, captures⟩] = [d] := by
            simp [Expr.advance, Cursor.next?, hx, d]
          have hd : rest <:+ t := (List.suffix_cons x rest).trans hc
          by_cases hended : d.remaining ∈ s.ended
          · obtain ⟨hplace, hcov⟩ := hs.ended rest hd (Nat.lt_succ_self _) hended
            rw [loop_of_ended hbegun hbody hended]
            exact leavesOnward_of_covers (hcov.cons hx hplace) rfl
              (grows_begin hc (hcov.cons hx hplace))
          · rw [loop_of_round hbegun hbody hended]
            have hround := ih (c := d) hd (Nat.lt_of_succ_lt_succ hn) hs.round
            have hcov := hround.covers
            obtain ⟨skipped, fresh, hsplit, hskipped, hleft, hgrows⟩ := hround
            refine ⟨skipped, fresh ++ [d], ?_, hskipped, ?_, ?_⟩
            · rw [← List.append_assoc, ← hsplit]
              exact if_pos hx
            · rw [List.reverse_append]
              exact congrArg (d :: ·) hleft
            · exact grows_round hc hx rfl hgrows hcov
        · refine hstuck ?_ (if_neg hx)
          simp [Expr.advance, Cursor.next?, hx]

end Sweep

/-! ## Greedy repetitions -/

variable {accepts : Char → Bool}

theorem placesOf_onward {captures : List (Text × Text)} {rest : Text} (h : rest <:+ t) :
    PlacesOf t (onward accepts captures rest) := by
  induction rest with
  | nil => exact fun _ hd => absurd hd List.not_mem_nil
  | cons x rest ih =>
    have hrest : rest <:+ t := (List.suffix_cons x rest).trans h
    unfold onward
    split
    · intro d hd
      rcases List.mem_append.1 hd with hd | hd
      · exact ih hrest d hd
      · rw [List.mem_singleton.1 hd]
        exact hrest
    · exact fun _ hd => absurd hd List.not_mem_nil

/-- A sweep over places that are ahead: what is found where the repetition was left is what is found
at these places. -/
structure Sweep.Over (accepts : Char → Bool) (t : Text) (g : Cursor → Option β)
    (ahead : List Cursor) (s : Sweep) : Prop where
  settled : s.Settled accepts t (t.length + 1)
  placesOf : PlacesOf t s.left
  found : s.left.reverse.findSome? g = ahead.findSome? g

theorem Sweep.Over.leave {ahead : List Cursor} {s : Sweep} {c : Cursor}
    (h : s.Over accepts t g ahead) (hc : c.rest <:+ t) :
    (s.leave c).Over accepts t g (ahead ++ [c]) where
  settled := h.settled.grow
    ⟨List.subset_cons_self _ _, fun _ _ hmem => .inl hmem, fun _ _ hmem => .inl hmem⟩
  placesOf := forall_mem_left_leave hc h.placesOf
  found := by
    rw [Sweep.leave, List.reverse_cons, List.findSome?_append, List.findSome?_append, h.found]

theorem Sweep.Over.onward (hg : DecidedByRest g) {ahead : List Cursor} {s : Sweep} {c : Cursor}
    (h : s.Over accepts t g ahead) (hc : c.rest <:+ t) :
    (loop (fun d => (Expr.one accepts).advance [d]) true (c.remaining + 1) c s).Over accepts t g
      (ahead ++ Regex.onward accepts c.captures c.rest) := by
  have hbound : c.remaining ≤ t.length := hc.length_le
  have hsettled : s.Settled accepts t c.remaining :=
    ⟨fun r hr hb => h.settled.begun r hr (by omega), fun r hr hb => h.settled.ended r hr (by omega)⟩
  obtain ⟨skipped, fresh, hsplit, hskipped, hleft, hgrows⟩ :=
    loop_onward hc (Nat.lt_succ_self _) hsettled
  have hahead : PlacesOf t (skipped ++ fresh) := hsplit ▸ placesOf_onward hc
  refine ⟨h.settled.grow hgrows, ?_, ?_⟩
  · rw [hleft]
    intro d hd
    rcases List.mem_append.1 hd with hd | hd
    · exact hahead d (List.mem_append_right _ (List.mem_reverse.1 hd))
    · exact h.placesOf d hd
  · rw [hleft, hsplit, List.reverse_append, List.reverse_reverse, List.findSome?_append,
      List.findSome?_append, List.findSome?_append, h.found]
    cases hfound : ahead.findSome? g with
    | some b => rfl
    | none =>
      -- nothing is found where the repetition was left before, so nothing at the places skipped
      have hnone : skipped.findSome? g = none := by
        rw [List.findSome?_eq_none_iff]
        intro d hd
        obtain ⟨e, he, hplace⟩ := List.mem_map.1 (hskipped (List.mem_map_of_mem hd))
        have hrest : e.rest = d.rest := suffix_eq_of_length_eq (h.placesOf e he)
          (hahead d (List.mem_append_left _ hd)) hplace
        rw [← h.found, List.findSome?_eq_none_iff] at hfound
        exact hg e d hrest (hfound e (List.mem_reverse.2 he))
      rw [hnone, Option.none_or, Option.none_or]

theorem Sweep.over_nil : ({} : Sweep).Over accepts t g [] where
  settled := ⟨fun _ _ _ h => absurd h List.not_mem_nil, fun _ _ _ h => absurd h List.not_mem_nil⟩
  placesOf := fun _ h => absurd h List.not_mem_nil
  found := rfl

theorem Sweep.Over.findSome?_ends (hg : DecidedByRest g) {ahead : List Cursor} {s : Sweep}
    (h : s.Over accepts t g ahead) : s.ends.findSome? g = ahead.findSome? g := by
  have hreverse : PlacesOf t s.left.reverse := fun d hd => h.placesOf d (List.mem_reverse.1 hd)
  rw [Sweep.ends, findSome?_firsts hg hreverse, h.found]

theorem findSome?_flatMap {α γ : Type} (l : List α) (f : α → List γ) (g : γ → Option β) :
    (l.flatMap f).findSome? g = l.findSome? fun a => (f a).findSome? g := by
  induction l with
  | nil => rfl
  | cons a l ih =>
    rw [List.flatMap_cons, List.findSome?_append, ih, List.findSome?_cons]
    cases (f a).findSome? g <;> rfl

/-- Places that are swept over one after the other. -/
theorem Sweep.over_foldl {f : Cursor → Sweep → Sweep} {aheadOf : Cursor → List Cursor}
    (hf : ∀ c s ahead, c.rest <:+ t → s.Over accepts t g ahead →
      (f c s).Over accepts t g (ahead ++ aheadOf c)) {cs : List Cursor} (hcs : PlacesOf t cs) :
    (cs.foldl (fun s c => f c s) {}).Over accepts t g (cs.flatMap aheadOf) := by
  have hgeneral : ∀ (ahead : List Cursor) (s : Sweep), s.Over accepts t g ahead →
      (cs.foldl (fun s c => f c s) s).Over accepts t g (ahead ++ cs.flatMap aheadOf) := by
    induction cs with
    | nil =>
      intro ahead s hs
      rw [List.flatMap_nil, List.append_nil]
      exact hs
    | cons c cs ih =>
      intro ahead s hs
      rw [List.flatMap_cons, ← List.append_assoc]
      exact ih (hcs.of_subset (List.subset_cons_self c cs)) _ _
        (hf c s ahead (hcs c List.mem_cons_self) hs)
  exact hgeneral [] {} over_nil

/-- **A greedy repetition of one character tries the places ahead, the farthest first, and last of all
the place where it begins.** -/
theorem findSome?_advance_star (hg : DecidedByRest g) {cs : List Cursor} (hcs : PlacesOf t cs) :
    ((Expr.rounds (.one accepts) 0 none true).advance cs).findSome? g =
      cs.findSome? fun c => (onward accepts c.captures c.rest ++ [c]).findSome? g := by
  have hsweep : ∀ (c : Cursor) (s : Sweep) (ahead : List Cursor), c.rest <:+ t →
      s.Over accepts t g ahead →
      ((Sweep.loop (fun d => (Expr.one accepts).advance [d]) true (c.remaining + 1) c s).leave
        c).Over accepts t g (ahead ++ (onward accepts c.captures c.rest ++ [c])) := by
    intro c s ahead hc hs
    rw [← List.append_assoc]
    exact (hs.onward hg hc).leave hc
  rw [← findSome?_flatMap]
  exact (Sweep.over_foldl hsweep hcs).findSome?_ends hg

/-- **At least once: the place where it begins is not tried.** -/
theorem findSome?_advance_plus (hg : DecidedByRest g) {cs : List Cursor} (hcs : PlacesOf t cs) :
    ((Expr.rounds (.one accepts) 1 none true).advance cs).findSome? g =
      cs.findSome? fun c => (onward accepts c.captures c.rest).findSome? g := by
  have hsweep : ∀ (c : Cursor) (s : Sweep) (ahead : List Cursor), c.rest <:+ t →
      s.Over accepts t g ahead →
      (Sweep.loop (fun d => (Expr.one accepts).advance [d]) true (c.remaining + 1) c s).Over accepts t
        g (ahead ++ onward accepts c.captures c.rest) :=
    fun c s ahead hc hs => hs.onward hg hc
  rw [← findSome?_flatMap]
  exact (Sweep.over_foldl hsweep hcs).findSome?_ends hg

/-- **At most once: the place after the character is tried first.** -/
theorem findSome?_advance_once (hg : DecidedByRest g) (c : Cursor) :
    ((Expr.rounds (.one accepts) 0 (some 1) true).advance [c]).findSome? g =
      ((c.next? accepts).toList ++ [c]).findSome? g := by
  have hends : (Expr.rounds (.one accepts) 0 (some 1) true).advance [c] =
      Cursor.firsts ((c.next? accepts).toList ++ [c]) := by
    cases hnext : c.next? accepts with
    | none => simp [Expr.advance, advanceTimes, advanceOptional, Sweep.optional, Sweep.ends,
        Sweep.leave, hnext]
    | some d => simp [Expr.advance, advanceTimes, advanceOptional, Sweep.optional, Sweep.ends,
        Sweep.leave, hnext]
  have hplaces : PlacesOf c.rest ((c.next? accepts).toList ++ [c]) := by
    intro d hd
    rcases List.mem_append.1 hd with hd | hd
    · exact Cursor.suffix_of_next? (Option.mem_toList.1 hd)
    · exact placesOf_rest c d hd
  rw [hends, findSome?_firsts hg hplaces]

/-- **What is remembered does not change where a match may end.** -/
theorem findSome?_advance_capture (hg : DecidedByRest g) (name : Text) (body : Expr)
    {cs : List Cursor} (hcs : PlacesOf t cs) :
    ((Expr.capture name body).advance cs).findSome? g =
      cs.findSome? fun c => (body.advance [c]).findSome? fun d =>
        g { d with captures := (name, c.rest.take (c.remaining - d.remaining)) :: d.captures } := by
  have hplaces : PlacesOf t (cs.flatMap fun c => (body.advance [c]).map fun d =>
      { d with captures := (name, c.rest.take (c.remaining - d.remaining)) :: d.captures }) := by
    intro d hd
    obtain ⟨c, hc, hd⟩ := List.mem_flatMap.1 hd
    obtain ⟨e, he, rfl⟩ := List.mem_map.1 hd
    exact PlacesOf.advance body (.singleton (hcs c hc)) e he
  rw [Expr.advance, findSome?_firsts hg hplaces, findSome?_flatMap]
  simp only [List.findSome?_map]
  rfl

end Found

end TreeQuery.Regex
