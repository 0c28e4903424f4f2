import Mathlib.Data.List.Forall2
import TreeQuery.Invocation.Run
import TreeQuery.Invocation.Usage

/-!
# What runs leave behind

A run that follows a path goes through the same stages whatever it shows: it loads the snapshot, finds
the nodes and shows them (`run_eval`, `run_single`, `run_locate`, `run_params`). The first stage that
fails ends the run with a message, and nothing has been printed by then (`followed_cases`).

Locators are printed one by one, so a run that comes to a node it cannot locate has printed those of the
nodes before it, and no others (`exists_prefix_of_locators`). All other runs print everything or
nothing, and the exit code tells which (`outcome_of_run`).
-/

namespace TreeQuery.Invocation

/-! ## Stages -/

/-- What becomes of a run that shows what a query finds. -/
def followed (query : Query) (input : Input) (shown : Tree → List Node → Outcome) : Outcome :=
  match load query.source input with
  | .error message => .failure message
  | .ok tree =>
    match found query [tree] with
    | .error message => .failure message
    | .ok nodes => shown tree nodes

section Stages

variable {query : Query} {input : Input}

/-- When the snapshot is read and the path can be followed, what is found is shown. -/
theorem followed_of_found {tree : Tree} {nodes : List Node}
    (hl : load query.source input = .ok tree) (hf : found query [tree] = .ok nodes)
    (shown : Tree → List Node → Outcome) : followed query input shown = shown tree nodes := by
  unfold followed
  rw [hl]
  dsimp only
  rw [hf]

/-- A query is followed to some nodes, or fails with a message that has nothing to do with what would
be shown. -/
theorem followed_cases (query : Query) (input : Input) :
    (∃ message, ∀ shown, followed query input shown = .failure message) ∨
      ∃ tree nodes, load query.source input = .ok tree ∧ found query [tree] = .ok nodes ∧
        ∀ shown, followed query input shown = shown tree nodes := by
  cases hl : load query.source input with
  | error message =>
    refine .inl ⟨message, fun shown => ?_⟩
    unfold followed
    rw [hl]
  | ok tree =>
    cases hf : found query [tree] with
    | error message =>
      refine .inl ⟨message, fun shown => ?_⟩
      unfold followed
      rw [hl]
      dsimp only
      rw [hf]
    | ok nodes => exact .inr ⟨tree, nodes, rfl, hf, followed_of_found hl hf⟩

end Stages

/-- The line that tells that there was nothing to show. -/
def nothingFound (kind path : Text) : Text :=
  "no ".toList ++ kind ++ " matches `".toList ++ path ++ "`\n".toList

/-- What comes of showing the only node among some. -/
def onlyOne (kind path : Text) (shown : Node → Outcome) : List Node → Outcome
  | [] => { errors := nothingFound kind path }
  | [node] => shown node
  | nodes => .failure (Error.ambiguous kind path nodes.length).message

/-- Loading, finding and showing one after the other is following a query. -/
theorem ofExcept_eq_followed (query : Query) (input : Input) (shown : Tree → List Node → Outcome) :
    (.ofExcept do
      let tree ← load query.source input
      let nodes ← found query [tree]
      return shown tree nodes) = followed query input shown := by
  unfold followed
  cases load query.source input with
  | error message => rfl
  | ok tree =>
    dsimp only [bind, Except.bind]
    cases found query [tree] <;> rfl

section Commands

variable (query : Query) (json : Bool) (verbosity : Nat) (color : ColorChoice) (onTerminal : Bool)
  (input : Input)

theorem run_eval :
    run onTerminal input { command := .eval query json, verbosity, color } =
      followed query input fun tree nodes => .success <|
        if json then Display.storedJson [tree] nodes ++ ['\n']
        else Display.nodes [tree] (.ofBool (color.wanted onTerminal)) nodes :=
  ofExcept_eq_followed ..

theorem run_single (kind : Text) :
    run onTerminal input { command := .single query kind json, verbosity, color } =
      followed query input fun tree nodes =>
        onlyOne kind query.path (fun node => .success <|
          if json then Display.storedJson [tree] [node] ++ ['\n']
          else Display.nodes [tree] (.ofBool (color.wanted onTerminal)) [node]) nodes := by
  unfold run followed
  dsimp only
  cases load query.source input with
  | error message => rfl
  | ok tree =>
    dsimp only [bind, Except.bind]
    unfold Path.evaluateSingle found
    cases Path.evaluate [tree] query.fuel query.path [Forest.desktop [tree] 0] with
    | error e => rfl
    | ok nodes =>
      match nodes with
      | [] | [node] | first :: second :: more => rfl

theorem run_locate (params : List Text) :
    run onTerminal input { command := .locate query params, verbosity, color } =
      followed query input fun tree nodes =>
        locators [tree] (.ofBool (color.wanted onTerminal)) params nodes :=
  ofExcept_eq_followed ..

theorem run_params :
    run onTerminal input { command := .params query json, verbosity, color } =
      followed query input fun tree nodes => .success <|
        if json then Display.expandedJson [tree] nodes ++ ['\n']
        else nodes.flatMap (Display.params [tree] (.ofBool (color.wanted onTerminal))) :=
  ofExcept_eq_followed ..

end Commands

/-! ## Locators -/

/-- An outcome shows the locators of some nodes, in order. The nodes that are left over begin with the
one that has no locator, and the outcome tells why. -/
structure LocatesUpTo (forest : Forest) (palette : Palette) (params : List Text)
    (located left : List Node) (outcome : Outcome) : Prop where
  output : ∃ paths,
    List.Forall₂ (fun node path => Locator.path forest params (forest.desktop 0) node = .ok path)
      located paths ∧
    outcome.output = paths.flatMap fun path => palette.paintName path ++ ['\n']
  success_iff : (outcome.code = 0 ∧ outcome.errors = []) ↔ left = []
  stop : ∀ node rest, left = node :: rest →
    ∃ e, Locator.path forest params (forest.desktop 0) node = .error e ∧ outcome.code = 1 ∧
      outcome.errors =
        "error: ".toList ++ (nodeLabel forest node ++ ": ".toList ++ e.message) ++ ['\n']

/-- Locators are shown up to the first node that has none. -/
theorem exists_prefix_of_locators (forest : Forest) (palette : Palette) (params : List Text)
    (nodes : List Node) :
    ∃ located left, nodes = located ++ left ∧
      LocatesUpTo forest palette params located left (locators forest palette params nodes) := by
  induction nodes with
  | nil =>
    refine ⟨[], [], rfl, ⟨[], .nil, rfl⟩, ⟨fun _ => rfl, fun _ => ⟨rfl, rfl⟩⟩, ?_⟩
    intro node rest h
    cases h
  | cons node nodes ih =>
    rw [locators]
    cases hpath : Locator.path forest params (forest.desktop 0) node with
    | error e =>
      refine ⟨[], node :: nodes, rfl, ⟨[], .nil, rfl⟩, ⟨?_, ?_⟩, ?_⟩
      · rintro ⟨hcode, -⟩
        cases hcode
      · intro hleft
        cases hleft
      · intro node' rest h
        obtain ⟨rfl, rfl⟩ := List.cons.inj h
        exact ⟨e, hpath, rfl, rfl⟩
    | ok path =>
      obtain ⟨located, left, rfl, ⟨paths, hpaths, houtput⟩, hsuccess, hstop⟩ := ih
      refine ⟨node :: located, left, rfl, ⟨path :: paths, .cons hpath hpaths, ?_⟩, hsuccess, hstop⟩
      rw [List.flatMap_cons, ← houtput]

/-! ## Exit codes -/

/-- What a run without locators leaves: a message and nothing else, or what is to be shown and no
message, unless it had to find one node and found none. -/
inductive Settled (command : Command) : Outcome → Prop
  | failure (message : Text) : Settled command (.failure message)
  | success (output : Text) : Settled command (.success output)
  | nothing {query : Query} {kind : Text} {json : Bool} :
    command = .single query kind json →
      Settled command { errors := nothingFound kind query.path }

theorem settled_followed {command : Command} (query : Query) (input : Input)
    {shown : Tree → List Node → Outcome} (h : ∀ tree nodes, Settled command (shown tree nodes)) :
    Settled command (followed query input shown) := by
  rcases followed_cases query input with ⟨message, hfail⟩ | ⟨tree, nodes, -, -, hshown⟩
  · rw [hfail]
    exact .failure message
  · rw [hshown]
    exact h tree nodes

/-- A run without locators prints a message or succeeds. -/
theorem Settled.exit {command : Command} {outcome : Outcome} (h : Settled command outcome) :
    (outcome.code = 1 ∧ outcome.output = [] ∧
        ∃ message, outcome.errors = "error: ".toList ++ message ++ ['\n']) ∨
      (outcome.code = 0 ∧ (outcome.errors = [] ∨ ∃ query kind json,
        command = .single query kind json ∧ outcome.errors = nothingFound kind query.path)) := by
  cases h with
  | failure message => exact .inl ⟨rfl, rfl, message, rfl⟩
  | success output => exact .inr ⟨rfl, .inl rfl⟩
  | nothing hc => exact .inr ⟨rfl, .inr ⟨_, _, _, hc, rfl⟩⟩

/-- Everything is printed or nothing, unless locators are. -/
theorem settled_run (invocation : Invocation) (onTerminal : Bool) (input : Input)
    (hl : ∀ query params, invocation.command ≠ .locate query params) :
    Settled invocation.command (invocation.run onTerminal input) := by
  obtain ⟨command, verbosity, color⟩ := invocation
  cases command with
  | eval query json =>
    rw [run_eval]
    exact settled_followed query input fun tree nodes => .success _
  | single query kind json =>
    rw [run_single]
    refine settled_followed query input fun tree nodes => ?_
    match nodes with
    | [] => exact .nothing rfl
    | [node] => exact .success _
    | first :: second :: more => exact .failure _
  | locate query params => exact absurd rfl (hl query params)
  | params query json =>
    rw [run_params]
    exact settled_followed query input fun tree nodes => .success _
  | quote text => exact .success _
  | tree source =>
    unfold run
    dsimp only
    cases load source input with
    | error message => exact .failure message
    | ok tree => exact .success _

/-- **What is printed can be told from the exit code.** A run that fails has printed its message and
nothing else; one that succeeds has no message, unless a single node was sought and there was none. A
run that shows locators has shown those of the nodes ahead of the first one that has none. -/
theorem outcome_of_run {words : List Text} {invocation : Invocation} :
    Usage.read words = .ok invocation → invocation.verbosity = 0 →
    ∀ (onTerminal : Bool) (input : Input),
      let outcome := invocation.run onTerminal input
      ((∀ query params, invocation.command ≠ .locate query params) →
        (outcome.code = 1 ∧ outcome.output = [] ∧
            ∃ message, outcome.errors = "error: ".toList ++ message ++ ['\n']) ∨
          (outcome.code = 0 ∧ (outcome.errors = [] ∨ ∃ query kind json,
            invocation.command = .single query kind json ∧
              outcome.errors = nothingFound kind query.path))) ∧
      ∀ query params tree nodes, invocation.command = .locate query params →
        load query.source input = .ok tree → found query [tree] = .ok nodes →
        ∃ located left, nodes = located ++ left ∧
          LocatesUpTo [tree] (.ofBool (invocation.color.wanted onTerminal)) params located left
            outcome := by
  intro _ _ onTerminal input outcome
  refine ⟨fun hl => (settled_run invocation onTerminal input hl).exit,
    fun query params tree nodes hc hload hfound => ?_⟩
  obtain ⟨command, verbosity, color⟩ := invocation
  obtain rfl : command = .locate query params := hc
  have houtcome := run_locate query verbosity color onTerminal input params
  rw [followed_of_found hload hfound] at houtcome
  obtain ⟨located, left, hnodes, hlocated⟩ :=
    exists_prefix_of_locators [tree] (.ofBool (color.wanted onTerminal)) params nodes
  refine ⟨located, left, hnodes, ?_⟩
  rw [← houtcome] at hlocated
  exact hlocated

/-- The first of three nodes has a name of its own. -/
theorem outcome_of_run_twins :
    let words := ["locate".toList, "-".toList, "*".toList]
    let invocation : Invocation :=
      { command := .locate { source := "-".toList, path := "*".toList } [] }
    let input : Input :=
      .ok "[\x7b\"name\":\"A\"\x7d, \x7b\"name\":\"B\"\x7d, \x7b\"name\":\"B\"\x7d]".toList
    let tree := Tree.build [.node ['A'], .node ['B'], .node ['B']]
    let nodes : List Node := [⟨0, 0⟩, ⟨0, 1⟩, ⟨0, 2⟩]
    Usage.read words = .ok invocation ∧ invocation.verbosity = 0 ∧
      load "-".toList input = .ok tree ∧
      found { source := "-".toList, path := "*".toList } [tree] = .ok nodes ∧
      (∃ located left, nodes = located ++ left ∧
        LocatesUpTo [tree] .plain [] located left (invocation.run false input)) ∧
      invocation.run false input =
        { code := 1, output := "A\n".toList,
          errors := "error: B#1: ambiguous nodes detected\n".toList } := by
  intro words invocation input tree nodes
  have hread : Usage.read words = .ok invocation := rfl
  have hload : load "-".toList input = .ok tree := by decide +kernel
  have hfound : found { source := "-".toList, path := "*".toList } [tree] = .ok nodes := by
    decide +kernel
  exact ⟨hread, rfl, hload, hfound,
    (outcome_of_run hread rfl false input).2 _ _ tree nodes rfl hload hfound, by decide +kernel⟩

end TreeQuery.Invocation
