import TreeQuery.Display
import TreeQuery.Invocation
import TreeQuery.Locator
import TreeQuery.Snapshot

/-!
# Runs

Carrying out an invocation takes the text of the snapshot, or the reason why it cannot be read, and
gives what is printed and an exit code. Nothing is printed before everything that can fail has
succeeded, except that locators are printed one by one until one cannot be found.
-/

namespace TreeQuery

/-- What a run leaves behind. -/
structure Outcome where
  code : Nat := 0
  output : Text := []
  errors : Text := []
  deriving DecidableEq, Repr

namespace Outcome

/-- A run that prints and succeeds. -/
def success (output : Text) : Outcome := { output }

/-- A run that fails with a message. -/
def failure (message : Text) : Outcome :=
  { code := 1, errors := "error: ".toList ++ message ++ ['\n'] }

/-- The outcome of steps that may fail with a message. -/
def ofExcept : Except Text Outcome → Outcome
  | .ok outcome => outcome
  | .error message => failure message

end Outcome

namespace Invocation

/-- The text of a source, or why it cannot be had. -/
abbrev Input := Except Text Text

/-- Why a file that does not exist cannot be read. -/
def missingFile (source : Text) : Text :=
  "failed to read '".toList ++ source ++ "': No such file or directory (os error 2)".toList

/-- The file that an invocation reads, if it reads one. -/
def source? (invocation : Invocation) : Option Text :=
  match invocation.command with
  | .eval query _ | .single query _ _ | .locate query _ | .params query _ => some query.source
  | .tree source => some source
  | .quote _ => none

/-- Reads the tree of a source. -/
def load (source : Text) (input : Input) : Except Text Tree := do
  let t ← input
  (Snapshot.tree t).mapError fun fault => source ++ ": ".toList ++ fault.messageIn t

/-- The nodes that a query finds from the top-level nodes of a tree. -/
def found (query : Query) (forest : Forest) : Except Text (List Node) :=
  (Path.evaluate forest query.fuel query.path [forest.desktop 0]).mapError Error.message

/-- A node with its slot, as messages name it. -/
def nodeLabel (forest : Forest) (node : Node) : Text :=
  forest.name node ++ ['#'] ++ Text.ofNat node.slot

/-- The locators of nodes, one a line, up to the first that has none. -/
def locators (forest : Forest) (palette : Palette) (params : List Text) : List Node → Outcome
  | [] => {}
  | node :: nodes =>
    match Locator.path forest params (forest.desktop 0) node with
    | .error e => .failure (nodeLabel forest node ++ ": ".toList ++ e.message)
    | .ok path =>
      let more := locators forest palette params nodes
      { more with output := palette.paintName path ++ ['\n'] ++ more.output }

/-- Carries out an invocation on the text of its source. -/
def run (onTerminal : Bool) (input : Input) (invocation : Invocation) : Outcome :=
  let palette := Palette.ofBool (invocation.color.wanted onTerminal)
  .ofExcept <| match invocation.command with
  | .eval query json => do
    let forest : Forest := [← load query.source input]
    let nodes ← found query forest
    return .success <|
      if json then Display.storedJson forest nodes ++ ['\n']
      else Display.nodes forest palette nodes
  | .single query kind json => do
    let forest : Forest := [← load query.source input]
    let node ← (Path.evaluateSingle forest query.fuel query.path kind
      (forest.desktop 0)).mapError Error.message
    match node with
    | none =>
      return { errors := "no ".toList ++ kind ++ " matches `".toList ++ query.path ++ "`\n".toList }
    | some node =>
      return .success <|
        if json then Display.storedJson forest [node] ++ ['\n']
        else Display.nodes forest palette [node]
  | .locate query params => do
    let forest : Forest := [← load query.source input]
    return locators forest palette params (← found query forest)
  | .params query json => do
    let forest : Forest := [← load query.source input]
    let nodes ← found query forest
    return .success <|
      if json then Display.expandedJson forest nodes ++ ['\n']
      else nodes.flatMap (Display.params forest palette)
  | .quote text => return .success (Pattern.quote text ++ ['\n'])
  | .tree source => do
    let forest : Forest := [← load source input]
    return .success (Display.listing forest palette ((forest.desktop 0).children forest))

end Invocation

end TreeQuery
