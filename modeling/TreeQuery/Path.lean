import TreeQuery.Path.Plan

/-!
# Paths

A path leads from a list of roots to a list of nodes. Line breaks separate alternatives: each line is
followed from the same roots, and what the lines find is joined. Empty lines mean nothing, unless the
path has no line break at all.

All descents of one query share its fuel, over all lines.
-/

namespace TreeQuery

namespace Path

variable (forest : Forest)

/-- Moves a frontier, and gives the fuel that is left. -/
def Step.move (fuel : Fuel) (roots : List Root) : Step → Except Error (List Root × Fuel)
  | descend => Path.descend forest fuel roots
  | climb => .ok (Path.climb forest roots, fuel)
  | select least greatest => .ok (Path.select least greatest roots, fuel)
  | sort descending param => .ok (Path.sort forest descending param roots, fuel)
  | singleton => .ok (roots.map Root.singleton, fuel)
  | filter distinct segment => .ok ((Path.filter forest distinct segment roots).map .node, fuel)

/-- Carries out a plan, and gives the fuel that is left. -/
def Plan.run (fuel : Fuel) (roots : List Root) : Plan → Except Error (List Node × Fuel)
  | stop e => .error e
  | last distinct segment => .ok (Path.filter forest distinct segment roots, fuel)
  | step s next => do
    let (roots, fuel) ← s.move forest fuel roots
    next.run fuel roots

/-- Follows lines, each from the same roots, and joins what they find. -/
def followLines (fuel : Fuel) (roots : List Root) : List Text → Except Error (List Node × Fuel)
  | [] => .ok ([], fuel)
  | line :: lines => do
    let (found, fuel) ← (Plan.read false line).run forest fuel roots
    let (more, fuel) ← followLines fuel roots lines
    return (found ++ more, fuel)

/-- Whether a character breaks a line. -/
def isLineBreak (c : Char) : Bool := c = '\n' || c = '\r'

/-- The lines of a path. -/
def lines (path : Text) : List Text :=
  if path.any isLineBreak then (Text.splitBy isLineBreak path).filter (· ≠ []) else [path]

/-- Follows a path from some roots. -/
def evaluate (fuel : Fuel) (path : Text) (roots : List Root) : Except Error (List Node) :=
  (followLines forest fuel roots (lines path)).map Prod.fst

/-- Follows a path from a root to at most one node. Finding several is an error, which calls them by
the given kind. -/
def evaluateSingle (fuel : Fuel) (path kind : Text) (root : Root) : Except Error (Option Node) := do
  match ← evaluate forest fuel path [root] with
  | [] => return none
  | [node] => return some node
  | nodes => throw (.ambiguous kind path nodes.length)

end Path

end TreeQuery
