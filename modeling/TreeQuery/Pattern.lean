import TreeQuery.Pattern.Item
import TreeQuery.Regex.Meaning

/-!
# Patterns

A pattern matches a text as a whole. It stands for a regular expression between the two ends of the
text: a star for any characters, a numeric range for an integer that is remembered and compared with
the bounds afterwards, and a verbatim group for the regular expression in it.

The expression is spelled out as a text, and what counts is how that text is read. Characters are
escaped in it. A verbatim group is inserted as it is written, so parentheses and flags in one group
affect what follows it.
-/

namespace TreeQuery

open Regex (Expr)

/-- A pattern that is ready to match. -/
structure Pattern where
  /-- The text that the pattern was read from. -/
  source : Text
  expr : Expr
  /-- The bounds of its numeric ranges, from left to right. -/
  ranges : List Pattern.NumericRange

/-- A pattern together with what follows it in the text it was read from. -/
structure Pattern.Compiled where
  pattern : Pattern
  rest : Text

namespace Pattern

/-- The name under which the integer of a numeric range is remembered. -/
def rangeName (index : Nat) : Text := "__range".toList ++ Text.ofNat index

/-- The bounds of the numeric ranges among some items. -/
def rangesOf : List Item → List NumericRange
  | [] => []
  | .range bounds :: items => bounds :: rangesOf items
  | _ :: items => rangesOf items

/-- Whether there is a verbatim group among some items. -/
def hasGroup (items : List Item) : Bool := items.any fun
  | .group _ => true
  | _ => false

/-! ## The expression -/

/-- How the expression of some items is written, the next numeric range being the one at `index`. -/
def writtenItems (index : Nat) : List Item → Text
  | [] => []
  | .char c :: items => escaped c ++ writtenItems index items
  | .star :: items => "(?s:.*)".toList ++ writtenItems index items
  | .range _ :: items =>
    "(?P<".toList ++ rangeName index ++ ">-?[0-9]+)".toList ++ writtenItems (index + 1) items
  | .group body :: items => "(?:".toList ++ body ++ ")".toList ++ writtenItems index items

/-- How the whole expression is written. -/
def written (items : List Item) : Text :=
  "\\A(?:".toList ++ writtenItems 0 items ++ ")\\z".toList

/-- The room that the expression of some items may take. A short verbatim group can ask for any
amount of it. Other items ask for as much as they are long, which is not limited. -/
def roomFor (items : List Item) : Option Nat :=
  if hasGroup items then some Regex.sizeLimit else none

/-- The expression of some items, read from how it is written. -/
def exprOfItems (items : List Item) : Except Regex.Fault Expr :=
  Expr.ofText (roomFor items) (written items)

/-! ## Reading and matching -/

/-- Reads the pattern at the beginning of `part`, which is a final piece of `text`. Faults are
reported in `text`. -/
def compile (text part : Text) (stopAtEquals : Bool) : Except Error Compiled :=
  match scan stopAtEquals part with
  | .error fault => .error (.malformedAt text fault.rest fault.cause)
  | .ok (items, rest) =>
    let source := part.take (part.length - rest.length)
    match exprOfItems items with
    | .error cause => .error (.badPattern source cause)
    | .ok expr => .ok { pattern := { source, expr, ranges := rangesOf items }, rest }

/-- What follows a pattern is a final piece of the text that it was read from. -/
theorem suffix_of_compile {text part : Text} {stop : Bool} {compiled : Compiled}
    (h : compile text part stop = .ok compiled) : compiled.rest <:+ part := by
  unfold compile at h
  split at h
  · cases h
  · next items rest hs =>
    dsimp only at h
    split at h
    · cases h
    · cases h
      exact suffix_of_scan hs

/-- Reads a text that is one pattern as a whole. -/
def ofText (text : Text) : Except Error Pattern := do
  let compiled ← compile text text false
  match compiled.rest with
  | [] => return compiled.pattern
  | c :: _ => throw (.malformedAt text compiled.rest (.unexpected c))

/-- Whether the integers that a match remembers are within their bounds. -/
def withinBounds (m : Regex.Match) : (index : Nat) → List NumericRange → Bool
  | _, [] => true
  | index, bounds :: more =>
    ((m.captured? (rangeName index)).bind Integer.read?).any bounds.contains &&
      withinBounds m (index + 1) more

/-- Whether a pattern matches a text. Only the preferred match counts: its integers have to be within
their bounds. -/
def isMatch (p : Pattern) (t : Text) : Bool :=
  (p.expr.find? t).any fun m => withinBounds m 0 p.ranges

end Pattern

end TreeQuery
