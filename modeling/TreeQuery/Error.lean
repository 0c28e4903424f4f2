import TreeQuery.Regex.Fault
import TreeQuery.Text

/-!
# Errors

Everything that can go wrong when a pattern is read, a path is followed or an expression for a node
is sought, with its wording.
-/

namespace TreeQuery

/-- What is wrong with the text of a path or pattern. -/
inductive Malformation where
  /-- An escape character with nothing after it. -/
  | trailingEscape
  | unbalancedBraces
  /-- A numeric range whose bounds cannot be read. -/
  | range (body : Text)
  /-- A character that ends a pattern where the whole text should be one. -/
  | unexpected (found : Char)
  /-- A clause without an equals sign after its parameter. -/
  | missingEquals
  /-- Index bounds that cannot be read. -/
  | index (bounds : Text)
  deriving DecidableEq, Repr

namespace Malformation

/-- The wording of a malformation. -/
def message : Malformation → Text
  | trailingEscape => "trailing escape character `^`".toList
  | unbalancedBraces => "unbalanced braces".toList
  | range body => "malformed numeric range `\x7b".toList ++ body ++ "\x7d`".toList
  | unexpected found => "unexpected `".toList ++ [found] ++ "` in pattern".toList
  | missingEquals => "missing equals sign".toList
  | index bounds => "malformed index `".toList ++ bounds ++ "`".toList

end Malformation

/-- Why an operation fails. -/
inductive Error where
  /-- A text is malformed at an offset in bytes. -/
  | malformed (text : Text) (offset : Nat) (cause : Malformation)
  /-- The regular expression that a pattern stands for is refused. -/
  | badPattern (source : Text) (cause : Regex.Fault)
  /-- More than one node was found where at most one was wanted. -/
  | ambiguous (kind path : Text) (count : Nat)
  /-- No expression tells a node from its siblings. -/
  | indistinct
  | notAChild (name : Text)
  /-- A search visited more nodes than it may. -/
  | fuelExhausted
  deriving DecidableEq, Repr

namespace Error

/-- The wording of an error. -/
def message : Error → Text
  | malformed text offset cause =>
    "syntax error in `".toList ++ text ++ "` at offset ".toList ++ Text.ofNat offset ++
      ": ".toList ++ cause.message
  | badPattern source cause =>
    "invalid pattern `".toList ++ source ++ "`: ".toList ++ cause.message.toList
  | ambiguous kind path count =>
    "more than one ".toList ++ kind ++ " matches `".toList ++ path ++ "` (".toList ++
      Text.ofNat count ++ " found)".toList
  | indistinct => "ambiguous nodes detected".toList
  | notAChild name =>
    "node `".toList ++ name ++ "` is not a child of the given root".toList
  | fuelExhausted => "execution limit exceeded".toList

end Error

/-- A malformation at the place where `rest`, a final piece of the text, begins. -/
def Error.malformedAt (text rest : Text) (cause : Malformation) : Error :=
  .malformed text (text.byteLength - rest.byteLength) cause

end TreeQuery
