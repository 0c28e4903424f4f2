import TreeQuery.Regex.Expr

/-!
# The written form of regular expressions

The parts of an expression as they are written, before flags and named classes are resolved. Nesting
is limited: brackets, groups, repetitions, alternatives and sequences of two or more parts each count
as one level.
-/

namespace TreeQuery.Regex

/-- A switch that changes how the rest of a group is read. -/
inductive Flag where
  | ignoreCase
  | multiLine
  | dotMatchesLineFeed
  | swapGreed
  | unicode
  | crlf
  | ignoreBlanks
  deriving DecidableEq, Repr

/-- The flag that a letter stands for. -/
def Flag.ofChar? : Char → Option Flag
  | 'i' => some ignoreCase
  | 'm' => some multiLine
  | 's' => some dotMatchesLineFeed
  | 'U' => some swapGreed
  | 'u' => some unicode
  | 'R' => some crlf
  | 'x' => some ignoreBlanks
  | _ => none

/-- One mark in a list of flags. All flags after a negation are switched off. -/
inductive FlagItem where
  | negation
  | flag (flag : Flag)
  deriving DecidableEq, Repr

/-- What a list of flags says about one of them, if it mentions it. -/
def FlagItem.state? (flag : Flag) : List FlagItem → Option Bool
  | items =>
    if .flag flag ∈ items.takeWhile (· ≠ .negation) then some true
    else if .flag flag ∈ items then some false
    else none

/-- A character in an expression. -/
structure Literal where
  char : Char
  /-- Whether it is written as a byte, with two hexadecimal digits. -/
  asByte : Bool := false
  deriving DecidableEq, Repr

/-- A class of characters with a letter of its own. -/
inductive ShortClass where
  | digit
  | space
  | word
  deriving DecidableEq, Repr

/-- A class of ASCII characters with a name in colons. -/
inductive AsciiClass where
  | alnum | alpha | ascii | blank | cntrl | digit | graph
  | lower | print | punct | space | upper | word | xdigit
  deriving DecidableEq, Repr

/-- The ASCII class of a name. -/
def AsciiClass.ofName? (name : Text) : Option AsciiClass :=
  [("alnum", alnum), ("alpha", alpha), ("ascii", ascii), ("blank", blank), ("cntrl", cntrl),
    ("digit", digit), ("graph", graph), ("lower", lower), ("print", print), ("punct", punct),
    ("space", space), ("upper", upper), ("word", word), ("xdigit", xdigit)].findSome?
    fun (spelling, kind) => if spelling.toList = name then some kind else none

/-- A class of characters that is written by its name. -/
inductive NamedClass where
  | short (kind : ShortClass)
  | ascii (kind : AsciiClass)
  /-- A property, a category or a script. -/
  | property (name : Text)
  /-- A property together with one of its values. -/
  | propertyValue (name value : Text)
  deriving DecidableEq, Repr

/-- A way to combine two classes. -/
inductive ClassOp where
  | intersection
  | difference
  | symmetricDifference
  deriving DecidableEq, Repr

/-- What stands between brackets. -/
inductive ClassSet where
  | literal (literal : Literal)
  | range (first last : Literal)
  | named (negated : Bool) (name : NamedClass)
  | bracketed (negated : Bool) (inner : ClassSet)
  /-- Several items side by side, or none. -/
  | union (items : List ClassSet)
  | combined (op : ClassOp) (left right : ClassSet)
  deriving Repr

/-- Items side by side; a single item stands for itself. -/
def ClassSet.ofItems : List ClassSet → ClassSet
  | [item] => item
  | items => union items

/-- A condition on a place, as written. -/
inductive Anchor where
  | lineStart
  | lineEnd
  | textStart
  | textEnd
  | word (edge : WordEdge)
  deriving DecidableEq, Repr

/-- What a pair of parentheses is for. -/
inductive GroupKind where
  /-- Remembers what was matched, under a name if it has one. -/
  | capture (name : Option Text)
  /-- Only groups, with flags for its inside. -/
  | plain (flags : List FlagItem)
  deriving DecidableEq, Repr

/-- A regular expression as written. -/
inductive Ast where
  | empty
  | flags (items : List FlagItem)
  | literal (literal : Literal)
  | dot
  | anchor (anchor : Anchor)
  | named (negated : Bool) (name : NamedClass)
  | bracketed (negated : Bool) (set : ClassSet)
  | rounds (least : Nat) (most : Option Nat) (greedy : Bool) (body : Ast)
  | group (kind : GroupKind) (body : Ast)
  | alternation (branches : List Ast)
  | concat (parts : List Ast)
  deriving Repr

namespace Ast

/-- Parts one after the other; a single part stands for itself. -/
def ofParts : List Ast → Ast
  | [] => empty
  | [part] => part
  | parts => concat parts

/-- Alternative branches; a single branch stands for itself. -/
def ofBranches : List Ast → Ast
  | [branch] => branch
  | branches => alternation branches

/-- Whether a repetition may follow: it needs something that can be repeated. -/
def isRepeatable : Ast → Bool
  | empty | flags _ => false
  | _ => true

end Ast

/-! ## Nesting depth -/

mutual

/-- The nesting depth of a class in brackets. -/
def ClassSet.depth : ClassSet → Nat
  | literal _ | range _ _ | named _ _ => 0
  | bracketed _ inner => inner.depth + 1
  | union items => if items.isEmpty then 0 else ClassSet.depthOfAll items + 1
  | combined _ left right => max left.depth right.depth + 1

/-- The greatest nesting depth of several classes. -/
def ClassSet.depthOfAll : List ClassSet → Nat
  | [] => 0
  | item :: items => max item.depth (ClassSet.depthOfAll items)

end

mutual

/-- The nesting depth of an expression. -/
def Ast.depth : Ast → Nat
  | empty | flags _ | literal _ | dot | anchor _ | named _ _ => 0
  | bracketed _ set => set.depth + 1
  | rounds _ _ _ body => body.depth + 1
  | group _ body => body.depth + 1
  | alternation branches => Ast.depthOfAll branches + 1
  | concat parts => Ast.depthOfAll parts + 1

/-- The greatest nesting depth of several expressions. -/
def Ast.depthOfAll : List Ast → Nat
  | [] => 0
  | ast :: asts => max ast.depth (Ast.depthOfAll asts)

end

end TreeQuery.Regex
