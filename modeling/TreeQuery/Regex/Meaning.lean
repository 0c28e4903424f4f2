import TreeQuery.Regex.Parser
import TreeQuery.Regex.Unicode.Folding
import TreeQuery.Regex.Unicode.Property

/-!
# What a written expression means

Flags take effect from where they are written up to the end of the group around them, later branches
included, so the meaning of each part depends on the flags before it and hands them on. Named
classes are resolved on the way; the first one that has no meaning decides the fault.

Outside Unicode mode, classes are sets of bytes and only ASCII letters have two cases. As what is
matched is text, a class that contains a byte beyond ASCII is refused.
-/

namespace TreeQuery.Regex

open Unicode

/-- The flags that are in effect. -/
structure Modes where
  ignoreCase : Bool := false
  multiLine : Bool := false
  dotMatchesLineFeed : Bool := false
  swapGreed : Bool := false
  unicode : Bool := true
  crlf : Bool := false
  deriving DecidableEq, Repr

namespace Modes

/-- Switches one flag. Blanks are a matter of reading only. -/
def set (modes : Modes) (on : Bool) : Flag → Modes
  | .ignoreCase => { modes with ignoreCase := on }
  | .multiLine => { modes with multiLine := on }
  | .dotMatchesLineFeed => { modes with dotMatchesLineFeed := on }
  | .swapGreed => { modes with swapGreed := on }
  | .unicode => { modes with unicode := on }
  | .crlf => { modes with crlf := on }
  | .ignoreBlanks => modes

/-- Takes in a list of flags; those after a negation are switched off. -/
def take (modes : Modes) (on : Bool) : List FlagItem → Modes
  | [] => modes
  | .negation :: items => modes.take false items
  | .flag flag :: items => (modes.set on flag).take on items

end Modes

/-! ## Classes -/

/-- A set of characters. -/
abbrev CharClass := Char → Bool

namespace CharClass

/-- Adds the other case of each ASCII letter. -/
def foldAscii (accepts : CharClass) : CharClass := fun c =>
  accepts c || (c.isAlpha && (accepts c.toLower || accepts c.toUpper))

/-- Adds all case variants of each character. -/
def foldUnicode (accepts : CharClass) : CharClass := fun c =>
  accepts c || (caseVariants c).any accepts

/-- Adds case variants where case is ignored. -/
def fold (modes : Modes) (accepts : CharClass) : CharClass :=
  if !modes.ignoreCase then accepts
  else if modes.unicode then foldUnicode accepts
  else foldAscii accepts

/-- The class or its complement. -/
def negateIf (negated : Bool) (accepts : CharClass) : CharClass := fun c => accepts c != negated

/-- Refuses a class with bytes beyond ASCII outside Unicode mode. -/
def checked (modes : Modes) (accepts : CharClass) : Except Fault CharClass :=
  if modes.unicode then .ok accepts
  else if (List.range 128).any fun i => accepts (Char.ofNat (128 + i)) then .error .invalidUtf8
  else .ok fun c => c.toNat < 128 && accepts c

end CharClass

/-- Whether a character belongs to a word, in Unicode mode or in ASCII. -/
def isWordChar (unicode : Bool) (c : Char) : Bool :=
  if c.toNat < 128 then isAsciiWord c
  else unicode && (isAlphabetic c || hasCategory ["Mn", "Mc", "Me", "Nd", "Pc"] c ||
    c = '\u200c' || c = '\u200d')

/-- The characters of a class with a letter of its own. -/
def ShortClass.accepts (unicode : Bool) : ShortClass → CharClass
  | digit => fun c => if unicode then hasCategory ["Nd"] c else c.isDigit
  | space => fun c =>
    if unicode then isWhiteSpace c else [9, 10, 11, 12, 13, 32].contains c.toNat
  | word => isWordChar unicode

/-- The characters of a named ASCII class. -/
def AsciiClass.accepts : AsciiClass → CharClass
  | alnum => Char.isAlphanum
  | alpha => Char.isAlpha
  | ascii => fun c => c.toNat < 128
  | blank => fun c => c = '\t' || c = ' '
  | cntrl => fun c => c.toNat < 32 || c.toNat = 127
  | digit => Char.isDigit
  | graph => fun c => '!' ≤ c && c ≤ '~'
  | lower => Char.isLower
  | print => fun c => ' ' ≤ c && c ≤ '~'
  | punct => fun c => '!' ≤ c && c ≤ '~' && !c.isAlphanum
  | space => fun c => [9, 10, 11, 12, 13, 32].contains c.toNat
  | upper => Char.isUpper
  | word => isAsciiWord
  | xdigit => Parser.isHex

/-- The characters of a named class or of its complement. Classes with a letter of their own are not
affected by case. -/
def NamedClass.meaning (modes : Modes) (negated : Bool) : NamedClass → Except Fault CharClass
  | short kind => CharClass.checked modes ((CharClass.negateIf negated (kind.accepts modes.unicode)))
  | ascii kind =>
    CharClass.checked modes (CharClass.negateIf negated (CharClass.fold modes kind.accepts))
  | property name => do
    if !modes.unicode then throw .unicodeNotAllowed
    return CharClass.negateIf negated (CharClass.fold modes (← classNamed name))
  | propertyValue name value => do
    if !modes.unicode then throw .unicodeNotAllowed
    return CharClass.negateIf negated (CharClass.fold modes (← classValued name value))

/-- The character that a literal stands for. Outside Unicode mode a literal written as a byte must
be ASCII. -/
def Literal.meaning (modes : Modes) (literal : Literal) : Except Fault Char :=
  if !modes.unicode && literal.asByte && 128 ≤ literal.char.toNat then .error .invalidUtf8
  else .ok literal.char

/-- The character that a literal stands for in a class. Outside Unicode mode it must be ASCII. -/
def Literal.classMeaning (modes : Modes) (literal : Literal) : Except Fault Char := do
  let c ← literal.meaning modes
  if !modes.unicode && 128 ≤ c.toNat then throw .unicodeNotAllowed
  return c

/-- Combines two classes. -/
def ClassOp.combine (op : ClassOp) (left right : CharClass) : CharClass := fun c =>
  match op with
  | intersection => left c && right c
  | difference => left c && !right c
  | symmetricDifference => left c != right c

mutual

/-- The characters of what stands between brackets. -/
def ClassSet.meaning (modes : Modes) : ClassSet → Except Fault CharClass
  | literal l => do
    let c ← l.classMeaning modes
    return fun d => d = c
  | range first last => do
    let first ← first.classMeaning modes
    let last ← last.classMeaning modes
    return fun d => first ≤ d && d ≤ last
  | named negated name => name.meaning modes negated
  | bracketed negated inner => do
    let accepts ← inner.meaning modes
    CharClass.checked modes (CharClass.negateIf negated (CharClass.fold modes accepts))
  | union items => ClassSet.meaningOfAll modes items
  | combined op left right => do
    let left ← left.meaning modes
    let right ← right.meaning modes
    return op.combine (CharClass.fold modes left) (CharClass.fold modes right)

/-- The characters of any of several items. -/
def ClassSet.meaningOfAll (modes : Modes) : List ClassSet → Except Fault CharClass
  | [] => .ok fun _ => false
  | item :: items => do
    let accepts ← item.meaning modes
    let others ← ClassSet.meaningOfAll modes items
    return fun c => accepts c || others c

end

/-! ## Expressions -/

/-- Whether an expression can match nothing but the empty text. -/
def Expr.isVoid : Expr → Bool
  | empty | assertion _ => true
  | one _ => false
  | seq first second => first.isVoid && second.isVoid
  | either left right => left.isVoid && right.isVoid
  | rounds body _ most _ => body.isVoid || most = some 0
  | capture _ body => body.isVoid

/-- A repetition. Repeating what matches only the empty text more than once is no different from
doing it once. -/
def Expr.repeated (body : Expr) (least : Nat) (most : Option Nat) (greedy : Bool) : Expr :=
  if body.isVoid then rounds body (min least 1) (some (min (most.getD 1) 1)) greedy
  else rounds body least most greedy

/-- The condition of an anchor. -/
def Anchor.meaning (modes : Modes) : Anchor → Assertion
  | lineStart => if modes.multiLine then .lineStart modes.crlf else .textStart
  | lineEnd => if modes.multiLine then .lineEnd modes.crlf else .textEnd
  | textStart => .textStart
  | textEnd => .textEnd
  | word edge => .word (isWordChar modes.unicode) edge

/-- The characters that a dot matches. -/
def dotMeaning (modes : Modes) : Except Fault CharClass :=
  if !modes.unicode then .error .invalidUtf8
  else if modes.dotMatchesLineFeed then .ok fun _ => true
  else if modes.crlf then .ok fun c => c ≠ '\n' && c ≠ '\r'
  else .ok fun c => c ≠ '\n'

mutual

/-- What an expression means under the given flags, and the flags in effect after it. -/
def Ast.meaning (modes : Modes) : Ast → Except Fault (Expr × Modes)
  | empty => .ok (.empty, modes)
  | flags items => .ok (.empty, modes.take true items)
  | literal l => do
    let c ← l.meaning modes
    return (.one (CharClass.fold modes fun d => d = c), modes)
  | dot => do return (.one (← dotMeaning modes), modes)
  | anchor a => .ok (.assertion (a.meaning modes), modes)
  | named negated name => do return (.one (← name.meaning modes negated), modes)
  | bracketed negated set => do
    let accepts ← set.meaning modes
    let accepts ← CharClass.checked modes
      (CharClass.negateIf negated (CharClass.fold modes accepts))
    return (.one accepts, modes)
  | rounds least most greedy body => do
    let (body, modes) ← body.meaning modes
    return (.repeated body least most (greedy != modes.swapGreed), modes)
  | group (.capture none) body => do return ((← body.meaning modes).1, modes)
  | group (.capture (some name)) body => do
    return (.capture name (← body.meaning modes).1, modes)
  | group (.plain items) body => do return ((← body.meaning (modes.take true items)).1, modes)
  | alternation branches => Ast.meaningOfBranches modes branches
  | concat parts => Ast.meaningOfParts modes parts

/-- The meaning of several branches, of which the first is preferred. -/
def Ast.meaningOfBranches (modes : Modes) : List Ast → Except Fault (Expr × Modes)
  | [] => .ok (.one fun _ => false, modes)
  | branch :: branches => do
    let (left, modes) ← branch.meaning modes
    let (right, modes) ← Ast.meaningOfBranches modes branches
    return (.either left right, modes)

/-- The meaning of several parts, one after the other. -/
def Ast.meaningOfParts (modes : Modes) : List Ast → Except Fault (Expr × Modes)
  | [] => .ok (.empty, modes)
  | part :: parts => do
    let (first, modes) ← part.meaning modes
    let (second, modes) ← Ast.meaningOfParts modes parts
    return (.seq first second, modes)

end

/-! ## Size

An expression whose automaton would take too much room is refused, where room is limited. The room is
estimated: counted repetitions multiply, and a large class takes room for its many ranges.
-/

/-- The room an automaton may take, in bytes. -/
def sizeLimit : Nat := 10 * 0x100000

/-- The estimated room of a named class. -/
def NamedClass.size : NamedClass → Nat
  | short .digit => 4000
  | short .space => 600
  | short .word => 60000
  | ascii _ => 48
  | property _ | propertyValue _ _ => 20000

mutual

/-- The estimated room of a class in brackets. -/
def ClassSet.size : ClassSet → Nat
  | literal _ | range _ _ => 40
  | named negated name => if negated then name.size + 200 else name.size
  | bracketed negated inner => if negated then inner.size + 400 else inner.size
  | union items => ClassSet.sizeOfAll items
  | combined _ left right => max left.size right.size

/-- The estimated room of several classes. -/
def ClassSet.sizeOfAll : List ClassSet → Nat
  | [] => 0
  | item :: items => item.size + ClassSet.sizeOfAll items

end

mutual

/-- Whether an expression can match nothing but the empty text. -/
def Ast.isVoid : Ast → Bool
  | empty | flags _ | anchor _ => true
  | literal _ | dot | named _ _ | bracketed _ _ => false
  | rounds _ most _ body => body.isVoid || most = some 0
  | group _ body => body.isVoid
  | alternation asts | concat asts => Ast.areVoid asts

/-- Whether several expressions can match nothing but the empty text. -/
def Ast.areVoid : List Ast → Bool
  | [] => true
  | ast :: asts => ast.isVoid && Ast.areVoid asts

end

mutual

/-- The estimated room of an expression. -/
def Ast.size : Ast → Nat
  | empty | flags _ => 0
  | literal l => 32 * l.char.utf8Size
  | dot => 400
  | anchor _ => 32
  | named negated name => if negated then name.size + 200 else name.size
  | bracketed negated set => if negated then set.size + 400 else set.size
  | rounds least most _ body =>
    if body.isVoid then body.size else max (most.getD least) 1 * (body.size + 8)
  | group _ body => body.size + 64
  | alternation branches => Ast.sizeOfAll branches + 32
  | concat parts => Ast.sizeOfAll parts

/-- The estimated room of several expressions. -/
def Ast.sizeOfAll : List Ast → Nat
  | [] => 0
  | ast :: asts => ast.size + Ast.sizeOfAll asts

end

/-- Reads a regular expression and gives its meaning, if there is room for it. -/
def Expr.ofText (room : Option Nat) (t : Text) : Except Fault Expr := do
  let ast ← Ast.parse t
  let (e, _) ← ast.meaning {}
  if room.all (ast.size ≤ ·) then return e else throw .tooLarge

end TreeQuery.Regex
