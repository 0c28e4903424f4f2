import TreeQuery.Regex.Fault
import TreeQuery.Regex.Syntax
import TreeQuery.Regex.Unicode.BinaryProperty

/-!
# Reading regular expressions

The reader goes through the text once, from left to right, and stops at the first fault. Groups and
bracketed classes that are open are kept on a stack together with what was read before them.

Where blanks are ignored (flag `x`), blanks and comments may stand between any two parts, inside
counts, and between the digits of a character code.

## Termination

* `skipBlanks`, `flagItems`, `hexDigits` — recursion on the text or the number of digits
* `takeSkipping` — the text gets shorter, because skipping never makes it longer
* `classRounds`, `rounds` — each round consumes a character, so the length of the text bounds their
  number
-/

namespace TreeQuery.Regex.Parser

open Unicode (isWhiteSpace isAlphabetic isNumeric)

/-! ## Blanks -/

/-- Drops blanks and comments; a comment runs from `#` to the end of its line. -/
def dropBlanks : (inComment : Bool) → Text → Text
  | _, [] => []
  | true, c :: rest => dropBlanks (c ≠ '\n') rest
  | false, c :: rest =>
    if isWhiteSpace c then dropBlanks false rest
    else if c = '#' then dropBlanks true rest
    else c :: rest

/-- Drops blanks and comments where these are ignored. -/
def skip (ignoring : Bool) (t : Text) : Text := if ignoring then dropBlanks false t else t

theorem length_dropBlanks_le (inComment : Bool) (t : Text) :
    (dropBlanks inComment t).length ≤ t.length := by
  induction t generalizing inComment with
  | nil => cases inComment <;> simp [dropBlanks]
  | cons c t ih =>
    cases inComment with
    | true => exact Nat.le_succ_of_le (ih _)
    | false =>
      rw [dropBlanks]
      split
      · exact Nat.le_succ_of_le (ih _)
      · split
        · exact Nat.le_succ_of_le (ih _)
        · exact Nat.le_refl _

theorem length_skip_le (ignoring : Bool) (t : Text) : (skip ignoring t).length ≤ t.length := by
  unfold skip
  split
  · exact length_dropBlanks_le false t
  · exact Nat.le_refl _

/-- The longest run of accepted characters and what follows it; blanks are skipped after each. -/
def takeSkipping (ignoring : Bool) (accepts : Char → Bool) : Text → Text × Text
  | [] => ([], [])
  | c :: rest =>
    if accepts c then
      let (run, rest) := takeSkipping ignoring accepts (skip ignoring rest)
      (c :: run, rest)
    else ([], c :: rest)
termination_by t => t.length
decreasing_by exact Nat.lt_succ_of_le (length_skip_le ignoring rest)

/-- The next character but one as a class in brackets sees it. Where blanks are ignored, those
before it do not count, and the first `#` among them does not count either. -/
def peekPast (ignoring : Bool) (rest : Text) : Option Char :=
  if ignoring then
    match rest.dropWhile isWhiteSpace with
    | '#' :: more => (more.dropWhile isWhiteSpace).head?.or rest.head?
    | c :: _ => some c
    | [] => rest.head?
  else rest.head?

/-! ## Numbers and character codes -/

/-- Whether a character is a hexadecimal digit. -/
def isHex (c : Char) : Bool :=
  c.isDigit || ('a' ≤ c && c ≤ 'f') || ('A' ≤ c && c ≤ 'F')

/-- The value of a hexadecimal digit. -/
def hexValue (c : Char) : Nat :=
  if c.isDigit then c.toNat - '0'.toNat else c.toLower.toNat - 'a'.toNat + 10

/-- The character of a code in hexadecimal digits, if there is one. -/
def charOfHex? (digits : Text) : Option Char :=
  let code := digits.foldl (fun n c => 16 * n + hexValue c) 0
  if code.isValidChar then some (Char.ofNat code) else none

/-- Reads a decimal number with blanks around it. The number may be missing or too large without
the reading as such failing. -/
def decimal (ignoring : Bool) (t : Text) : Except Fault Nat × Text :=
  let (digits, rest) := takeSkipping ignoring Char.isDigit (t.dropWhile isWhiteSpace)
  let value := digits.foldl (fun n c => 10 * n + (c.toNat - '0'.toNat)) 0
  let number :=
    if digits.isEmpty then .error .repetitionCountDecimalEmpty
    else if value < 0x100000000 then .ok value
    else .error .decimalInvalid
  (number, (takeSkipping ignoring isWhiteSpace rest).2)

/-- Reads exactly `n` hexadecimal digits. -/
def hexDigits (ignoring : Bool) : Nat → Text → Except Fault (Text × Text)
  | 0, t => .ok ([], t)
  | _ + 1, [] => .error .escapeUnexpectedEnd
  | n + 1, c :: rest =>
    if isHex c then do
      let (digits, rest) ← hexDigits ignoring n (skip ignoring rest)
      return (c :: digits, rest)
    else .error .escapeHexInvalidDigit

/-- Reads the code of a character after `x`, `u` or `U`, which are followed by `width` digits or by
digits in braces. -/
def charCode (ignoring : Bool) (width : Nat) (t : Text) : Except Fault (Literal × Text) :=
  match skip ignoring t with
  | [] => .error .escapeUnexpectedEnd
  | '{' :: rest =>
    match takeSkipping ignoring isHex (skip ignoring rest) with
    | (_, []) => .error .escapeUnexpectedEnd
    | (digits, '}' :: rest) =>
      if digits.isEmpty then .error .escapeHexEmpty
      else match charOfHex? digits with
        | some char => .ok ({ char }, skip ignoring rest)
        | none => .error .escapeHexInvalid
    | _ => .error .escapeHexInvalidDigit
  | t => do
    let (digits, rest) ← hexDigits ignoring width t
    match charOfHex? digits with
    | some char => return ({ char, asByte := width = 2 }, rest)
    | none => throw .escapeHexInvalid

/-! ## Escapes -/

/-- The characters that mean something outside brackets or in them. -/
def isMeta (c : Char) : Bool := "\\.+*?()|[]\x7b\x7d^$#&-~".toList.contains c

/-- Whether a backslash may stand before a character to no effect. -/
def isEscapable (c : Char) : Bool :=
  isMeta c || (c.toNat < 128 && !c.isAlphanum && c ≠ '<' && c ≠ '>')

/-- The two parts of a property and its value, if a name gives both. -/
def propertyParts (name : Text) : NamedClass :=
  let cut? (sep : Text) : Option NamedClass :=
    (List.range name.length).findSome? fun i =>
      if sep.isPrefixOf (name.drop i) then
        some (.propertyValue (name.take i) (name.drop (i + sep.length)))
      else none
  ((cut? ['!', '=']).or ((cut? [':']).or (cut? ['=']))).getD (.property name)

/-- Reads the name of a property after `p` or `P`. -/
def propertyClass (ignoring negated : Bool) (t : Text) : Except Fault (Ast × Text) :=
  match skip ignoring t with
  | [] => .error .escapeUnexpectedEnd
  | '{' :: rest =>
    match takeSkipping ignoring (· ≠ '}') (skip ignoring rest) with
    | (name, _ :: rest) => .ok (.named negated (propertyParts name), rest)
    | (_, []) => .error .escapeUnexpectedEnd
  | '\\' :: _ => .error .unicodeClassInvalid
  | c :: rest => .ok (.named negated (.property [c]), skip ignoring rest)

/-- The word assertion of a name in braces. -/
def wordEdge? (name : Text) : Option WordEdge :=
  [("start", WordEdge.start), ("end", .finish), ("start-half", .startHalf),
    ("end-half", .finishHalf)].findSome?
    fun (spelling, edge) => if spelling.toList = name then some edge else none

/-- Reads the name in braces that may follow `\b`. Braces whose first character cannot begin a name
are left alone: they hold a count. -/
def wordBoundary (ignoring : Bool) (t : Text) : Except Fault (Ast × Text) :=
  let isNameChar (c : Char) := c.isAlpha || c = '-'
  match t with
  | '{' :: rest =>
    match skip ignoring rest with
    | [] => .error .wordBoundaryUnexpectedEnd
    | c :: rest =>
      if isNameChar c then
        match takeSkipping ignoring isNameChar (c :: rest) with
        | (name, '}' :: rest) =>
          match wordEdge? name with
          | some edge => .ok (.anchor (.word edge), rest)
          | none => .error .wordBoundaryUnrecognized
        | _ => .error .wordBoundaryUnclosed
      else .ok (.anchor (.word .border), t)
  | _ => .ok (.anchor (.word .border), t)

/-- Reads what follows a backslash. -/
def escape (ignoring : Bool) : Text → Except Fault (Ast × Text)
  | [] => .error .escapeUnexpectedEnd
  | c :: rest =>
    let plain (c : Char) : Except Fault (Ast × Text) := .ok (.literal { char := c }, rest)
    let anchor (a : Anchor) : Except Fault (Ast × Text) := .ok (.anchor a, rest)
    let short (negated : Bool) (kind : ShortClass) : Except Fault (Ast × Text) :=
      .ok (.named negated (.short kind), rest)
    let code (width : Nat) : Except Fault (Ast × Text) :=
      (charCode ignoring width rest).map fun (literal, rest) => (.literal literal, rest)
    if c.isDigit then .error .backreference
    else if isEscapable c then plain c
    else match c with
      | 'x' => code 2
      | 'u' => code 4
      | 'U' => code 8
      | 'p' => propertyClass ignoring false rest
      | 'P' => propertyClass ignoring true rest
      | 'd' => short false .digit
      | 'D' => short true .digit
      | 's' => short false .space
      | 'S' => short true .space
      | 'w' => short false .word
      | 'W' => short true .word
      | 'a' => plain '\x07'
      | 'f' => plain '\x0c'
      | 't' => plain '\t'
      | 'n' => plain '\n'
      | 'r' => plain '\r'
      | 'v' => plain '\x0b'
      | 'A' => anchor .textStart
      | 'z' => anchor .textEnd
      | 'b' => wordBoundary ignoring rest
      | 'B' => anchor (.word .inside)
      | '<' => anchor (.word .start)
      | '>' => anchor (.word .finish)
      | _ => .error .escapeUnrecognized

/-! ## Classes in brackets -/

/-- A class in brackets that is not closed yet, or the left side of an operation in it. -/
inductive ClassFrame where
  /-- An opened bracket, with the items before it, the last first. -/
  | bracket (negated : Bool) (before : List ClassSet)
  | operand (op : ClassOp) (left : ClassSet)

/-- Completes the operation that waits for its right side, if there is one. -/
def closeOperand (frames : List ClassFrame) (right : ClassSet) : ClassSet × List ClassFrame :=
  match frames with
  | .operand op left :: frames => (.combined op left right, frames)
  | frames => (right, frames)

/-- Reads the name of an ASCII class and the marks that close it. -/
def asciiName? (negated : Bool) (t : Text) : Option (ClassSet × Text) :=
  match t.span (· ≠ ':') with
  | (name, ':' :: ']' :: rest) =>
    (AsciiClass.ofName? name).map fun kind => (.named negated (.ascii kind), rest)
  | _ => none

/-- Reads an ASCII class such as `:alpha:]` after its bracket; what is not one is left alone. -/
def asciiClass? : Text → Option (ClassSet × Text)
  | ':' :: '^' :: rest => asciiName? true rest
  | ':' :: rest => asciiName? false rest
  | _ => none

/-- Reads the negation that may follow an opening bracket. -/
def classNegation (ignoring : Bool) (t : Text) : Bool × Text :=
  match skip ignoring t with
  | '^' :: rest => (true, skip ignoring rest)
  | t => (false, t)

/-- Reads what may follow an opening bracket: a negation, hyphens, and a closing bracket that stands
for itself. -/
def classOpening (ignoring : Bool) (t : Text) : Except Fault (Bool × List ClassSet × Text) :=
  let (negated, t) := classNegation ignoring t
  let (hyphens, t) := takeSkipping ignoring (· = '-') t
  let items := hyphens.map fun char => ClassSet.literal { char }
  match items, t with
  | _, [] => .error .classUnclosed
  | [], ']' :: rest =>
    match skip ignoring rest with
    | [] => .error .classUnclosed
    | rest => .ok (negated, [.literal { char := ']' }], rest)
  | items, t => .ok (negated, items, t)

/-- Reads one character or escape in brackets. -/
def classPrimitive (ignoring : Bool) : Text → Except Fault (Ast × Text)
  | [] => .error .classUnclosed
  | '\\' :: rest => escape ignoring rest
  | char :: rest => .ok (.literal { char }, rest)

/-- What a primitive stands for as an item of a class. -/
def classItem : Ast → Except Fault ClassSet
  | .literal literal => .ok (.literal literal)
  | .named negated name => .ok (.named negated name)
  | _ => .error .classEscapeInvalid

/-- What a primitive stands for as an end of a range. -/
def rangeEnd : Ast → Except Fault Literal
  | .literal literal => .ok literal
  | _ => .error .classRangeLiteral

/-- Reads a primitive or a range of them. A hyphen before a closing bracket or another hyphen does
not make a range. -/
def classRange (ignoring : Bool) (t : Text) : Except Fault (ClassSet × Text) := do
  let (first, rest) ← classPrimitive ignoring t
  match skip ignoring rest with
  | [] => throw .classUnclosed
  | '-' :: more =>
    if peekPast ignoring more = some ']' ∨ peekPast ignoring more = some '-' then
      return (← classItem first, '-' :: more)
    else
      let (last, rest) ← classPrimitive ignoring (skip ignoring more)
      let first ← rangeEnd first
      let last ← rangeEnd last
      if first.char ≤ last.char then return (.range first last, rest)
      else throw .classRangeInvalid
  | rest => return (← classItem first, rest)

/-- Reads classes up to the bracket that closes the outermost one. `items` holds the items of the
innermost class so far, the last first. -/
def classRounds (ignoring : Bool) : Nat → List ClassFrame → List ClassSet → Text →
    Except Fault (Ast × Text)
  | 0, _, _, _ => .error .classUnclosed
  | n + 1, frames, items, t =>
    let operate (op : ClassOp) (rest : Text) :=
      let (left, frames) := closeOperand frames (.ofItems items.reverse)
      classRounds ignoring n (.operand op left :: frames) [] rest
    match skip ignoring t with
    | [] => .error .classUnclosed
    | '[' :: rest =>
      match asciiClass? rest with
      | some (item, rest) => classRounds ignoring n frames (item :: items) rest
      | none => do
        let (negated, opened, rest) ← classOpening ignoring rest
        classRounds ignoring n (.bracket negated items :: frames) opened.reverse rest
    | ']' :: rest =>
      match closeOperand frames (.ofItems items.reverse) with
      | (set, [.bracket negated _]) => .ok (.bracketed negated set, rest)
      | (set, .bracket negated before :: frames) =>
        classRounds ignoring n frames (.bracketed negated set :: before) rest
      | _ => .error .classUnclosed
    | '&' :: '&' :: rest => operate .intersection rest
    | '-' :: '-' :: rest => operate .difference rest
    | '~' :: '~' :: rest => operate .symmetricDifference rest
    | t => do
      let (item, rest) ← classRange ignoring t
      classRounds ignoring n frames (item :: items) rest

/-- Reads a class after its opening bracket. -/
def bracketed (ignoring : Bool) (t : Text) : Except Fault (Ast × Text) := do
  let (negated, opened, rest) ← classOpening ignoring t
  classRounds ignoring rest.length [.bracket negated []] opened.reverse rest

/-! ## Groups -/

/-- Reads a list of flags up to the colon or parenthesis that ends it. `dangling` tells whether the
last mark was a negation. -/
def flagItems : List FlagItem → (dangling : Bool) → Text →
    Except Fault (List FlagItem × Char × Text)
  | _, _, [] => .error .flagUnexpectedEnd
  | items, dangling, c :: rest =>
    if c = ':' ∨ c = ')' then
      if dangling then .error .flagDanglingNegation else .ok (items, c, rest)
    else if c = '-' then
      if .negation ∈ items then .error .flagRepeatedNegation
      else flagItems (items ++ [.negation]) true rest
    else match Flag.ofChar? c with
      | none => .error .flagUnrecognized
      | some flag =>
        if .flag flag ∈ items then .error .flagDuplicate
        else flagItems (items ++ [.flag flag]) false rest

/-- Whether a character may stand in a group's name. -/
def isNameChar (first : Bool) (c : Char) : Bool :=
  c = '_' || isAlphabetic c || (!first && (c = '.' || c = '[' || c = ']' || isNumeric c))

/-- Reads a group's name up to the angle that closes it. -/
def groupName (taken : List Text) (t : Text) : Except Fault (Text × Text) :=
  let (name, rest) := t.span (· ≠ '>')
  let valid := match name with
    | [] => true
    | c :: more => isNameChar true c && more.all (isNameChar false)
  if !valid then .error .groupNameInvalid
  else match rest with
    | [] => .error .groupNameUnexpectedEnd
    | _ :: rest =>
      if name.isEmpty then .error .groupNameEmpty
      else if name ∈ taken then .error .groupNameDuplicate
      else .ok (name, rest)

/-- What an opening parenthesis begins. -/
inductive Opening where
  | flags (items : List FlagItem)
  | group (kind : GroupKind)

/-- Reads what follows an opening parenthesis. -/
def groupOpening (taken : List Text) (t : Text) : Except Fault (Opening × Text) :=
  let named (t : Text) : Except Fault (Opening × Text) :=
    (groupName taken t).map fun (name, rest) => (.group (.capture (some name)), rest)
  match t with
  | '?' :: '=' :: _ | '?' :: '!' :: _ | '?' :: '<' :: '=' :: _ | '?' :: '<' :: '!' :: _ =>
    .error .lookAround
  | '?' :: 'P' :: '<' :: rest => named rest
  | '?' :: '<' :: rest => named rest
  | '?' :: [] => .error .groupUnclosed
  | '?' :: rest => do
    let (items, finish, rest) ← flagItems [] false rest
    if finish = ':' then return (.group (.plain items), rest)
    else if items.isEmpty then throw .repetitionMissing
    else return (.flags items, rest)
  | t => .ok (.group (.capture none), t)

/-! ## Repetitions -/

/-- Reads the bounds of a counted repetition, up to the brace that closes it. -/
def countBounds (ignoring : Bool) (t : Text) : Except Fault (Nat × Option Nat × Text) :=
  match decimal ignoring t with
  | (_, []) => .error .repetitionCountUnclosed
  | (least, ',' :: rest) =>
    match skip ignoring rest with
    | [] => .error .repetitionCountUnclosed
    | '}' :: rest => least.map fun least => (least, none, '}' :: rest)
    | rest => do
      let least ← least
      let (most, rest) := decimal ignoring rest
      return (least, some (← most), rest)
  | (least, rest) => least.map fun least => (least, some least, rest)

/-- Reads the mark that makes a repetition reluctant, if there is one, and tells whether the
repetition is greedy. -/
def greed : Text → Bool × Text
  | '?' :: rest => (false, rest)
  | t => (true, t)

/-- Reads the bounds of a counted repetition after its opening brace, and whether it is greedy. -/
def counts (ignoring : Bool) (t : Text) : Except Fault (Nat × Option Nat × Bool × Text) :=
  match skip ignoring t with
  | [] => .error .repetitionCountUnclosed
  | t => do
    match ← countBounds ignoring t with
    | (least, most, '}' :: rest) =>
      if most.any (· < least) then throw .repetitionCountInvalid
      else return (least, most, greed (skip ignoring rest))
    | _ => throw .repetitionCountUnclosed

/-! ## Expressions -/

/-- A group that is not closed yet. -/
structure Frame where
  kind : GroupKind
  /-- The branches and parts before the group, the last first. -/
  branches : List Ast
  parts : List Ast
  /-- Whether blanks are ignored around the group. -/
  ignoring : Bool

/-- What has been read so far. -/
structure State where
  /-- The finished branches of the innermost group, the last first. -/
  branches : List Ast := []
  /-- The parts of its last branch, the last first. -/
  parts : List Ast := []
  frames : List Frame := []
  ignoring : Bool := false
  /-- The names that groups have taken. -/
  taken : List Text := []

namespace State

/-- The inside of the innermost group. -/
def inside (s : State) : Ast :=
  .ofBranches (.ofParts s.parts.reverse :: s.branches).reverse

/-- Appends a part. -/
def push (part : Ast) (s : State) : State := { s with parts := part :: s.parts }

/-- Begins another branch. -/
def branch (s : State) : State :=
  { s with branches := .ofParts s.parts.reverse :: s.branches, parts := [] }

/-- Replaces the last part by its repetition. -/
def rounds (least : Nat) (most : Option Nat) (greedy : Bool) (s : State) : Except Fault State :=
  match s.parts with
  | part :: parts =>
    if part.isRepeatable then .ok { s with parts := .rounds least most greedy part :: parts }
    else .error .repetitionMissing
  | [] => .error .repetitionMissing

/-- Opens a group or takes in flags. -/
def openWith (s : State) : Opening → State
  | .flags items =>
    { s.push (.flags items) with ignoring := (FlagItem.state? .ignoreBlanks items).getD s.ignoring }
  | .group kind =>
    { branches := []
      parts := []
      frames := ⟨kind, s.branches, s.parts, s.ignoring⟩ :: s.frames
      ignoring := match kind with
        | .plain items => (FlagItem.state? .ignoreBlanks items).getD s.ignoring
        | .capture _ => s.ignoring
      taken := match kind with
        | .capture (some name) => name :: s.taken
        | _ => s.taken }

/-- Closes the innermost group. -/
def close (s : State) : Except Fault State :=
  match s.frames with
  | [] => .error .groupUnopened
  | frame :: frames =>
    .ok
      { s with
        branches := frame.branches
        parts := .group frame.kind s.inside :: frame.parts
        frames
        ignoring := frame.ignoring }

/-- Replaces the last part by its repetition; a mark for its greed may follow. -/
def repeated (least : Nat) (most : Option Nat) (s : State) (t : Text) :
    Except Fault (State × Text) :=
  let (greedy, rest) := greed t
  (s.rounds least most greedy).map fun s => (s, rest)

/-- Reads the first part of a text that begins with neither a blank nor a comment. -/
def round (s : State) : Text → Except Fault (State × Text)
  | [] => .ok (s, [])
  | '(' :: rest =>
    (groupOpening s.taken (skip s.ignoring rest)).map
      fun (opening, rest) => (s.openWith opening, rest)
  | ')' :: rest => s.close.map fun s => (s, rest)
  | '|' :: rest => .ok (s.branch, rest)
  | '[' :: rest => (bracketed s.ignoring rest).map fun (part, rest) => (s.push part, rest)
  | '?' :: rest => s.repeated 0 (some 1) rest
  | '*' :: rest => s.repeated 0 none rest
  | '+' :: rest => s.repeated 1 none rest
  | '{' :: rest => do
    let _ ← s.rounds 0 none true
    let (least, most, greedy, rest) ← counts s.ignoring rest
    return (← s.rounds least most greedy, rest)
  | '\\' :: rest => (escape s.ignoring rest).map fun (part, rest) => (s.push part, rest)
  | '.' :: rest => .ok (s.push .dot, rest)
  | '^' :: rest => .ok (s.push (.anchor .lineStart), rest)
  | '$' :: rest => .ok (s.push (.anchor .lineEnd), rest)
  | char :: rest => .ok (s.push (.literal { char }), rest)

/-- The whole expression, if no group is open. -/
def finish (s : State) : Except Fault Ast :=
  if s.frames.isEmpty then .ok s.inside else .error .groupUnclosed

end State

/-- Reads the rest of an expression, one part after the other. -/
def rounds : Nat → State → Text → Except Fault State
  | 0, s, _ => .ok s
  | n + 1, s, t =>
    match skip s.ignoring t with
    | [] => .ok s
    | t => do
      let (s, rest) ← s.round t
      rounds n s rest

end Parser

/-- Reads a regular expression. -/
def Ast.parse (t : Text) : Except Fault Ast := do
  let ast ← (← Parser.rounds t.length {} t).finish
  if ast.depth ≤ nestLimit then return ast else throw .nestLimitExceeded

end TreeQuery.Regex
