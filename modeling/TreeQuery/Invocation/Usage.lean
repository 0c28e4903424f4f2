import TreeQuery.Integer
import TreeQuery.Invocation

/-!
# Usage

A command line is the name of a command and then, in any order, operands and options. Long options
begin with two hyphens and may carry their value after an equals sign. Short options begin with one
hyphen and may be written together; one that takes a value takes the rest of the word, if there is
any. A value may also be the next word, unless that looks like an option. After a word of two hyphens
everything is an operand, and a single hyphen always is one.

An operand or a value that was a word of its own is judged only when the next thing is taken up, so an
option that does not exist is reported before a bad value just ahead of it.
-/

namespace TreeQuery.Usage

/-- Why a command line is not carried out. -/
inductive Fault where
  /-- Help was asked for. -/
  | help
  /-- Nothing was asked for. -/
  | nothing
  | unknownCommand
  | unknownArgument
  /-- A value is missing, or is not one of those allowed. -/
  | invalidValue
  /-- A value is no number within the bounds. -/
  | invalidNumber
  /-- A value was given to an option that takes none. -/
  | unwantedValue
  /-- An option was given twice. -/
  | repeatedOption
  | missingOperand
  deriving DecidableEq, Repr

namespace Fault

/-- The exit code of a fault: asking for help is none. -/
def exitCode : Fault → Nat
  | help => 0
  | _ => 2

/-- The wording of a fault. -/
def message : Fault → Text
  | help => "help".toList
  | nothing => "no command".toList
  | unknownCommand => "unknown command".toList
  | unknownArgument => "unknown argument".toList
  | invalidValue => "missing or invalid value".toList
  | invalidNumber => "invalid number".toList
  | unwantedValue => "unwanted value".toList
  | repeatedOption => "repeated option".toList
  | missingOperand => "missing operand".toList

end Fault

/-- How the program is called. -/
def summary : Text :=
  "\n".intercalate
    ["usage: treequery eval TREE PATH [--fuel N] [--json]",
      "       treequery single TREE PATH [--fuel N] [--json] [--kind KIND]",
      "       treequery locate TREE PATH [--fuel N] [-p NAMES]",
      "       treequery params TREE PATH [--fuel N] [--json]",
      "       treequery quote TEXT",
      "       treequery tree TREE",
      "All commands take -v and --color WHEN. TREE is a file, or - for standard input.", ""] |>.toList

/-! ## Commands and options -/

/-- The name of a command. -/
inductive Verb where
  | eval
  | single
  | locate
  | params
  | quote
  | tree
  deriving DecidableEq, Repr

/-- The command of that name. -/
def Verb.ofText? (t : Text) : Option Verb :=
  [("eval", Verb.eval), ("single", .single), ("locate", .locate), ("params", .params),
    ("quote", .quote), ("tree", .tree)].findSome? fun (name, verb) =>
      if name.toList = t then some verb else none

/-- How many operands a command takes. -/
def Verb.arity : Verb → Nat
  | quote => 1
  | tree => 1
  | _ => 2

/-- An option. -/
inductive Flag where
  | help
  | verbose
  | color
  | fuel
  | json
  | kind
  | params
  deriving DecidableEq, Repr

namespace Flag

/-- Whether an option takes a value. -/
def takesValue : Flag → Bool
  | help | verbose | json => false
  | color | fuel | kind | params => true

/-- The option of that long name. -/
def ofLong? (t : Text) : Option Flag :=
  [("help", Flag.help), ("color", .color), ("fuel", .fuel), ("json", .json), ("kind", .kind),
    ("params", .params)].findSome? fun (name, flag) =>
      if name.toList = t then some flag else none

/-- The option of that letter. -/
def ofShort? : Char → Option Flag
  | 'h' => some help
  | 'v' => some verbose
  | 'p' => some params
  | _ => none

end Flag

/-- Whether a command has an option. -/
def Verb.has (verb : Verb) : Flag → Bool
  | .help | .verbose | .color => true
  | .fuel => verb ≠ .quote && verb ≠ .tree
  | .json => verb = .eval || verb = .single || verb = .params
  | .kind => verb = .single
  | .params => verb = .locate

/-! ## What has been given -/

/-- What a command line has given so far. -/
structure Draft where
  operands : List Text := []
  verbosity : Nat := 0
  json : Bool := false
  color : Option ColorChoice := none
  fuel : Option Nat := none
  kind : Option Text := none
  params : Option (List Text) := none
  deriving Repr

namespace Draft

/-- The color choice of that name. -/
def color? (t : Text) : Option ColorChoice :=
  [("auto", ColorChoice.auto), ("always", .always), ("never", .never)].findSome?
    fun (name, choice) => if name.toList = t then some choice else none

/-- Takes an operand. The first operand of most commands names a file, and no file has an empty
name. -/
def addOperand (verb : Verb) (t : Text) (draft : Draft) : Except Fault Draft :=
  if draft.operands = [] ∧ verb ≠ .quote ∧ t = [] then .error .invalidValue
  else .ok { draft with operands := draft.operands ++ [t] }

/-- A value that is given for the first time. -/
def onlyOnce {α : Type} (before : Option α) (fault : Fault) (value : Option α) :
    Except Fault (Option α) :=
  match before, value with
  | some _, _ => .error .repeatedOption
  | none, none => .error fault
  | none, some a => .ok (some a)

/-- Takes the value of an option. -/
def setValue (flag : Flag) (t : Text) (draft : Draft) : Except Fault Draft :=
  match flag with
  | .color => (onlyOnce draft.color .invalidValue (color? t)).map ({ draft with color := · })
  | .fuel =>
    (onlyOnce draft.fuel .invalidNumber (Integer.readCount? t)).map ({ draft with fuel := · })
  | .kind => (onlyOnce draft.kind .invalidValue (some t)).map ({ draft with kind := · })
  | .params =>
    let names := (Text.splitBy (· = ',') t).filter (· ≠ [])
    (onlyOnce draft.params .invalidValue (some names)).map ({ draft with params := · })
  | _ => .error .unwantedValue

/-- Takes an option without a value. Verbosity is counted up to 255. -/
def setFlag (flag : Flag) (draft : Draft) : Except Fault Draft :=
  match flag with
  | .help => .error .help
  | .verbose => .ok { draft with verbosity := min 255 (draft.verbosity + 1) }
  | .json => if draft.json then .error .repeatedOption else .ok { draft with json := true }
  | _ => .error .invalidValue

end Draft

/-- What is yet to be judged. -/
inductive Pending where
  | operand (t : Text)
  /-- The value of an option, if it has come already. -/
  | value (flag : Flag) (t : Option Text)
  deriving Repr

/-- How far a command line has been read. -/
structure Progress where
  draft : Draft := {}
  pending : Option Pending := none
  /-- Whether only operands may follow. -/
  operandsOnly : Bool := false
  deriving Repr

namespace Progress

/-- Judges what is pending. -/
def settle (verb : Verb) (p : Progress) : Except Fault Progress :=
  match p.pending with
  | none => .ok p
  | some (.operand t) =>
    (p.draft.addOperand verb t).map fun draft => { p with draft, pending := none }
  | some (.value _ none) => .error .invalidValue
  | some (.value flag (some t)) =>
    (p.draft.setValue flag t).map fun draft => { p with draft, pending := none }

/-- The number of operands so far, the pending one included. -/
def operandCount (p : Progress) : Nat :=
  match p.pending with
  | some (.operand _) => p.draft.operands.length + 1
  | _ => p.draft.operands.length

/-- Takes an operand. -/
def operand (verb : Verb) (t : Text) (p : Progress) : Except Fault Progress :=
  if verb.arity ≤ p.operandCount then .error .unknownArgument
  else (p.settle verb).map ({ · with pending := some (.operand t) })

/-- Takes an option, with the value written in the same word if there is one. -/
def option (verb : Verb) (flag : Flag) (attached : Option Text) (p : Progress) :
    Except Fault Progress :=
  match flag.takesValue, attached with
  | true, some t => do
    let p ← p.settle verb
    return { p with draft := ← p.draft.setValue flag t }
  | true, none => (p.settle verb).map ({ · with pending := some (.value flag none) })
  | false, some _ => .error .unwantedValue
  | false, none => do
    let p ← p.settle verb
    return { p with draft := ← p.draft.setFlag flag }

/-- Takes a long option, without its hyphens. -/
def longOption (verb : Verb) (t : Text) (p : Progress) : Except Fault Progress :=
  let (name, attached) := match Text.cutAt? '=' t with
    | some (name, value) => (name, some value)
    | none => (t, none)
  match (Flag.ofLong? name).filter verb.has with
  | some flag => p.option verb flag attached
  | none => .error .unknownArgument

/-- The value that the rest of a word gives to a short option. -/
def attachedToShort : Text → Option Text
  | [] => none
  | '=' :: t => some t
  | t => some t

/-- Takes short options, without their hyphen. -/
def shortOptions (verb : Verb) (p : Progress) : Text → Except Fault Progress
  | [] => .ok p
  | c :: rest =>
    match (Flag.ofShort? c).filter verb.has with
    | none => .error .unknownArgument
    | some flag =>
      if flag.takesValue then p.option verb flag (attachedToShort rest)
      else do shortOptions verb (← p.option verb flag none) rest

/-- Takes a word that is no option: the value that is waited for, or else an operand. -/
def plainWord (verb : Verb) (t : Text) (p : Progress) : Except Fault Progress :=
  match p.pending with
  | some (.value flag none) => .ok { p with pending := some (.value flag (some t)) }
  | _ => p.operand verb t

/-- Takes a word. -/
def word (verb : Verb) (p : Progress) (t : Text) : Except Fault Progress :=
  if p.operandsOnly then p.operand verb t
  else match t with
    | ['-', '-'] => .ok { p with operandsOnly := true }
    | '-' :: '-' :: name => p.longOption verb name
    | '-' :: c :: cs => p.shortOptions verb (c :: cs)
    | _ => p.plainWord verb t

end Progress

/-! ## Whole command lines -/

/-- The limit that a number given as fuel sets; zero lifts the limit. -/
def fuelLimit : Option Nat → Fuel
  | none => .standard
  | some 0 => none
  | some n => some n

/-- The invocation that a draft amounts to. -/
def Draft.invocation (verb : Verb) (draft : Draft) : Except Fault Invocation :=
  let fuel := fuelLimit draft.fuel
  let command : Option Command := match verb, draft.operands with
    | .eval, [source, path] => some (.eval { source, path, fuel } draft.json)
    | .single, [source, path] =>
      some (.single { source, path, fuel } (draft.kind.getD "node".toList) draft.json)
    | .locate, [source, path] => some (.locate { source, path, fuel } (draft.params.getD []))
    | .params, [source, path] => some (.params { source, path, fuel } draft.json)
    | .quote, [text] => some (.quote text)
    | .tree, [source] => some (.tree source)
    | _, _ => none
  match command with
  | none => .error .missingOperand
  | some command =>
    .ok { command, verbosity := draft.verbosity, color := draft.color.getD .auto }

/-- Reads what follows the name of a command. -/
def Verb.read (verb : Verb) (words : List Text) : Except Fault Invocation := do
  let p ← words.foldlM (Progress.word verb) {}
  let p ← p.settle verb
  p.draft.invocation verb

/-- Whether a word names a command, or asks for help as one. -/
def namesCommand (t : Text) : Bool := t = "help".toList || (Verb.ofText? t).isSome

/-- The fault of words after a request for help, which may name one command. -/
def helpFault : List Text → Fault
  | [] => .help
  | [t] => if namesCommand t then .help else .unknownCommand
  | _ => .unknownCommand

/-- The fault of a command line that begins with a word that names no command to be carried out. -/
def leadingFault (t : Text) (rest : List Text) : Fault :=
  match t with
  | ['-', '-'] =>
    match rest with
    | [] => .nothing
    | t :: _ => if namesCommand t then .unknownArgument else .unknownCommand
  | '-' :: '-' :: name =>
    if name = "help".toList then .help
    else if name.take 5 = "help=".toList then .unwantedValue
    else .unknownArgument
  | '-' :: 'h' :: _ => .help
  | '-' :: _ :: _ => .unknownArgument
  | _ => if t = "help".toList then helpFault rest else .unknownCommand

/-- Reads a command line. -/
def read : List Text → Except Fault Invocation
  | [] => .error .nothing
  | t :: rest =>
    match Verb.ofText? t with
    | some verb => verb.read rest
    | none => .error (leadingFault t rest)

end TreeQuery.Usage
