import TreeQuery.Text

/-!
# Regular expressions and their matches

An expression leads from places in a text to later places. `Expr.advance` takes an ordered list of
places and gives the ordered list of places that a match started there may end at. Order is
preference: a match that starts earlier in the list, takes an earlier branch or repeats more often
(less often, if the repetition is reluctant) comes first. What can still be matched depends on the
place alone, so of several ways to one place only the preferred one is kept, with its captures.

`Expr.find?` looks for the leftmost start that has a match and takes the preferred end there.

## Termination

* `advance` — the expression gets smaller
* `Sweep.loop` — a round that goes on has consumed a character, so rounds are bounded by the length
  of what is left
* `Sweep.optional` — the number of rounds that may still be taken
-/

namespace TreeQuery.Regex

/-- Whether an ASCII character is a letter, a digit or an underscore. -/
def isAsciiWord (c : Char) : Bool := c.isAlphanum || c = '_'

/-- A side of a word or both, for assertions about words. -/
inductive WordEdge where
  /-- A word begins or ends here. -/
  | border
  /-- No word begins or ends here. -/
  | inside
  | start
  | finish
  /-- No word reaches here from the left. -/
  | startHalf
  /-- No word goes on to the right. -/
  | finishHalf
  deriving DecidableEq, Repr

/-- A condition on a place, which consumes nothing. -/
inductive Assertion where
  | textStart
  | textEnd
  /-- After a line feed or at the start; in `crlf` mode `\r` and `\r\n` break lines too. -/
  | lineStart (crlf : Bool)
  | lineEnd (crlf : Bool)
  | word (isWord : Char → Bool) (edge : WordEdge)

/-- A regular expression whose characters are given by predicates. -/
inductive Expr where
  | empty
  | one (accepts : Char → Bool)
  | assertion (condition : Assertion)
  | seq (first second : Expr)
  | either (left right : Expr)
  /-- At least `least` rounds and at most `most`, if there is a bound; as many as possible if
  `greedy`, else as few as possible. -/
  | rounds (body : Expr) (least : Nat) (most : Option Nat) (greedy : Bool)
  /-- Remembers what the body matched under a name. -/
  | capture (name : Text) (body : Expr)

/-- A place in a text on the way of a match. -/
structure Cursor where
  /-- The character before the place. -/
  before : Option Char := none
  /-- What follows the place. -/
  rest : Text
  /-- Named pieces of the match so far, the latest first. -/
  captures : List (Text × Text) := []
  deriving DecidableEq, Repr

namespace Cursor

/-- The number of characters after the place, which tells the places of one text apart. -/
def remaining (c : Cursor) : Nat := c.rest.length

/-- The place after the next character, if that one is accepted. -/
def next? (accepts : Char → Bool) (c : Cursor) : Option Cursor :=
  match c.rest with
  | [] => none
  | x :: rest => if accepts x then some { c with before := some x, rest } else none

/-- All places of a text from the left, those inside a match apart. -/
def starts (before : Option Char) : Text → List Cursor
  | [] => [{ before, rest := [] }]
  | c :: rest => { before, rest := c :: rest } :: starts (some c) rest

/-- The places in order that are not among `seen`, each kept only where it comes first. -/
def firstsAfter (seen : List Nat) : List Cursor → List Cursor
  | [] => []
  | c :: cs =>
    let place := c.remaining
    if place ∈ seen then firstsAfter seen cs else c :: firstsAfter (place :: seen) cs

/-- The places in order, each kept only where it comes first. -/
def firsts (cs : List Cursor) : List Cursor := firstsAfter [] cs

end Cursor

/-- Whether a condition holds at a place. -/
def Assertion.holds (before after : Option Char) : Assertion → Bool
  | textStart => before.isNone
  | textEnd => after.isNone
  | lineStart false => before.isNone || before = some '\n'
  | lineEnd false => after.isNone || after = some '\n'
  | lineStart true =>
    before.isNone || before = some '\n' || (before = some '\r' && after ≠ some '\n')
  | lineEnd true =>
    after.isNone || after = some '\r' || (after = some '\n' && before ≠ some '\r')
  | word isWord edge =>
    let left := before.any isWord
    let right := after.any isWord
    match edge with
    | .border => left != right
    | .inside => left == right
    | .start => !left && right
    | .finish => left && !right
    | .startHalf => !left
    | .finishHalf => !right

/-- The state of a repetition that is being unrolled. -/
structure Sweep where
  /-- Places where a round was begun, with the number of rounds that could still follow. -/
  begun : List (Nat × Nat) := []
  /-- Places where a round ended. -/
  ended : List Nat := []
  /-- Places where the repetition was left, the latest first. -/
  left : List Cursor := []

namespace Sweep

/-- Leaves the repetition at a place. -/
def leave (c : Cursor) (s : Sweep) : Sweep := { s with left := c :: s.left }

/-- Begins a round at `c` and goes on from each of its ends. A place is never begun at twice, so a
round that consumed nothing is not followed by another. -/
def loop (body : Cursor → List Cursor) (greedy : Bool) : Nat → Cursor → Sweep → Sweep
  | 0, _, s => s
  | n + 1, c, s =>
    if (0, c.remaining) ∈ s.begun then s
    else
      (body c).foldl (fun s d =>
        if d.remaining ∈ s.ended then s
        else
          let s := { s with ended := d.remaining :: s.ended }
          if greedy then (loop body greedy n d s).leave d else loop body greedy n d (s.leave d))
        { s with begun := (0, c.remaining) :: s.begun }

/-- Leaves at `c` or begins one of the `n` rounds that may still be taken. -/
def optional (body : Cursor → List Cursor) (greedy : Bool) : Nat → Cursor → Sweep → Sweep
  | 0, c, s => s.leave c
  | n + 1, c, s =>
    if (n, c.remaining) ∈ s.begun then s
    else
      let s := { s with begun := (n, c.remaining) :: s.begun }
      if greedy then ((body c).foldl (fun s d => optional body greedy n d s) s).leave c
      else (body c).foldl (fun s d => optional body greedy n d s) (s.leave c)

/-- Where the repetition was left, in order. -/
def ends (s : Sweep) : List Cursor := Cursor.firsts s.left.reverse

end Sweep

/-- Runs a step `n` times, or until no place is left. -/
def advanceTimes (step : List Cursor → List Cursor) : Nat → List Cursor → List Cursor
  | 0, cs => cs
  | _, [] => []
  | n + 1, cs => advanceTimes step n (step cs)

/-- One round or more, from each of the places. -/
def advanceLoop (step : List Cursor → List Cursor) (greedy : Bool) (cs : List Cursor) :
    List Cursor :=
  (cs.foldl (fun s c => Sweep.loop (fun d => step [d]) greedy (c.remaining + 1) c s) {}).ends

/-- Any number of rounds, from each of the places. -/
def advanceStar (step : List Cursor → List Cursor) (greedy : Bool) (cs : List Cursor) :
    List Cursor :=
  (cs.foldl (fun s c =>
    let round := Sweep.loop (fun d => step [d]) greedy (c.remaining + 1) c
    if greedy then (round s).leave c else round (s.leave c)) {}).ends

/-- At most `n` rounds, from each of the places. -/
def advanceOptional (step : List Cursor → List Cursor) (greedy : Bool) (n : Nat)
    (cs : List Cursor) : List Cursor :=
  (cs.foldl (fun s c => Sweep.optional (fun d => step [d]) greedy n c s) {}).ends

/-- The places that matches started at the given places end at, the preferred ones first. -/
def Expr.advance : Expr → List Cursor → List Cursor
  | empty, cs => cs
  | one accepts, cs => cs.filterMap (·.next? accepts)
  | assertion condition, cs => cs.filter fun c => condition.holds c.before c.rest.head?
  | seq first second, cs => second.advance (first.advance cs)
  | either left right, cs =>
    Cursor.firsts (cs.flatMap fun c => left.advance [c] ++ right.advance [c])
  | rounds body least most greedy, cs =>
    match least, most with
    | 0, none => advanceStar body.advance greedy cs
    | n + 1, none => advanceLoop body.advance greedy (advanceTimes body.advance n cs)
    | n, some m =>
      let forced := advanceTimes body.advance n cs
      if m ≤ n then forced else advanceOptional body.advance greedy (m - n) forced
  | capture name body, cs =>
    Cursor.firsts (cs.flatMap fun c => (body.advance [c]).map fun d =>
      { d with captures := (name, c.rest.take (c.remaining - d.remaining)) :: d.captures })

/-- A match in a text: where it starts and where it ends. -/
structure Match where
  start : Cursor
  finish : Cursor
  deriving DecidableEq, Repr

namespace Match

/-- What was matched under a name, if anything was. -/
def captured? (m : Match) (name : Text) : Option Text :=
  (m.finish.captures.find? fun (n, _) => n = name).map Prod.snd

end Match

/-- The leftmost match in a text, and the preferred one of those. -/
def Expr.find? (e : Expr) (t : Text) : Option Match :=
  (Cursor.starts none t).findSome? fun start =>
    (e.advance [start]).head?.map fun finish => { start, finish }

end TreeQuery.Regex
