import TreeQuery.Integer
import TreeQuery.Path.Descent
import TreeQuery.Path.Frontier

/-!
# Plans

A line of a path is a sequence of segments between bars. Read from left to right it becomes a plan:
steps on the frontier, and at the end either a last filter or the fault at which reading stopped.

A fault does not undo the steps before it. So a plan can be made without looking at any tree, and
still a descent that runs out of fuel comes before a fault further to the right.

| segment            | step                                                       |
|--------------------|------------------------------------------------------------|
| `**`               | descend; the filter after it keeps each node once          |
| `..`               | climb                                                      |
| `.#least..greatest`| keep a slice, counted from one or from the end             |
| `.!param`          | sort by a parameter, `.!!param` in the opposite order      |
| `.`, `.&...`       | filter the roots themselves                                |
| anything else      | filter the children                                        |

A line that ends in one of the first four goes on with `.`. The roots themselves are filtered by
putting each into a root of its own and filtering the children, with a star for the name; the star
shows in the text of a fault.

## Termination

* `Plan.read` — each step takes at least one character, except that a line may go on with a `.`,
  and then it took at least two
-/

namespace TreeQuery.Path

/-- A move of the frontier. -/
inductive Step where
  | descend
  | climb
  | select (least greatest : Int)
  | sort (descending : Bool) (param : Text)
  /-- Puts each root into a root of its own. -/
  | singleton
  | filter (distinct : Bool) (segment : Segment)

/-- What a line of a path does. -/
inductive Plan where
  | stop (error : Error)
  | last (distinct : Bool) (segment : Segment)
  | step (step : Step) (next : Plan)

namespace Plan

/-- The operand of an operator, up to the first bar, and the path after that. -/
def cutOperand (t : Text) : Text × Text := (Text.cutAt? '|' t).getD (t, ['.'])

theorem length_cutAt?_lt {sep : Char} {t a b : Text} (h : Text.cutAt? sep t = some (a, b)) :
    b.length < t.length := by
  induction t generalizing a b with
  | nil => cases h
  | cons c t ih =>
    rw [Text.cutAt?] at h
    split at h
    · simp_all
    · obtain ⟨⟨a', b'⟩, hc, he⟩ := Option.map_eq_some_iff.1 h
      obtain ⟨_, rfl⟩ := Prod.mk.inj he
      have := ih hc
      simp only [List.length_cons]
      omega

/-- The path after an operand is shorter than the operator's text. -/
theorem length_cutOperand_le (t : Text) : (cutOperand t).2.length ≤ t.length + 1 := by
  unfold cutOperand
  cases h : Text.cutAt? '|' t with
  | none => simp
  | some p =>
    have := length_cutAt?_lt (a := p.1) (b := p.2) h
    simp only [Option.getD_some]
    omega

/-- Reads the bounds of a slice: two numbers around two dots, or one that is both. -/
def bounds? (t : Text) : Option (Int × Int) :=
  match Text.cutAtDots? t with
  | some (least, greatest) => return (← Integer.read? least, ← Integer.read? greatest)
  | none => (Integer.read? t).map fun i => (i, i)

/-- The step that sorts by a key, which may begin with a mark for the opposite order. -/
def sortStep : Text → Step
  | '!' :: param => .sort true param
  | param => .sort false param

/-- Whether what follows a dot shows that the dot stands for the roots themselves. -/
def endsName : Text → Bool
  | [] => true
  | '|' :: _ => true
  | '&' :: _ => true
  | _ => false

mutual

/-- Reads a line. `distinct` tells that the step before was a descent, so that the next filter keeps
each node once. -/
def read (distinct : Bool) (t : Text) : Plan :=
  match t with
  | ['*', '*'] => .step .descend (read true ['.'])
  | '*' :: '*' :: '|' :: rest => .step .descend (read true rest)
  | ['.', '.'] => .step .climb (read false ['.'])
  | '.' :: '.' :: '|' :: rest => .step .climb (read false rest)
  | '.' :: '#' :: rest =>
    have := length_cutOperand_le rest
    let operand := cutOperand rest
    match bounds? operand.1 with
    | some (least, greatest) => .step (.select least greatest) (read false operand.2)
    | none => .stop (.malformed t 2 (.index operand.1))
  | '.' :: '!' :: rest =>
    have := length_cutOperand_le rest
    let operand := cutOperand rest
    .step (sortStep operand.1) (read false operand.2)
  | '.' :: rest =>
    if endsName rest then .step .singleton (readFilter distinct ('*' :: rest))
    else readFilter distinct ('.' :: rest)
  | t => readFilter distinct t
termination_by 2 * t.length + 1
decreasing_by all_goals grind

/-- Reads a line that begins with a filter. -/
def readFilter (distinct : Bool) (t : Text) : Plan :=
  match h : Segment.read t with
  | .error e => .stop e
  | .ok (segment, none) => .last distinct segment
  | .ok (segment, some next) =>
    have : next.length < t.length := Segment.length_lt_of_read h
    .step (.filter distinct segment) (read false next)
termination_by 2 * t.length

end

end Plan

end TreeQuery.Path
