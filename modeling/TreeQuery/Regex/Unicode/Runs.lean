/-!
# Runs of code points

A character property is constant on long runs of code points, so it is stored as the places where
it changes. Both forms below are written as text: runs as `length=value`, sets as the lengths of
the gaps and runs in turn, starting with a gap. All lengths are decimal and separated by spaces;
`length*count` stands for several equal ones in a row.
-/

namespace TreeQuery.Regex.Unicode

/-- How many elements of an ascending array are at most `n`, searched between `low` and `high`. -/
def countAtMost (bounds : Array Nat) (n low high : Nat) : Nat :=
  if h : low < high then
    let middle := (low + high) / 2
    if bounds.getD middle 0 ≤ n then countAtMost bounds n (middle + 1) high
    else countAtMost bounds n low middle
  else low
termination_by high - low
decreasing_by all_goals omega

/-- A property that has a value on each run of code points. -/
structure Runs where
  /-- Where each run starts. -/
  starts : Array Nat
  /-- The value on each run. -/
  values : Array String

namespace Runs

/-- Reads runs from their written form. -/
def ofText (text : String) : Runs :=
  let read := fun (start, runs) (item : String) =>
    match item.splitOn "=" with
    | [length, value] =>
      (start + length.toNat?.getD 0,
        (⟨runs.starts.push start, runs.values.push value⟩ : Runs))
    | _ => (start, runs)
  ((text.splitOn " ").foldl read (0, ⟨#[], #[]⟩)).2

/-- The value at a character. -/
def value (runs : Runs) (c : Char) : String :=
  runs.values.getD (countAtMost runs.starts c.toNat 0 runs.starts.size - 1) ""

end Runs

/-- A set of code points. -/
structure Ranges where
  /-- The places where the set begins or ends, the first being a beginning. -/
  turns : Array Nat

namespace Ranges

/-- Reads a set from its written form. -/
def ofText (text : String) : Ranges :=
  let push := fun (length : Nat) ((last, turns) : Nat × Array Nat) =>
    (last + length, turns.push (last + length))
  let read := fun (turns : Nat × Array Nat) (item : String) =>
    match (item.splitOn "*").map String.toNat? with
    | [some length] => push length turns
    | [some length, some count] => count.repeat (push length) turns
    | _ => turns
  ⟨((text.splitOn " ").foldl read (0, #[])).2⟩

/-- Whether a character is in the set. -/
def contains (ranges : Ranges) (c : Char) : Bool :=
  countAtMost ranges.turns c.toNat 0 ranges.turns.size % 2 = 1

end Ranges

end TreeQuery.Regex.Unicode
