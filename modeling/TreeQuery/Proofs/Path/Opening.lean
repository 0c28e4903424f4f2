import TreeQuery.Path.Plan
import TreeQuery.Proofs.Path.Grammar

/-!
# How lines begin

A line begins with an operator or with a filter segment. `opening` tells which, `opening_cases` lists
the texts, and `read_descend` to `read_filter` say how a plan is read off each of them, one segment at
a time.

What comes after a line, such as a bar with another path, does not change how the line begins.
-/

namespace TreeQuery

/-! ## Cutting at a character -/

theorem Text.cutAt?_eq_some_iff {sep : Char} {t a b : Text} :
    Text.cutAt? sep t = some (a, b) ↔ t = a ++ sep :: b ∧ sep ∉ a := by
  induction t generalizing a b with
  | nil => simp [Text.cutAt?]
  | cons c t ih =>
    rw [Text.cutAt?]
    split
    · next h =>
      subst h
      constructor
      · intro h
        obtain ⟨rfl, rfl⟩ := Prod.mk.inj (Option.some.inj h)
        exact ⟨rfl, List.not_mem_nil⟩
      · rintro ⟨h, hn⟩
        cases a with
        | nil => simp_all
        | cons d a => simp_all
    · next h =>
      simp only [Option.map_eq_some_iff, Prod.exists, ih]
      constructor
      · rintro ⟨a', b', ⟨rfl, hn⟩, he⟩
        obtain ⟨rfl, rfl⟩ := Prod.mk.inj he
        exact ⟨rfl, by simp [hn, Ne.symm h]⟩
      · rintro ⟨ht, hn⟩
        cases a with
        | nil => simp_all
        | cons d a =>
          obtain ⟨rfl, rfl⟩ := List.cons.inj ht
          exact ⟨a, b, ⟨rfl, fun hm => hn (List.mem_cons_of_mem _ hm)⟩, rfl⟩

theorem Text.cutAt?_eq_none_iff {sep : Char} {t : Text} : Text.cutAt? sep t = none ↔ sep ∉ t := by
  induction t with
  | nil => simp [Text.cutAt?]
  | cons c t ih =>
    rw [Text.cutAt?]
    split
    · next h => simp [h]
    · next h => simp [ih, Ne.symm h]

namespace Path

/-- What follows the bar, with another path after a further bar. -/
def followed (next : Option Text) (q : Text) : Text :=
  match next with
  | none => q
  | some next => next ++ '|' :: q

theorem tail_append_bar (next : Option Text) (q : Text) :
    tail next ++ '|' :: q = tail (some (followed next q)) := by
  cases next <;> rfl

namespace Plan

/-! ## Openings -/

/-- What a line begins with. An operator that is not followed by a bar has no rest. -/
inductive Opening where
  | descend (rest : Option Text)
  | climb (rest : Option Text)
  | select (bounds : Text) (rest : Option Text)
  | sort (key : Text) (rest : Option Text)
  /-- A dot that stands for the roots themselves, with what follows the dot. -/
  | self (rest : Text)
  | filter
  deriving DecidableEq, Repr

/-- The opening of an operator that takes an operand. -/
def operator (make : Text → Option Text → Opening) (t : Text) : Opening :=
  match Text.cutAt? '|' t with
  | none => make t none
  | some (operand, rest) => make operand (some rest)

/-- What a line begins with. -/
def opening : Text → Opening
  | ['*', '*'] => .descend none
  | '*' :: '*' :: '|' :: rest => .descend (some rest)
  | ['.', '.'] => .climb none
  | '.' :: '.' :: '|' :: rest => .climb (some rest)
  | '.' :: '#' :: t => operator .select t
  | '.' :: '!' :: t => operator .sort t
  | '.' :: rest => if endsName rest then .self rest else .filter
  | _ => .filter

/-- The rest of a line after its opening; a missing one stands for the roots themselves. -/
def restOf (rest : Option Text) : Text := rest.getD ['.']

/-- A text is an operand, up to the first bar, and its rest. -/
theorem exists_operand (t : Text) : ∃ operand rest, t = operand ++ tail rest ∧ '|' ∉ operand := by
  cases h : Text.cutAt? '|' t with
  | none => exact ⟨t, none, by simp [tail], Text.cutAt?_eq_none_iff.1 h⟩
  | some p =>
    obtain ⟨operand, rest⟩ := p
    obtain ⟨rfl, hn⟩ := Text.cutAt?_eq_some_iff.1 h
    exact ⟨operand, some rest, rfl, hn⟩

theorem operator_append {make : Text → Option Text → Opening} {operand : Text} {rest : Option Text}
    (h : '|' ∉ operand) : operator make (operand ++ tail rest) = make operand rest := by
  unfold operator
  cases rest with
  | none => rw [tail, List.append_nil, Text.cutAt?_eq_none_iff.2 h]
  | some rest => rw [tail, Text.cutAt?_eq_some_iff.2 ⟨rfl, h⟩]

theorem cutOperand_append {operand : Text} {rest : Option Text} (h : '|' ∉ operand) :
    cutOperand (operand ++ tail rest) = (operand, restOf rest) := by
  unfold cutOperand
  cases rest with
  | none => rw [tail, List.append_nil, Text.cutAt?_eq_none_iff.2 h]; rfl
  | some rest => rw [tail, Text.cutAt?_eq_some_iff.2 ⟨rfl, h⟩]; rfl

@[simp] theorem opening_descend (rest : Option Text) :
    opening ('*' :: '*' :: tail rest) = .descend rest := by
  cases rest <;> rfl

@[simp] theorem opening_climb (rest : Option Text) :
    opening ('.' :: '.' :: tail rest) = .climb rest := by
  cases rest <;> rfl

@[simp] theorem opening_select {bounds : Text} {rest : Option Text} (h : '|' ∉ bounds) :
    opening ('.' :: '#' :: (bounds ++ tail rest)) = .select bounds rest :=
  operator_append h

@[simp] theorem opening_sort {key : Text} {rest : Option Text} (h : '|' ∉ key) :
    opening ('.' :: '!' :: (key ++ tail rest)) = .sort key rest :=
  operator_append h

@[simp] theorem opening_self {rest : Text} (h : endsName rest = true) :
    opening ('.' :: rest) = .self rest := by
  revert h
  fun_cases endsName rest with
  | case1 | case2 | case3 => exact fun _ => rfl
  | case4 => simp

/-- The star that such a dot is read as begins a filter. -/
theorem opening_star {rest : Text} (h : endsName rest = true) : opening ('*' :: rest) = .filter := by
  revert h
  fun_cases endsName rest with
  | case1 | case2 | case3 => exact fun _ => rfl
  | case4 => simp

/-- Every line is an operator with its rest, a dot with what follows it, or begins with a filter. -/
theorem opening_cases (t : Text) :
    (∃ rest, t = '*' :: '*' :: tail rest) ∨ (∃ rest, t = '.' :: '.' :: tail rest) ∨
      (∃ bounds rest, t = '.' :: '#' :: (bounds ++ tail rest) ∧ '|' ∉ bounds) ∨
      (∃ key rest, t = '.' :: '!' :: (key ++ tail rest) ∧ '|' ∉ key) ∨
      (∃ rest, t = '.' :: rest ∧ endsName rest = true) ∨ opening t = .filter := by
  fun_cases opening t with
  | case1 => exact .inl ⟨none, rfl⟩
  | case2 rest => exact .inl ⟨some rest, rfl⟩
  | case3 => exact .inr (.inl ⟨none, rfl⟩)
  | case4 rest => exact .inr (.inl ⟨some rest, rfl⟩)
  | case5 t =>
    obtain ⟨bounds, rest, rfl, hn⟩ := exists_operand t
    exact .inr (.inr (.inl ⟨bounds, rest, rfl, hn⟩))
  | case6 t =>
    obtain ⟨key, rest, rfl, hn⟩ := exists_operand t
    exact .inr (.inr (.inr (.inl ⟨key, rest, rfl, hn⟩)))
  | case7 rest _ _ _ _ h => exact .inr (.inr (.inr (.inr (.inl ⟨rest, rfl, h⟩))))
  | case8 => exact .inr (.inr (.inr (.inr (.inr rfl))))
  | case9 => exact .inr (.inr (.inr (.inr (.inr rfl))))

/-! ## Reading -/

theorem read_descend (distinct : Bool) (rest : Option Text) :
    read distinct ('*' :: '*' :: tail rest) = .step .descend (read true (restOf rest)) := by
  cases rest <;> rw [tail, read] <;> rfl

theorem read_climb (distinct : Bool) (rest : Option Text) :
    read distinct ('.' :: '.' :: tail rest) = .step .climb (read false (restOf rest)) := by
  cases rest <;> rw [tail, read] <;> rfl

theorem read_select (distinct : Bool) {bounds : Text} (rest : Option Text) (h : '|' ∉ bounds) :
    read distinct ('.' :: '#' :: (bounds ++ tail rest)) =
      match bounds? bounds with
      | some (least, greatest) => .step (.select least greatest) (read false (restOf rest))
      | none =>
        .stop (.malformed ('.' :: '#' :: (bounds ++ tail rest)) 2 (.index bounds)) := by
  have hcut : cutOperand (bounds ++ tail rest) = (bounds, restOf rest) := cutOperand_append h
  rw [read]
  cases hb : bounds? bounds with
  | none => simp only [hcut, hb]
  | some b => simp only [hcut, hb]

theorem read_sort (distinct : Bool) {key : Text} (rest : Option Text) (h : '|' ∉ key) :
    read distinct ('.' :: '!' :: (key ++ tail rest)) =
      .step (sortStep key) (read false (restOf rest)) := by
  rw [read, cutOperand_append h]

/-! An operator with a bar after it is the case in which there is a rest. -/

theorem read_descend_bar (distinct : Bool) (rest : Text) :
    read distinct ('*' :: '*' :: '|' :: rest) = .step .descend (read true rest) :=
  read_descend distinct (some rest)

theorem read_climb_bar (distinct : Bool) (rest : Text) :
    read distinct ('.' :: '.' :: '|' :: rest) = .step .climb (read false rest) :=
  read_climb distinct (some rest)

theorem read_select_bar (distinct : Bool) {bounds rest : Text} {least greatest : Int}
    (h : '|' ∉ bounds) (hb : bounds? bounds = some (least, greatest)) :
    read distinct ('.' :: '#' :: (bounds ++ '|' :: rest)) =
      .step (.select least greatest) (read false rest) := by
  have := read_select distinct (some rest) h
  rwa [hb] at this

theorem read_sort_bar (distinct : Bool) {key rest : Text} (h : '|' ∉ key) :
    read distinct ('.' :: '!' :: (key ++ '|' :: rest)) = .step (sortStep key) (read false rest) :=
  read_sort distinct (some rest) h

theorem read_self (distinct : Bool) {rest : Text} (h : endsName rest = true) :
    read distinct ('.' :: rest) = .step .singleton (readFilter distinct ('*' :: rest)) := by
  revert h
  fun_cases endsName rest with
  | case1 | case2 | case3 => intro; rw [read] <;> simp [endsName]
  | case4 => simp

theorem read_filter (distinct : Bool) {t : Text} (h : opening t = .filter) :
    read distinct t = readFilter distinct t := by
  revert h
  fun_cases opening t with
  | case1 | case2 | case3 | case4 | case7 => simp
  | case5 t | case6 t =>
    obtain ⟨operand, rest, rfl, hn⟩ := exists_operand t
    simp [operator_append hn]
  | case8 rest _ _ _ _ h =>
    intro
    rw [read] <;> simp_all
  | case9 =>
    intro
    rw [read] <;> simp_all

theorem readFilter_last (distinct : Bool) {t : Text} {segment : Segment}
    (h : Segment.read t = .ok (segment, none)) : readFilter distinct t = .last distinct segment := by
  rw [readFilter]
  split <;> simp_all

theorem readFilter_step (distinct : Bool) {t next : Text} {segment : Segment}
    (h : Segment.read t = .ok (segment, some next)) :
    readFilter distinct t = .step (.filter distinct segment) (read false next) := by
  rw [readFilter]
  split <;> simp_all

theorem readFilter_stop (distinct : Bool) {t : Text} {e : Error} (h : Segment.read t = .error e) :
    readFilter distinct t = .stop e := by
  rw [readFilter]
  split <;> simp_all

/-! ## More after a line -/

theorem endsName_append_bar {rest : Text} (h : endsName rest = true) (q : Text) :
    endsName (rest ++ '|' :: q) = true := by
  revert h
  fun_cases endsName rest with
  | case1 | case2 | case3 => exact fun _ => rfl
  | case4 => simp

theorem endsName_of_append {rest q : Text} (h : endsName (rest ++ q) = true) :
    endsName rest = true := by
  cases rest with
  | nil => rfl
  | cons c rest =>
    by_cases hbar : c = '|'
    · rw [hbar]; rfl
    · by_cases hamp : c = '&'
      · rw [hamp]; rfl
      · rw [List.cons_append, endsName] at h <;> simp_all

/-- A text that another character makes begin with two others begins with these without it. -/
theorem exists_cons_cons_of_append {a b c : Char} {s q t : Text} (ha : c ≠ a) (hb : c ≠ b)
    (h : s ++ c :: q = a :: b :: t) : ∃ s', s = a :: b :: s' ∧ s' ++ c :: q = t := by
  match s with
  | [] => exact absurd (List.cons.inj h).1 ha
  | [_] => exact absurd (List.cons.inj (List.cons.inj h).2).1 hb
  | _ :: _ :: s' =>
    obtain ⟨rfl, htail⟩ := List.cons.inj h
    obtain ⟨rfl, hrest⟩ := List.cons.inj htail
    exact ⟨s', rfl, hrest⟩

theorem exists_tail_of_append {c : Char} {s q : Text} {rest : Option Text}
    (h : s ++ c :: q = tail rest) : ∃ rest', s = tail rest' := by
  cases s with
  | nil => exact ⟨none, rfl⟩
  | cons d s =>
    cases rest with
    | none => cases h
    | some next =>
      obtain ⟨rfl, -⟩ := List.cons.inj h
      exact ⟨some s, rfl⟩

/-- A line that begins with a filter still does so with more after it, unless the next character is one
that operators are made of. -/
theorem opening_append {t : Text} (h : opening t = .filter) {c : Char}
    (hc : c ∉ ['*', '.', '#', '!']) (q : Text) : opening (t ++ c :: q) = .filter := by
  simp only [List.mem_cons, List.not_mem_nil, or_false, not_or] at hc
  obtain ⟨hstar, hdot, hhash, hmark⟩ := hc
  rcases opening_cases (t ++ c :: q) with
    ⟨rest, ht⟩ | ⟨rest, ht⟩ | ⟨_, rest, ht, -⟩ | ⟨_, rest, ht, -⟩ | ⟨rest, ht, he⟩ | ht
  · obtain ⟨_, rfl, hrest⟩ := exists_cons_cons_of_append hstar hstar ht
    obtain ⟨rest', rfl⟩ := exists_tail_of_append hrest
    exact absurd h (by simp)
  · obtain ⟨_, rfl, hrest⟩ := exists_cons_cons_of_append hdot hdot ht
    obtain ⟨rest', rfl⟩ := exists_tail_of_append hrest
    exact absurd h (by simp)
  · obtain ⟨t, rfl, -⟩ := exists_cons_cons_of_append hdot hhash ht
    obtain ⟨bounds, rest', rfl, hn⟩ := exists_operand t
    exact absurd h (by simp [hn])
  · obtain ⟨t, rfl, -⟩ := exists_cons_cons_of_append hdot hmark ht
    obtain ⟨key, rest', rfl, hn⟩ := exists_operand t
    exact absurd h (by simp [hn])
  · cases t with
    | nil => exact absurd (List.cons.inj ht).1 hdot
    | cons d t =>
      obtain ⟨rfl, rfl⟩ := List.cons.inj ht
      exact absurd h (by simp [endsName_of_append he])
  · exact ht

theorem opening_of_append_bar {t q : Text} (h : opening (t ++ '|' :: q) = .filter) :
    opening t = .filter := by
  rcases opening_cases t with
    ⟨rest, rfl⟩ | ⟨rest, rfl⟩ | ⟨operand, rest, rfl, hn⟩ | ⟨operand, rest, rfl, hn⟩ | ⟨rest, rfl, he⟩ | ht
  · exact absurd h (by simp [tail_append_bar])
  · exact absurd h (by simp [tail_append_bar])
  · exact absurd h (by simp [tail_append_bar, hn])
  · exact absurd h (by simp [tail_append_bar, hn])
  · exact absurd h (by simp [endsName_append_bar he q])
  · exact ht

end Plan

end Path

end TreeQuery
