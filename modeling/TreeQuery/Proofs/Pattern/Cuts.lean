import Mathlib.Data.List.Flatten
import Mathlib.Data.List.Forall2
import Mathlib.Data.List.Lex
import TreeQuery.Pattern
import TreeQuery.Proofs.Integer.Numerals
import TreeQuery.Proofs.Pattern.Anchoring
import TreeQuery.Proofs.Regex.Preference

/-!
# Cuts of a text

Without verbatim groups, a pattern matches a text by cutting it into pieces, one an item: a character
takes itself, a star takes anything, and a numeric range takes a numeral. The bounds of the ranges
have no part in that. Of all cuts the match is the one that is longest from the left, and only in that
one the numerals are compared with the bounds.

* `preferredCut?_eq_some_iff` — trying the longest pieces first gives the cut that is longest from the
  left
* `isMatch_iff_admits_preferredCut` — the match of a pattern is this cut
-/

namespace TreeQuery.Pattern

open Integer (IsNumeral)
open Regex (Cursor Expr DecidedByRest PlacesOf onward)

/-! ## Pieces -/

/-- The texts that an item may take as far as its shape goes, whatever the bounds of a range are. -/
def Item.HasShape : Item → Text → Prop
  | .char c, p => p = [c]
  | .star, _ => True
  | .range _, p => ∃ i, IsNumeral p i
  | .group _, _ => False

/-- The texts that an item takes: those of its shape, where the integer of a range fits into 64 bits
and is within the bounds. -/
def Item.Admits : Item → Text → Prop
  | .range bounds, p =>
    ∃ i, IsNumeral p i ∧ (Integer.least ≤ i ∧ i ≤ Integer.greatest) ∧ bounds.contains i
  | item, p => item.HasShape p

/-- Cuts of a text into pieces that have the shapes of some items, one after the other. -/
def IsCut (items : List Item) (t : Text) (pieces : List Text) : Prop :=
  List.Forall₂ Item.HasShape items pieces ∧ pieces.flatten = t

/-- The ways to take one accepted character or more from the front of a text, the longest first: what
is taken, and what is left. -/
def runs (accepts : Char → Bool) : Text → List (Text × Text)
  | [] => []
  | c :: t =>
    if accepts c then (runs accepts t).map (fun (p, r) => (c :: p, r)) ++ [([c], t)] else []

/-- The ways to take the piece of an item from the front of a text, the longest first. -/
def Item.pieces : Item → Text → List (Text × Text)
  | .char c, d :: t => if d = c then [([c], t)] else []
  | .char _, [] => []
  | .star, t => runs (fun _ => true) t ++ [([], t)]
  | .range _, '-' :: t => (runs Char.isDigit t).map fun (p, r) => ('-' :: p, r)
  | .range _, t => runs Char.isDigit t
  | .group _, _ => []

theorem mem_runs_iff {accepts : Char → Bool} {t p r : Text} :
    (p, r) ∈ runs accepts t ↔ p ++ r = t ∧ p ≠ [] ∧ ∀ c ∈ p, accepts c := by
  induction t generalizing p with
  | nil => cases p <;> simp [runs]
  | cons c t ih =>
    unfold runs
    by_cases hc : accepts c
    · rw [if_pos hc, List.mem_append, List.mem_map]
      constructor
      · rintro (⟨⟨q, r'⟩, hq, he⟩ | he)
        · obtain ⟨rfl, rfl⟩ := Prod.mk.inj he
          obtain ⟨rfl, -, hall⟩ := ih.1 hq
          exact ⟨rfl, List.cons_ne_nil c q, List.forall_mem_cons.2 ⟨hc, hall⟩⟩
        · obtain ⟨rfl, rfl⟩ := Prod.mk.inj (List.mem_singleton.1 he)
          exact ⟨rfl, List.cons_ne_nil c [], List.forall_mem_singleton.2 hc⟩
      · rintro ⟨happ, hne, hall⟩
        obtain ⟨d, q, rfl⟩ := List.exists_cons_of_ne_nil hne
        obtain ⟨rfl, rfl⟩ := List.cons.inj happ
        by_cases hq : q = []
        · subst hq
          exact .inr (List.mem_singleton_self _)
        · exact .inl ⟨(q, r), ih.2 ⟨rfl, hq, (List.forall_mem_cons.1 hall).2⟩, rfl⟩
    · rw [if_neg hc]
      constructor
      · intro h
        cases h
      · rintro ⟨happ, hne, hall⟩
        obtain ⟨d, q, rfl⟩ := List.exists_cons_of_ne_nil hne
        obtain ⟨rfl, -⟩ := List.cons.inj happ
        exact absurd (hall d List.mem_cons_self) hc

/-- Longer pieces come first. -/
def LongestFirst (ways : List (Text × Text)) : Prop :=
  ways.Pairwise fun a b => b.1.length < a.1.length

theorem longestFirst_map_cons {ways : List (Text × Text)} (c : Char) (h : LongestFirst ways) :
    LongestFirst (ways.map fun (p, r) => (c :: p, r)) :=
  List.pairwise_map.2 (h.imp Nat.succ_lt_succ)

theorem longestFirst_runs (accepts : Char → Bool) (t : Text) : LongestFirst (runs accepts t) := by
  induction t with
  | nil => exact .nil
  | cons c t ih =>
    unfold runs
    split
    · refine List.pairwise_append.2 ⟨longestFirst_map_cons c ih, List.pairwise_singleton _ _, ?_⟩
      intro a ha b hb
      obtain ⟨⟨p, r⟩, hp, rfl⟩ := List.mem_map.1 ha
      obtain ⟨-, hne, -⟩ := mem_runs_iff.1 hp
      rw [List.mem_singleton.1 hb]
      exact Nat.succ_lt_succ (List.length_pos_iff.2 hne)
    · exact .nil

theorem Item.longestFirst_pieces (item : Item) (t : Text) : LongestFirst (item.pieces t) := by
  unfold Item.pieces
  split
  · split
    · exact List.pairwise_singleton _ _
    · exact .nil
  · exact .nil
  · refine List.pairwise_append.2 ⟨longestFirst_runs _ t, List.pairwise_singleton _ _, ?_⟩
    rintro ⟨p, r⟩ hp b hb
    obtain ⟨-, hne, -⟩ := mem_runs_iff.1 hp
    rw [List.mem_singleton.1 hb]
    exact List.length_pos_iff.2 hne
  · exact longestFirst_map_cons '-' (longestFirst_runs _ _)
  · exact longestFirst_runs _ _
  · exact .nil

/-- The ways to take a piece are the ways to cut the text in two of which the first has the shape of
the item. -/
theorem Item.mem_pieces_iff {item : Item} {t p r : Text} :
    (p, r) ∈ item.pieces t ↔ p ++ r = t ∧ item.HasShape p := by
  unfold Item.pieces
  split
  · next c d t =>
    by_cases hd : d = c
    · subst hd
      rw [if_pos rfl, List.mem_singleton]
      constructor
      · rintro ⟨rfl, rfl⟩
        exact ⟨rfl, rfl⟩
      · rintro ⟨happ, rfl⟩
        obtain ⟨-, rfl⟩ := List.cons.inj happ
        rfl
    · rw [if_neg hd]
      refine ⟨fun h => absurd h List.not_mem_nil, ?_⟩
      rintro ⟨happ, rfl⟩
      exact absurd (List.cons.inj happ).1.symm hd
  · refine ⟨fun h => absurd h List.not_mem_nil, ?_⟩
    rintro ⟨happ, rfl⟩
    cases happ
  · rw [List.mem_append, mem_runs_iff, List.mem_singleton]
    constructor
    · rintro (⟨happ, -⟩ | he)
      · exact ⟨happ, trivial⟩
      · obtain ⟨rfl, rfl⟩ := Prod.mk.inj he
        exact ⟨rfl, trivial⟩
    · rintro ⟨happ, -⟩
      by_cases hp : p = []
      · subst hp
        exact .inr (congrArg _ happ)
      · exact .inl ⟨happ, hp, fun _ _ => rfl⟩
  · next bounds t =>
    rw [List.mem_map]
    constructor
    · rintro ⟨⟨q, r'⟩, hq, he⟩
      obtain ⟨rfl, rfl⟩ := Prod.mk.inj he
      obtain ⟨rfl, hne, hdigits⟩ := mem_runs_iff.1 hq
      exact ⟨rfl, _, .negative hne hdigits⟩
    · rintro ⟨happ, i, hnum⟩
      cases hnum with
      | positive hne hdigits =>
        obtain ⟨d, digits, rfl⟩ := List.exists_cons_of_ne_nil hne
        obtain ⟨rfl, -⟩ := List.cons.inj happ
        exact absurd (hdigits '-' List.mem_cons_self) (by decide)
      | negative hne hdigits =>
        exact ⟨(_, r), mem_runs_iff.2 ⟨(List.cons.inj happ).2, hne, hdigits⟩, rfl⟩
  · next bounds hminus =>
    rw [mem_runs_iff]
    constructor
    · rintro ⟨happ, hne, hdigits⟩
      exact ⟨happ, _, .positive hne hdigits⟩
    · rintro ⟨happ, i, hnum⟩
      cases hnum with
      | positive hne hdigits => exact ⟨happ, hne, hdigits⟩
      | negative hne hdigits => exact absurd happ.symm (hminus _)
  · exact ⟨fun h => absurd h List.not_mem_nil, fun h => h.2.elim⟩

/-! ## The preferred cut -/

/-- The cut that is longest from the left: no other begins with a longer piece, none that begins with
an equally long one goes on with a longer piece, and so on. -/
structure IsLongestCut (items : List Item) (t : Text) (pieces : List Text) : Prop where
  isCut : IsCut items t pieces
  longest : ∀ others, IsCut items t others →
    ¬List.Lex (· < ·) (pieces.map List.length) (others.map List.length)

/-- Cuts a text by trying the longest pieces first, from the left. -/
def preferredCut? : List Item → Text → Option (List Text)
  | [], t => if t = [] then some [] else none
  | item :: items, t =>
    (item.pieces t).findSome? fun (p, r) => (preferredCut? items r).map (p :: ·)

theorem isCut_nil_iff {t : Text} {pieces : List Text} :
    IsCut [] t pieces ↔ t = [] ∧ pieces = [] := by
  constructor
  · rintro ⟨hshapes, rfl⟩
    cases hshapes
    exact ⟨rfl, rfl⟩
  · rintro ⟨rfl, rfl⟩
    exact ⟨.nil, rfl⟩

theorem isCut_cons_iff {item : Item} {items : List Item} {t : Text} {pieces : List Text} :
    IsCut (item :: items) t pieces ↔
      ∃ p r ps, pieces = p :: ps ∧ (p, r) ∈ item.pieces t ∧ IsCut items r ps := by
  constructor
  · rintro ⟨hshapes, rfl⟩
    obtain ⟨p, ps, hp, hps, rfl⟩ := List.forall₂_cons_left_iff.1 hshapes
    exact ⟨p, ps.flatten, ps, rfl, Item.mem_pieces_iff.2 ⟨rfl, hp⟩, hps, rfl⟩
  · rintro ⟨p, r, ps, rfl, hp, hps, rfl⟩
    obtain ⟨rfl, hshape⟩ := Item.mem_pieces_iff.1 hp
    exact ⟨.cons hshape hps, rfl⟩

/-- A text has no cut exactly when trying finds none. -/
theorem preferredCut?_eq_none_iff {items : List Item} {t : Text} :
    preferredCut? items t = none ↔ ∀ pieces, ¬IsCut items t pieces := by
  induction items generalizing t with
  | nil =>
    constructor
    · intro h pieces hcut
      obtain ⟨rfl, -⟩ := isCut_nil_iff.1 hcut
      cases h
    · intro h
      exact if_neg fun ht => h [] (isCut_nil_iff.2 ⟨ht, rfl⟩)
  | cons item items ih =>
    rw [preferredCut?, List.findSome?_eq_none_iff]
    constructor
    · intro h pieces hcut
      obtain ⟨p, r, ps, rfl, hp, hps⟩ := isCut_cons_iff.1 hcut
      exact ih.1 (Option.map_eq_none_iff.1 (h (p, r) hp)) ps hps
    · rintro h ⟨p, r⟩ hp
      refine Option.map_eq_none_iff.2 (ih.2 fun ps hps => ?_)
      exact h (p :: ps) (isCut_cons_iff.2 ⟨p, r, ps, rfl, hp, hps⟩)

theorem not_lex_cons_of_lt {m n : Nat} (h : m < n) (ms ns : List Nat) :
    ¬List.Lex (· < ·) (n :: ns) (m :: ms) := by
  intro hlex
  cases hlex with
  | rel hlt => exact Nat.lt_asymm h hlt
  | cons => exact Nat.lt_irrefl _ h

/-- What trying finds is a cut, and none is longer from the left. -/
theorem isLongestCut_of_preferredCut? {items : List Item} {t : Text} {pieces : List Text}
    (h : preferredCut? items t = some pieces) : IsLongestCut items t pieces := by
  induction items generalizing t pieces with
  | nil =>
    rw [preferredCut?] at h
    split at h
    · next ht =>
      cases h
      refine ⟨isCut_nil_iff.2 ⟨ht, rfl⟩, fun others hothers => ?_⟩
      rw [(isCut_nil_iff.1 hothers).2]
      intro hlex
      cases hlex
    · cases h
  | cons item items ih =>
    rw [preferredCut?, List.findSome?_eq_some_iff] at h
    obtain ⟨longer, ⟨p, r⟩, shorter, hpieces, hfound, hlonger⟩ := h
    obtain ⟨ps, hps, rfl⟩ := Option.map_eq_some_iff.1 hfound
    obtain ⟨hcut, hlongest⟩ := ih hps
    have hp : (p, r) ∈ item.pieces t := by
      rw [hpieces]
      exact List.mem_append_right _ List.mem_cons_self
    refine ⟨isCut_cons_iff.2 ⟨p, r, ps, rfl, hp, hcut⟩, fun others hothers hlex => ?_⟩
    obtain ⟨q, r', qs, rfl, hq, hqs⟩ := isCut_cons_iff.1 hothers
    -- a longer first piece leaves a rest without a cut, an equally long one is the same
    rw [hpieces, List.mem_append, List.mem_cons] at hq
    rcases hq with hq | he | hq
    · have hnone := Option.map_eq_none_iff.1 (hlonger _ hq)
      exact preferredCut?_eq_none_iff.1 hnone qs hqs
    · obtain ⟨rfl, rfl⟩ := Prod.mk.inj he
      cases hlex with
      | rel hlt => exact absurd hlt (Nat.lt_irrefl _)
      | cons hlex => exact hlongest qs hqs hlex
    · have hsorted := item.longestFirst_pieces t
      rw [hpieces, LongestFirst, List.pairwise_append] at hsorted
      have hshorter : q.length < p.length := List.rel_of_pairwise_cons hsorted.2.1 hq
      exact not_lex_cons_of_lt hshorter _ _ hlex

/-- **Trying finds the cut that is longest from the left.** -/
theorem preferredCut?_eq_some_iff {items : List Item} {t : Text} {pieces : List Text} :
    preferredCut? items t = some pieces ↔ IsLongestCut items t pieces := by
  refine ⟨isLongestCut_of_preferredCut?, ?_⟩
  rintro ⟨hcut, hlongest⟩
  cases hfound : preferredCut? items t with
  | none => exact absurd hcut (preferredCut?_eq_none_iff.1 hfound pieces)
  | some found =>
    obtain ⟨hcut', hlongest'⟩ := isLongestCut_of_preferredCut? hfound
    have hlengths : found.map List.length = pieces.map List.length :=
      Std.Trichotomous.trichotomous (r := List.Lex (· < ·)) _ _ (hlongest' pieces hcut)
        (hlongest found hcut')
    rw [List.eq_iff_flatten_eq.2 ⟨hcut'.2.trans hcut.2.symm, hlengths⟩]

/-! ## The expression of an item -/

section Expressions

variable {β : Type} {g : Text → List (Text × Text) → Option β}

/-- What is remembered has no part in whether something is found before `r`. -/
def Forgetful (g : Text → List (Text × Text) → Option β) : Prop :=
  ∀ r captures captures', g r captures = none → g r captures' = none

/-- What is found at a place, told by what follows it and by what is remembered there. -/
def found (g : Text → List (Text × Text) → Option β) (c : Cursor) : Option β := g c.rest c.captures

theorem Forgetful.decidedByRest (hg : Forgetful g) : DecidedByRest (found g) := by
  intro c d hrest h
  rw [found] at h ⊢
  rw [← hrest]
  exact hg _ _ _ h

theorem findSome?_onward (g : Text → List (Text × Text) → Option β) (accepts : Char → Bool)
    (captures : List (Text × Text)) (t : Text) :
    (onward accepts captures t).findSome? (found g) =
      (runs accepts t).findSome? fun (_, r) => g r captures := by
  induction t with
  | nil => rfl
  | cons x t ih =>
    unfold onward runs
    split
    · rw [List.findSome?_append, List.findSome?_append, ih, List.findSome?_map]
      rfl
    · rfl

theorem findSome?_advance_char (c : Char) (cs : List Cursor) :
    ((Expr.one (· = c)).advance cs).findSome? (found g) =
      cs.findSome? fun d => ((Item.char c).pieces d.rest).findSome? fun (_, r) => g r d.captures := by
  have hone (d : Cursor) :
      (d.next? (· = c)).toList.findSome? (found g) =
        ((Item.char c).pieces d.rest).findSome? fun (_, r) => g r d.captures := by
    obtain ⟨before, rest, captures⟩ := d
    cases rest with
    | nil => rfl
    | cons x rest =>
      by_cases hx : x = c
      · simp [Cursor.next?, Item.pieces, found, hx]
      · simp [Cursor.next?, Item.pieces, hx]
  rw [Expr.advance, List.filterMap_eq_flatMap_toList, Regex.findSome?_flatMap]
  congr 1
  funext d
  exact hone d

theorem findSome?_advance_starExpr (hg : Forgetful g) {t : Text} {cs : List Cursor}
    (hcs : PlacesOf t cs) :
    (starExpr.advance cs).findSome? (found g) =
      cs.findSome? fun c => (Item.star.pieces c.rest).findSome? fun (_, r) => g r c.captures := by
  rw [starExpr, Regex.findSome?_advance_star hg.decidedByRest hcs]
  congr 1
  funext c
  rw [Item.pieces, List.findSome?_append, List.findSome?_append, findSome?_onward]
  rfl

theorem findSome?_congr {α : Type} {l : List α} {f f' : α → Option β} (h : ∀ a ∈ l, f a = f' a) :
    l.findSome? f = l.findSome? f' := by
  induction l with
  | nil => rfl
  | cons a l ih =>
    rw [List.findSome?_cons, List.findSome?_cons, h a List.mem_cons_self,
      ih fun b hb => h b (List.mem_cons_of_mem a hb)]

/-- What is found after one digit or more. -/
def afterDigits (g : Text → List (Text × Text) → Option β) (r : Text)
    (captures : List (Text × Text)) : Option β :=
  (runs Char.isDigit r).findSome? fun (_, r) => g r captures

theorem Forgetful.afterDigits (hg : Forgetful g) : Forgetful (afterDigits g) := by
  intro r captures captures' h
  unfold Pattern.afterDigits at h ⊢
  rw [List.findSome?_eq_none_iff] at h ⊢
  exact fun way hway => hg _ _ _ (h way hway)

/-- What is found where the text from `start` on up to the place is remembered under a name. -/
def remembering (name start : Text) (g : Text → List (Text × Text) → Option β) (r : Text)
    (captures : List (Text × Text)) : Option β :=
  g r ((name, start.take (start.length - r.length)) :: captures)

theorem Forgetful.remembering (hg : Forgetful g) (name start : Text) :
    Forgetful (remembering name start g) :=
  fun r _ _ h => hg r _ _ h

/-- A sign that may be left out and digits, from one place. -/
theorem findSome?_advance_signed (hg : Forgetful g) (bounds : NumericRange) (c : Cursor) :
    ((Expr.seq (.rounds (.one (· = '-')) 0 (some 1) true)
      (.seq (.rounds (.one Char.isDigit) 1 none true) .empty)).advance [c]).findSome? (found g) =
      ((Item.range bounds).pieces c.rest).findSome? fun (_, r) => g r c.captures := by
  have honward : (fun d : Cursor => (onward Char.isDigit d.captures d.rest).findSome? (found g)) =
      found (afterDigits g) :=
    funext fun d => findSome?_onward g _ _ _
  rw [Expr.advance, Expr.advance, Expr.advance, Regex.findSome?_advance_plus hg.decidedByRest
      ((Regex.placesOf_rest c).advance _), honward,
    Regex.findSome?_advance_once hg.afterDigits.decidedByRest]
  obtain ⟨before, rest, captures⟩ := c
  cases rest with
  | nil => rfl
  | cons x t =>
    by_cases hx : x = '-'
    · -- no digit is a minus sign, so nothing is found without the sign
      subst hx
      have hnext : Cursor.next? (· = '-') ⟨before, '-' :: t, captures⟩ =
          some ⟨some '-', t, captures⟩ := by simp [Cursor.next?]
      rw [hnext, Item.pieces, List.findSome?_map, Option.toList_some, List.singleton_append,
        List.findSome?_cons]
      have hhere : found (afterDigits g) ⟨before, '-' :: t, captures⟩ = none := rfl
      have hsigned : found (afterDigits g) ⟨some '-', t, captures⟩ = afterDigits g t captures := rfl
      rw [List.findSome?_singleton, hhere, hsigned]
      show _ = afterDigits g t captures
      cases afterDigits g t captures <;> rfl
    · have hnext : Cursor.next? (· = '-') ⟨before, x :: t, captures⟩ = none := by
        simp [Cursor.next?, hx]
      have hpieces : (Item.range bounds).pieces (x :: t) = runs Char.isDigit (x :: t) := by
        simp [Item.pieces, hx]
      rw [hnext, hpieces]
      simp [found, afterDigits]

theorem findSome?_advance_integerExpr (hg : Forgetful g) {t : Text} {cs : List Cursor}
    (hcs : PlacesOf t cs) (name : Text) (bounds : NumericRange) :
    ((integerExpr name).advance cs).findSome? (found g) =
      cs.findSome? fun c => ((Item.range bounds).pieces c.rest).findSome?
        fun (p, r) => g r ((name, p) :: c.captures) := by
  rw [integerExpr, Regex.findSome?_advance_capture hg.decidedByRest name _ hcs]
  congr 1
  funext c
  refine (findSome?_advance_signed (hg.remembering name c.rest) bounds c).trans ?_
  refine findSome?_congr fun (p, r) hp => ?_
  -- what was taken is what precedes the rest
  obtain ⟨happ, -⟩ := Item.mem_pieces_iff.1 hp
  have htaken : c.rest.take (c.rest.length - r.length) = p := by
    rw [← happ, List.length_append, Nat.add_sub_cancel, List.take_left]
  show g r ((name, c.rest.take (c.rest.length - r.length)) :: c.captures) = _
  rw [htaken]

end Expressions

/-! ## The match of a pattern -/

/-- What is remembered after the pieces of some items, the next numeric range being the one at
`index`. -/
def remembered (index : Nat) : List Item → List Text → List (Text × Text) → List (Text × Text)
  | .range _ :: items, p :: ps, captures =>
    remembered (index + 1) items ps ((rangeName index, p) :: captures)
  | _ :: items, _ :: ps, captures => remembered index items ps captures
  | _, _, captures => captures

/-- What is remembered in the end where the items of a pattern begin with `r` to follow: the pieces of
its preferred cut. -/
def outcome (index : Nat) (items : List Item) (r : Text) (captures : List (Text × Text)) :
    Option (List (Text × Text)) :=
  (preferredCut? items r).map (remembered index items · captures)

theorem forgetful_outcome (index : Nat) (items : List Item) :
    Forgetful (outcome index items) := by
  intro r captures captures' h
  rw [outcome, Option.map_eq_none_iff] at h ⊢
  exact h

theorem outcome_cons (index : Nat) (item : Item) (items : List Item) (r : Text)
    (captures : List (Text × Text)) :
    outcome index (item :: items) r captures = (item.pieces r).findSome? fun (p, r) =>
      (preferredCut? items r).map fun ps => remembered index (item :: items) (p :: ps) captures := by
  rw [outcome, preferredCut?, List.map_findSome?]
  congr 1
  funext way
  rw [Function.comp_apply, Option.map_map]
  rfl

/-- **Items without verbatim groups lead to the preferred cut.** -/
theorem findSome?_reach {index : Nat} {items : List Item} {t : Text} {cs : List Cursor}
    (hi : hasGroup items = false) (hcs : PlacesOf t cs) :
    (reach index items cs).findSome? (fun c => some c.captures) =
      cs.findSome? (found (outcome index items)) := by
  induction items generalizing index cs with
  | nil =>
    clear hcs
    induction cs with
    | nil => rfl
    | cons c cs ih =>
      obtain ⟨before, rest, captures⟩ := c
      rw [List.findSome?_cons, ← ih]
      cases rest <;> rfl
  | cons item items ih =>
    have hitems : hasGroup items = false := (hasGroup_cons.1 hi).2
    rw [reach_cons, ih hitems (hcs.advance _)]
    cases item with
    | char c =>
      rw [Item.expr, findSome?_advance_char]
      congr 1
      funext d
      rw [found, outcome_cons]
      rfl
    | star =>
      rw [Item.expr, findSome?_advance_starExpr (forgetful_outcome _ items) hcs]
      congr 1
      funext d
      rw [found, outcome_cons]
      rfl
    | range bounds =>
      rw [Item.expr, findSome?_advance_integerExpr (forgetful_outcome _ items) hcs _ bounds]
      congr 1
      funext d
      rw [found, outcome_cons]
      rfl
    | group body => cases hi

/-- Later ranges do not disturb what is remembered of earlier ones. -/
theorem find?_remembered {index earlier : Nat} (hlt : earlier < index) (items : List Item)
    (pieces : List Text) (captures : List (Text × Text)) :
    (remembered index items pieces captures).find? (fun (n, _) => n = rangeName earlier) =
      captures.find? fun (n, _) => n = rangeName earlier := by
  fun_induction remembered index items pieces captures with
  | case1 index _ items p ps captures ih =>
    have hne : rangeName index ≠ rangeName earlier :=
      fun h => Nat.ne_of_gt hlt (rangeName_injective h)
    rw [ih (Nat.lt_succ_of_lt hlt), List.find?_cons_of_neg (by simpa using hne)]
  | case2 _ _ _ _ _ _ _ ih => exact ih hlt
  | case3 => rfl

/-- **The integers of a match are within their bounds when the items admit its pieces.** -/
theorem withinBounds_eq_true_iff {m : Regex.Match} {index : Nat} {items : List Item}
    {pieces : List Text} {captures : List (Text × Text)}
    (hshapes : List.Forall₂ Item.HasShape items pieces)
    (hm : m.finish.captures = remembered index items pieces captures) :
    withinBounds m index (rangesOf items) = true ↔ List.Forall₂ Item.Admits items pieces := by
  induction hshapes generalizing index captures with
  | nil => simp [rangesOf, withinBounds]
  | @cons item p items pieces hshape hshapes ih =>
    rw [List.forall₂_cons]
    cases item with
    | char c => exact (ih hm).trans (and_iff_right hshape).symm
    | star => exact (ih hm).trans (and_iff_right hshape).symm
    | range bounds =>
      have hcaptured : m.captured? (rangeName index) = some p := by
        rw [Regex.Match.captured?, hm, remembered, find?_remembered (Nat.lt_succ_self index)]
        simp
      obtain ⟨i, hnumeral⟩ := hshape
      rw [rangesOf, withinBounds, Bool.and_eq_true, hcaptured, ih hm, Option.bind_some,
        Option.any_eq_true]
      refine and_congr_left fun _ => ?_
      constructor
      · rintro ⟨j, hread, hcontains⟩
        obtain ⟨rfl, hfits⟩ := (Integer.read?_eq_some_iff_of_isNumeral hnumeral).1 hread
        exact ⟨j, hnumeral, hfits, hcontains⟩
      · rintro ⟨j, hnumeral', hfits, hcontains⟩
        exact ⟨j, (Integer.read?_eq_some_iff_of_isNumeral hnumeral').2 ⟨rfl, hfits⟩, hcontains⟩
    | group body => exact hshape.elim

/-- **The match of a pattern without verbatim groups is the preferred cut**, and the pattern matches if
its items admit the pieces of that cut. -/
theorem isMatch_iff_admits_preferredCut {text t : Text} {items : List Item} {p : Pattern}
    (hp : ofText text = .ok p) (hi : PatternText false text items) (hg : hasGroup items = false) :
    p.isMatch t = true ↔
      ∃ pieces, preferredCut? items t = some pieces ∧ List.Forall₂ Item.Admits items pieces := by
  obtain ⟨items', hitems, hexpr, hpattern⟩ := ofText_eq_ok_iff.1 hp
  cases hi.unique hitems
  have hexpr' : p.expr = wholeExpr items := by
    rw [exprOfItems_eq hg] at hexpr
    exact (Except.ok.inj hexpr).symm
  have hranges : p.ranges = rangesOf items := congrArg Pattern.ranges hpattern
  have hfinish : (reach 0 items [{ rest := t }]).head?.map Cursor.captures =
      (preferredCut? items t).map (remembered 0 items · []) := by
    have hfound := @findSome?_reach 0 items t _ hg (Regex.placesOf_rest { rest := t })
    rw [List.findSome?_singleton] at hfound
    refine Eq.trans ?_ hfound
    cases reach 0 items [{ rest := t }] <;> rfl
  rw [isMatch, hexpr', hranges, find?_wholeExpr, Option.any_map, Option.any_eq_true]
  constructor
  · rintro ⟨finish, hhead, hbounds⟩
    rw [hhead, Option.map_some, eq_comm, Option.map_eq_some_iff] at hfinish
    obtain ⟨pieces, hcut, hcaptures⟩ := hfinish
    have hshapes := (isLongestCut_of_preferredCut? hcut).isCut.1
    exact ⟨pieces, hcut, (withinBounds_eq_true_iff hshapes hcaptures.symm).1 hbounds⟩
  · rintro ⟨pieces, hcut, hadmits⟩
    rw [hcut, Option.map_some, Option.map_eq_some_iff] at hfinish
    obtain ⟨finish, hhead, hcaptures⟩ := hfinish
    have hshapes := (isLongestCut_of_preferredCut? hcut).isCut.1
    exact ⟨finish, hhead, (withinBounds_eq_true_iff hshapes hcaptures).2 hadmits⟩

end TreeQuery.Pattern
