import TreeQuery.Pattern
import TreeQuery.Proofs.Access.Bytes
import TreeQuery.Proofs.Regex.Preference

/-!
# Matching by offsets

A search may tell of the pieces it remembers by the offsets between which they stand, instead of handing
them out. Then the integers of a match have to be cut out of the text (`isMatchAt`), which may fail.

Which offsets a search reports is left open (`Report`), as the same piece may stand at several places.
If they are those of the remembered pieces (`Report.Faithful`), matching goes through with the answer of
`isMatch` (`isMatchAt_eq_some`). There are such reports, since an expression remembers nothing but
pieces of the text (`Regex.infix_of_captured?`): one is where the piece stands first.
-/

namespace TreeQuery

/-! ## Remembered pieces -/

namespace Regex

/-- A place of a text where all that is remembered are pieces of the text. -/
def Cursor.Within (t : Text) (c : Cursor) : Prop := c.rest <:+ t ∧ ∀ p ∈ c.captures, p.2 <:+: t

theorem within_of_mem_starts {t : Text} {before : Option Char} {c : Cursor}
    (h : c ∈ Cursor.starts before t) : c.Within t := by
  induction t generalizing before with
  | nil =>
    rw [List.mem_singleton.1 h]
    exact ⟨List.suffix_refl _, fun _ hp => absurd hp List.not_mem_nil⟩
  | cons x t ih =>
    rcases List.mem_cons.1 h with rfl | h
    · exact ⟨List.suffix_refl _, fun _ hp => absurd hp List.not_mem_nil⟩
    · obtain ⟨hrest, hpieces⟩ := ih h
      exact ⟨hrest.trans (List.suffix_cons x t),
        fun p hp => (hpieces p hp).trans (List.suffix_cons x t).isInfix⟩

/-- **An expression remembers nothing but pieces of the text.** -/
theorem within_advance {t : Text} (e : Expr) {cs : List Cursor} (h : ∀ c ∈ cs, c.Within t) :
    ∀ d ∈ e.advance cs, d.Within t := by
  refine e.forall_mem_advance ?_ ?_ h
  · intro accepts c d hc hd
    refine ⟨(Cursor.suffix_of_next? hd).trans hc.1, ?_⟩
    obtain ⟨x, rest, -, rfl⟩ := Cursor.eq_of_next? hd
    exact hc.2
  · intro name c d hc hd
    refine ⟨hd.1, fun p hp => ?_⟩
    rcases List.mem_cons.1 hp with rfl | hp
    · exact (List.take_prefix _ _).isInfix.trans hc.1.isInfix
    · exact hd.2 p hp

theorem infix_of_captured? {e : Expr} {t : Text} {m : Match} {name piece : Text}
    (hm : e.find? t = some m) (h : m.captured? name = some piece) : piece <:+: t := by
  obtain ⟨c, hc, hm⟩ := List.exists_of_findSome?_eq_some hm
  obtain ⟨finish, hfinish, rfl⟩ := Option.map_eq_some_iff.1 hm
  obtain ⟨p, hp, rfl⟩ := Option.map_eq_some_iff.1 h
  have hwithin : finish.Within t :=
    within_advance e (List.forall_mem_singleton.2 (within_of_mem_starts hc)) finish
      (List.mem_of_mem_head? hfinish)
  exact hwithin.2 p (List.mem_of_find?_eq_some hp)

/-- What a search reports of the pieces that it remembers: for each name, the offsets between which the
piece stands. -/
abbrev Report := Expr → Text → (name : Text) → Option (Nat × Nat)

namespace Report

/-- A piece stands in a text between two offsets. -/
def Stands (t piece : Text) (span : Nat × Nat) : Prop :=
  ∃ before after, t = before ++ (piece ++ after) ∧
    span = (before.byteLength, (before ++ piece).byteLength)

/-- A report tells where all remembered pieces stand, and of nothing else. -/
structure Faithful (report : Report) : Prop where
  forgotten {e : Expr} {t name : Text} {m : Match} :
    e.find? t = some m → m.captured? name = none → report e t name = none
  remembered {e : Expr} {t name piece : Text} {m : Match} :
    e.find? t = some m → m.captured? name = some piece →
      ∃ span, report e t name = some span ∧ Stands t piece span

/-- What comes before the first place where a piece stands. -/
def before? (piece : Text) : Text → Option Text
  | [] => if piece = [] then some [] else none
  | c :: t => if piece.isPrefixOf (c :: t) then some [] else (before? piece t).map (c :: ·)

/-- The report of where the pieces stand first. -/
def leftmost : Report := fun e t name => do
  let m ← e.find? t
  let piece ← m.captured? name
  let before ← before? piece t
  return (before.byteLength, (before ++ piece).byteLength)

theorem exists_before? {piece t : Text} (h : piece <:+: t) :
    ∃ before after, t = before ++ (piece ++ after) ∧ before? piece t = some before := by
  induction t with
  | nil =>
    obtain rfl := List.infix_nil.1 h
    exact ⟨[], [], rfl, rfl⟩
  | cons c t ih =>
    rw [before?]
    split
    · next hp =>
      obtain ⟨after, hp⟩ := List.isPrefixOf_iff_prefix.1 hp
      exact ⟨[], after, hp.symm, rfl⟩
    · next hp =>
      rcases List.infix_cons_iff.1 h with h | h
      · exact absurd (List.isPrefixOf_iff_prefix.2 h) hp
      · obtain ⟨before, after, rfl, hb⟩ := ih h
        exact ⟨c :: before, after, rfl, by rw [hb]; rfl⟩

/-- There are faithful reports. -/
theorem faithful_leftmost : Faithful leftmost where
  forgotten hm hc := by
    rw [leftmost, hm, Option.bind_eq_bind, Option.bind_some, hc]
    rfl
  remembered hm hc := by
    obtain ⟨before, after, ht, hb⟩ := exists_before? (infix_of_captured? hm hc)
    refine ⟨_, ?_, before, after, ht, rfl⟩
    simp only [leftmost, hm, hc, hb, Option.bind_eq_bind, Option.bind_some]
    rfl

theorem Stands.slice? {t piece : Text} {span : Nat × Nat} (h : Stands t piece span) :
    t.slice? span.1 span.2 = some piece := by
  obtain ⟨before, after, rfl, rfl⟩ := h
  exact Text.slice?_append before piece after

end Report

end Regex

/-! ## Matching -/

namespace Pattern

open Regex (Report)

variable {report : Report}

/-- Whether the integers that stand between the given offsets of a text are within their bounds. -/
def withinBoundsAt (t : Text) (span? : (name : Text) → Option (Nat × Nat)) :
    (index : Nat) → List NumericRange → Option Bool
  | _, [] => some true
  | index, bounds :: more =>
    match span? (rangeName index) with
    | none => some false
    | some (start, stop) => do
      let piece ← t.slice? start stop
      if (Integer.read? piece).any bounds.contains then withinBoundsAt t span? (index + 1) more
      else some false

/-- Whether a pattern matches a text, where integers are cut out of the text. -/
def isMatchAt (report : Report) (p : Pattern) (t : Text) : Option Bool :=
  if (p.expr.find? t).isSome then withinBoundsAt t (report p.expr t) 0 p.ranges else some false

theorem withinBoundsAt_eq_some (hreport : report.Faithful) {e : Regex.Expr} {t : Text}
    {m : Regex.Match} (hm : e.find? t = some m) (index : Nat) (ranges : List NumericRange) :
    withinBoundsAt t (report e t) index ranges = some (withinBounds m index ranges) := by
  induction ranges generalizing index with
  | nil => rfl
  | cons bounds more ih =>
    rw [withinBoundsAt, withinBounds]
    cases hc : m.captured? (rangeName index) with
    | none =>
      rw [hreport.forgotten hm hc]
      rfl
    | some piece =>
      obtain ⟨span, hspan, hstands⟩ := hreport.remembered hm hc
      simp only [hspan, hstands.slice?, Option.bind_eq_bind, Option.bind_some, ih]
      cases (Integer.read? piece).any bounds.contains <;> rfl

/-- **Matching does not reach outside of the text.** -/
theorem isMatchAt_eq_some (hreport : report.Faithful) (p : Pattern) (t : Text) :
    p.isMatchAt report t = some (p.isMatch t) := by
  unfold isMatchAt isMatch
  cases hm : p.expr.find? t with
  | none => rfl
  | some m => exact withinBoundsAt_eq_some hreport hm 0 p.ranges

end Pattern

end TreeQuery
