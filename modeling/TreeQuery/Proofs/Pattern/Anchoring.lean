import TreeQuery.Proofs.Pattern.Literal
import TreeQuery.Proofs.Regex.SelfContained

/-!
# Patterns match whole texts

A pattern is meant to match a text as a whole, so its expression stands between the two ends of the
text.

* `isMatch_spans` — a match spans the text if what stands between the ends is self-contained
* `neutral_writtenItems` — it is enough that each verbatim group is self-contained

A pattern without verbatim groups needs no condition. With them it does: a verbatim group is
inserted unread, so it may close the group between the ends and begin another branch
(`isMatch_of_group_closing_early`), or turn what follows it into a comment
(`isMatch_of_group_beginning_comment`). Such a pattern is accepted and matches texts in part.
-/

namespace TreeQuery

namespace Regex

open Pattern (bind_eq_ok_iff)

/-! ## Expressions that reach to the end -/

/-- A match reaches from the start of a text to its end. -/
structure Match.Spans (m : Match) (t : Text) : Prop where
  start : m.start = { rest := t }
  finish : m.finish.rest = []

namespace Expr

/-- Wherever a match of an expression starts, it ends at the end of the text. -/
def ReachesEnd (e : Expr) : Prop := ∀ cs, ∀ c ∈ e.advance cs, c.rest = []

theorem reachesEnd_textEnd : (assertion .textEnd).ReachesEnd := by
  intro cs c hc
  rw [advance, List.mem_filter] at hc
  simpa [Assertion.holds] using hc.2

theorem ReachesEnd.seq (first : Expr) {second : Expr} (h : second.ReachesEnd) :
    (seq first second).ReachesEnd := by
  intro cs c hc
  exact h _ c hc

theorem ReachesEnd.seq_empty {first : Expr} (h : first.ReachesEnd) :
    (first.seq empty).ReachesEnd := by
  intro cs c hc
  exact h cs c hc

/-- An expression between the ends of the text. -/
def Anchored (e : Expr) : Prop :=
  ∃ inner : Expr, e = seq (assertion .textStart) inner ∧ inner.ReachesEnd

theorem Anchored.spans {e : Expr} (he : e.Anchored) {t : Text} {m : Match}
    (h : e.find? t = some m) : m.Spans t := by
  obtain ⟨inner, rfl, hend⟩ := he
  rw [find?_anchored, Option.map_eq_some_iff] at h
  obtain ⟨c, hc, rfl⟩ := h
  exact ⟨rfl, hend _ c (List.mem_of_head? hc)⟩

end Expr

/-- What is written between the anchors of a text stands between the ends of the text. -/
theorem anchored_of_meaning {part : Ast} {modes modes' : Modes} {e : Expr}
    (h : (Ast.concat [.anchor .textStart, part, .anchor .textEnd]).meaning modes =
      .ok (e, modes')) :
    e.Anchored := by
  rw [Ast.meaning, Ast.meaningOfParts] at h
  obtain ⟨⟨first, modes₁⟩, hfirst, h⟩ := bind_eq_ok_iff.1 h
  cases hfirst
  obtain ⟨⟨others, modes₂⟩, hothers, h⟩ := bind_eq_ok_iff.1 h
  cases h
  rw [Ast.meaningOfParts] at hothers
  obtain ⟨⟨inner, modes₃⟩, -, h⟩ := bind_eq_ok_iff.1 hothers
  obtain ⟨⟨last, modes₄⟩, hlast, h⟩ := bind_eq_ok_iff.1 h
  cases h
  cases hlast
  exact ⟨_, rfl, (Expr.reachesEnd_textEnd.seq_empty).seq inner⟩

end Regex

namespace Pattern

open Regex (Expr Match)
open Regex.Parser

/-! ## The expression of a pattern -/

/-- The expression of a pattern stands between the ends of the text, if what its items put there is
one piece. -/
theorem anchored_of_exprOfItems {items : List Item} {e : Expr} (h : exprOfItems items = .ok e)
    (hc : hasGroup items → Neutral (writtenItems 0 items)) : e.Anchored := by
  by_cases hg : hasGroup items
  · obtain ⟨ast, hast, h⟩ := bind_eq_ok_iff.1 h
    obtain ⟨body, rfl⟩ := parse_anchored (hc hg) hast
    obtain ⟨⟨e', modes⟩, hmeaning, h⟩ := bind_eq_ok_iff.1 h
    dsimp only at h
    split_ifs at h
    cases h
    exact Regex.anchored_of_meaning hmeaning
  · rw [exprOfItems_eq (by simpa using hg)] at h
    cases h
    exact ⟨_, rfl, Expr.reachesEnd_textEnd.seq_empty.seq _⟩

/-- A pattern that is read as a whole is the one that the text spells. -/
theorem ofText_eq_ok_iff {text : Text} {p : Pattern} :
    ofText text = .ok p ↔ Spells false text p := by
  constructor
  · intro h
    obtain ⟨⟨q, rest⟩, hq, h⟩ := bind_eq_ok_iff.1 h
    obtain ⟨s, hs, hspells, -⟩ := compile_eq_ok_iff.1 hq
    cases rest with
    | nil =>
      cases h
      rwa [hs, List.append_nil]
    | cons c rest => cases h
  · intro h
    exact bind_eq_ok_iff.2 ⟨_, compile_eq_ok_iff.2 ⟨text, (List.append_nil text).symm, h, rfl⟩, rfl⟩

/-- A text spells one sequence of items only. -/
theorem PatternText.unique {stop : Bool} {s : Text} {items items' : List Item}
    (h : PatternText stop s items) (h' : PatternText stop s items') : items = items' := by
  have hscan := scan_eq_ok_iff.2 ⟨s, (List.append_nil s).symm, h, rfl⟩
  rw [scan_eq_ok_iff.2 ⟨s, (List.append_nil s).symm, h', rfl⟩] at hscan
  exact (Prod.mk.inj (Except.ok.inj hscan)).1.symm

theorem isMatch_of_ranges_eq_nil {p : Pattern} (h : p.ranges = []) (t : Text) :
    p.isMatch t = (p.expr.find? t).isSome := by
  rw [isMatch, h]
  cases p.expr.find? t <;> rfl

theorem exists_spans_of_isMatch {p : Pattern} {t : Text} (hp : p.expr.Anchored) (h : p.isMatch t) :
    ∃ m, p.expr.find? t = some m ∧ m.Spans t := by
  unfold isMatch at h
  cases hm : p.expr.find? t with
  | none =>
    rw [hm] at h
    cases h
  | some m => exact ⟨m, rfl, hp.spans hm⟩

/-- A group whose body has no braces and carets in it. -/
theorem groupText_of_plain (body : Text) (ho : '{' ∉ body) (hc : '}' ∉ body) (he : '^' ∉ body) :
    GroupText 0 (body ++ ['}']) body := by
  induction body with
  | nil => exact .close
  | cons c body ih =>
    rw [List.mem_cons, not_or] at ho hc he
    exact .plain (Ne.symm ho.1) (Ne.symm hc.1) (Ne.symm he.1) (ih ho.2 hc.2 he.2)

/-- **Whatever a pattern matches, it matches as a whole**, if what its verbatim groups put between
the ends of the text is self-contained. -/
theorem isMatch_spans {text t : Text} {items : List Item} {p : Pattern} (hp : ofText text = .ok p)
    (hi : PatternText false text items)
    (hc : hasGroup items → isSelfContained (writtenItems 0 items)) (h : p.isMatch t) :
    ∃ m, p.expr.find? t = some m ∧ m.Spans t := by
  obtain ⟨items', hitems, hexpr, -⟩ := ofText_eq_ok_iff.1 hp
  cases hi.unique hitems
  exact exists_spans_of_isMatch
    (anchored_of_exprOfItems hexpr fun hg => neutral_of_isSelfContained (hc hg)) h

/-- Groups may be balanced together only. -/
theorem isMatch_spans_of_groups_together :
    ∃ p m, ofText "{(a}*{)}".toList = .ok p ∧ p.isMatch "abc".toList ∧
      p.expr.find? "abc".toList = some m ∧ m.Spans "abc".toList := by
  let items : List Item := [.group ['(', 'a'], .star, .group [')']]
  have hi : PatternText false "{(a}*{)}".toList items :=
    .group (groupText_of_plain ['(', 'a'] (by decide) (by decide) (by decide)) rfl
      (.star (.group (groupText_of_plain [')'] (by decide) (by decide) (by decide)) rfl .nil))
  obtain ⟨e, he, hfind⟩ : ∃ e, exprOfItems items = .ok e ∧ (e.find? "abc".toList).isSome :=
    ⟨_, rfl, by decide⟩
  let p : Pattern := { source := "{(a}*{)}".toList, expr := e, ranges := [] }
  have hp : ofText "{(a}*{)}".toList = .ok p := ofText_eq_ok_iff.2 ⟨items, hi, he, rfl⟩
  have hm : p.isMatch "abc".toList := (isMatch_of_ranges_eq_nil rfl _).trans hfind
  obtain ⟨m, hfind, hspans⟩ := isMatch_spans hp hi (fun _ => by decide) hm
  exact ⟨p, m, hp, hm, hfind, hspans⟩

/-- A pattern of one verbatim group whose expression stops before the end of a text matches it in
part. -/
theorem exists_partial_match (body : Text) {t : Text} {e : Expr} {m : Match}
    (hg : GroupText 0 (body ++ ['}']) body) (hi : groupItem [] body = .ok (.group body))
    (he : exprOfItems [.group body] = .ok e) (hm : e.find? t = some m) (hr : m.finish.rest ≠ []) :
    ∃ p m, ofText ('{' :: (body ++ ['}'])) = .ok p ∧ p.isMatch t ∧ p.expr.find? t = some m ∧
      ¬m.Spans t := by
  have htext : PatternText false ('{' :: (body ++ ['}'])) [.group body] := by
    have hgroup := PatternText.group hg hi (@PatternText.nil false)
    rwa [List.append_nil] at hgroup
  refine ⟨{ source := _, expr := e, ranges := [] }, m,
    ofText_eq_ok_iff.2 ⟨_, htext, he, rfl⟩, ?_, hm, fun h => hr h.finish⟩
  rw [isMatch_of_ranges_eq_nil rfl, hm]
  rfl

/-- A group that closes the one between the ends of the text sets its first branch free: `ax`
matches here although nothing takes the `x`. -/
theorem isMatch_of_group_closing_early :
    ∃ p m, ofText "{a))|(?:(?:b}".toList = .ok p ∧ p.isMatch "ax".toList ∧
      p.expr.find? "ax".toList = some m ∧ ¬m.Spans "ax".toList :=
  exists_partial_match "a))|(?:(?:b".toList
    (groupText_of_plain _ (by decide) (by decide) (by decide)) rfl rfl rfl (List.cons_ne_nil 'x' [])

/-- A group that lets a comment begin takes the end of the text out of the expression. -/
theorem isMatch_of_group_beginning_comment :
    ∃ p m, ofText "{a))(?x)#}".toList = .ok p ∧ p.isMatch "ax".toList ∧
      p.expr.find? "ax".toList = some m ∧ ¬m.Spans "ax".toList :=
  exists_partial_match "a))(?x)#".toList
    (groupText_of_plain _ (by decide) (by decide) (by decide)) rfl rfl rfl (List.cons_ne_nil 'x' [])

/-! ## Group by group -/

theorem neutral_escaped (c : Char) : Neutral (escaped c) := fun s u hs _ =>
  .inr ⟨s.push (.literal { char := c }), rfl, hs, read_escaped hs c u⟩

theorem neutral_range (index : Nat) :
    Neutral ("(?P<".toList ++ rangeName index ++ ">-?[0-9]+)".toList) := by
  intro s u hs hu
  have hdigits : Neutral "-?[0-9]+".toList := neutral_of_isSelfContained (by decide +kernel)
  have hparts : "(?P<".toList ++ rangeName index ++ ">-?[0-9]+)".toList ++ u =
      "(?P<".toList ++ (rangeName index ++ '>' :: ("-?[0-9]+".toList ++ ')' :: u)) := by
    rw [List.append_assoc, List.append_assoc]
    rfl
  rw [hparts]
  rcases read_open_named hs (not_mem_rangeName index) ("-?[0-9]+".toList ++ ')' :: u) with
      he | hopen
  · exact .inl he
  · rw [hopen]
    rcases read_append_close (.capture (some (rangeName index))) hdigits (s := s) hs u with
      he | ⟨body, taken, hclosed⟩
    · exact .inl he
    · exact .inr ⟨{ s with
        parts := .group (.capture (some (rangeName index))) body :: s.parts, taken },
        rfl, hs, hclosed⟩

theorem apart_escaped (c : Char) (t : Text) : Apart (escaped c ++ t) := by
  unfold escaped
  split
  · exact ⟨by simp, by simp⟩
  · next hmeta =>
    have hne (d : Char) (hd : isMeta d) : some c ≠ some d := by
      rintro ⟨rfl⟩
      exact hmeta hd
    exact ⟨hne '?' (by decide), hne '{' (by decide)⟩

theorem apart_writtenItems (index : Nat) (items : List Item) :
    Apart (writtenItems index items) := by
  fun_cases writtenItems index items with
  | case1 => decide
  | case2 c items => exact apart_escaped c _
  | case3 | case4 | case5 => exact ⟨by simp, by simp⟩

/-- Self-contained groups put one piece between the ends of the text. -/
theorem neutral_writtenItems {index : Nat} {items : List Item}
    (h : ∀ body, Item.group body ∈ items → isSelfContained ("(?:".toList ++ body ++ ")".toList)) :
    Neutral (writtenItems index items) := by
  fun_induction writtenItems index items with
  | case1 => exact neutral_nil
  | case2 index c items ih =>
    exact (neutral_escaped c).append (ih fun body hb => h body (List.mem_cons_of_mem _ hb))
      (apart_writtenItems index items)
  | case3 index items ih =>
    have hstar : Neutral "(?s:.*)".toList := neutral_of_isSelfContained (by decide)
    exact hstar.append (ih fun body hb => h body (List.mem_cons_of_mem _ hb))
      (apart_writtenItems index items)
  | case4 index bounds items ih =>
    exact (neutral_range index).append (ih fun body hb => h body (List.mem_cons_of_mem _ hb))
      (apart_writtenItems (index + 1) items)
  | case5 index body items ih =>
    exact (neutral_of_isSelfContained (h body List.mem_cons_self)).append
      (ih fun body hb => h body (List.mem_cons_of_mem _ hb)) (apart_writtenItems index items)

/-- **It is enough that each verbatim group is self-contained.** -/
theorem isMatch_spans_of_groups {text t : Text} {items : List Item} {p : Pattern}
    (hp : ofText text = .ok p) (hi : PatternText false text items)
    (hc : ∀ body, Item.group body ∈ items → isSelfContained ("(?:".toList ++ body ++ ")".toList))
    (h : p.isMatch t) : ∃ m, p.expr.find? t = some m ∧ m.Spans t := by
  obtain ⟨items', hitems, hexpr, -⟩ := ofText_eq_ok_iff.1 hp
  cases hi.unique hitems
  exact exists_spans_of_isMatch
    (anchored_of_exprOfItems hexpr fun _ => neutral_writtenItems hc) h

end Pattern

end TreeQuery
