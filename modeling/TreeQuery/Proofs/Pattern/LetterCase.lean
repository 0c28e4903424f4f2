import TreeQuery.Proofs.Params.LetterCase
import TreeQuery.Proofs.Path.Parts
import TreeQuery.Proofs.Pattern.Reading

/-!
# Patterns in another letter case

What is read as a pattern depends on what follows it only at the end of a text (`Takes.congr`). And as no
letter means anything in a pattern outside of groups, a text without groups is read in the same way in
another letter case, faults and all (`Reads.exists_of_sameFolded`). If it is a pattern, it stays one, and
what it spells literally changes in letter case only.
-/

namespace TreeQuery.Pattern

open Text (SameFolded)

variable {stop : Bool} {s t rest : Text} {pieces : List Piece}

/-! ## What is taken -/

/-- Whether a text is what is read as a pattern, faults and all, where the other text follows it. -/
def Takes (stop : Bool) (s rest : Text) : Prop := ∃ pieces, Reads stop (s ++ rest) pieces rest

theorem Reads.append {rest' : Text} (h : Reads stop t pieces rest) (hne : rest ≠ [])
    (hend : endsPattern stop rest' = true) : Reads stop (textOf pieces ++ rest') pieces rest' := by
  induction h with
  | ends => exact .ends hend
  | plain ho hc he hgo _ ih => exact .plain ho hc he hgo (ih hne)
  | escape c _ ih => exact .escape c (ih hne)
  | group hg _ ih =>
    rw [textOf_cons, Piece.text, List.cons_append, List.cons_append, List.append_assoc]
    exact .group hg (ih hne)
  | stray _ ih => exact .stray (ih hne)
  | caret | unclosed => exact absurd rfl hne

/-- What is read does not depend on what follows, if anything does. -/
theorem Takes.congr {rest' : Text} (h : Takes stop s rest) (hne : rest ≠ [])
    (hend : endsPattern stop rest' = true) : Takes stop s rest' := by
  obtain ⟨pieces, hr⟩ := h
  obtain rfl := List.append_cancel_right hr.eq_append
  exact ⟨pieces, hr.append hne hend⟩

/-- Where the scanner finds no fault, it takes what is read. -/
theorem Takes.eq_of_spells {s' rest' : Text} {p : Pattern} (h : Takes stop s rest)
    (hp : Spells stop s' p) (heq : s ++ rest = s' ++ rest') (hend : endsPattern stop rest' = true) :
    s' = s ∧ rest' = rest := by
  obtain ⟨pieces, hr⟩ := h
  obtain ⟨items, hitems, -⟩ := hp
  have hanswers := answers_of_reads hr 0
  rw [heq, scan_append hitems hend] at hanswers
  cases hfaults : faultsFrom 0 pieces with
  | nil =>
    rw [hfaults] at hanswers
    obtain ⟨-, rfl⟩ := Prod.mk.inj (Except.ok.inj hanswers)
    exact ⟨(List.append_cancel_right heq).symm, rfl⟩
  | cons fault more =>
    rw [hfaults] at hanswers
    obtain ⟨left, h, -⟩ := hanswers
    cases h

/-! ## Letter case -/

/-- Whether a piece is a group, closed or not. -/
def Piece.isGroup : Piece → Bool
  | group .. | unclosed .. => true
  | _ => false

theorem endsPattern_of_toLower_eq {c d : Char} (h : c.toLower = d.toLower)
    (hend : endsPattern stop (c :: s) = false) (t : Text) : endsPattern stop (d :: t) = false := by
  rw [← Bool.not_eq_true] at hend ⊢
  intro hd
  refine hend ?_
  simp only [endsPattern, Bool.or_eq_true, Bool.and_eq_true, decide_eq_true_eq] at hd ⊢
  rcases hd with (rfl | rfl) | ⟨hstop, rfl⟩
  · exact .inl (.inl (Text.eq_of_toLower_eq (by decide) h))
  · exact .inl (.inr (Text.eq_of_toLower_eq (by decide) h))
  · exact .inr ⟨hstop, Text.eq_of_toLower_eq (by decide) h⟩

/-- Without groups, a text in another letter case is read in the same way. -/
theorem Reads.exists_of_sameFolded (h : Reads stop t pieces rest)
    (hg : ∀ piece ∈ pieces, piece.isGroup = false) (hs : SameFolded (textOf pieces) s) :
    ∃ pieces', Reads stop (s ++ rest) pieces' rest ∧ ∀ piece ∈ pieces', piece.isGroup = false := by
  induction h generalizing s with
  | ends hend =>
    obtain rfl := hs.eq_nil_iff.1 rfl
    exact ⟨[], .ends hend, hg⟩
  | plain ho hc he hgo _ ih =>
    obtain ⟨d, s, rfl, hd, hs'⟩ := hs.exists_cons
    obtain ⟨pieces', hr, hg'⟩ := ih (List.forall_mem_cons.1 hg).2 hs'
    exact ⟨.plain d :: pieces', .plain (Text.ne_of_toLower_eq (by decide) hd ho)
      (Text.ne_of_toLower_eq (by decide) hd hc) (Text.ne_of_toLower_eq (by decide) hd he)
      (endsPattern_of_toLower_eq hd hgo _) hr, List.forall_mem_cons.2 ⟨rfl, hg'⟩⟩
  | escape c _ ih =>
    obtain ⟨d, s, rfl, hd, hs'⟩ := hs.exists_cons
    obtain ⟨e, s, rfl, -, hs''⟩ := hs'.exists_cons
    obtain rfl : d = '^' := Text.eq_of_toLower_eq (by decide) hd.symm
    obtain ⟨pieces', hr, hg'⟩ := ih (List.forall_mem_cons.1 hg).2 hs''
    exact ⟨.escape e :: pieces', .escape e hr, List.forall_mem_cons.2 ⟨rfl, hg'⟩⟩
  | stray _ ih =>
    obtain ⟨d, s, rfl, hd, hs'⟩ := hs.exists_cons
    obtain rfl : d = '}' := Text.eq_of_toLower_eq (by decide) hd.symm
    obtain ⟨pieces', hr, hg'⟩ := ih (List.forall_mem_cons.1 hg).2 hs'
    exact ⟨.stray :: pieces', .stray hr, List.forall_mem_cons.2 ⟨rfl, hg'⟩⟩
  | caret =>
    obtain ⟨d, s, rfl, hd, hs'⟩ := hs.exists_cons
    obtain rfl : d = '^' := Text.eq_of_toLower_eq (by decide) hd.symm
    obtain rfl := hs'.eq_nil_iff.1 rfl
    exact ⟨[.caret], .caret, hg⟩
  | group | unclosed => cases (List.forall_mem_cons.1 hg).1

/-- Without groups, a text in another letter case is scanned if the text itself is. -/
theorem Reads.exists_scan_of_sameFolded (h : Reads stop t pieces rest)
    (hg : ∀ piece ∈ pieces, piece.isGroup = false) (hs : SameFolded (textOf pieces) s)
    {items : List Item} {left : Text} (hscan : scan stop t = .ok (items, left)) :
    ∃ items', scan stop (s ++ rest) = .ok (items', rest) ∧ hasGroup items' = false := by
  induction h generalizing s items left with
  | ends hend =>
    obtain rfl := hs.eq_nil_iff.1 rfl
    exact ⟨[], scan_of_endsPattern hend, rfl⟩
  | @plain _ _ rest _ ho hc he hgo _ ih =>
    obtain ⟨d, s, rfl, hd, hs'⟩ := hs.exists_cons
    rw [scan_plain_piece ho hc he hgo] at hscan
    obtain ⟨⟨items, left⟩, hscan', -⟩ := map_eq_ok_iff.1 hscan
    obtain ⟨items', hr, hg'⟩ := ih (List.forall_mem_cons.1 hg).2 hs' hscan'
    have hscan' := scan_plain_piece (Text.ne_of_toLower_eq (by decide) hd ho)
      (Text.ne_of_toLower_eq (by decide) hd hc) (Text.ne_of_toLower_eq (by decide) hd he)
      (endsPattern_of_toLower_eq hd hgo (s ++ rest))
    rw [List.cons_append, hscan', hr]
    refine ⟨_, rfl, ?_⟩
    by_cases hstar : d = '*'
    · rw [if_pos hstar]
      exact hg'
    · rw [if_neg hstar]
      exact hg'
  | escape c _ ih =>
    obtain ⟨d, s, rfl, hd, hs'⟩ := hs.exists_cons
    obtain ⟨e, s, rfl, -, hs''⟩ := hs'.exists_cons
    obtain rfl : d = '^' := Text.eq_of_toLower_eq (by decide) hd.symm
    rw [scan] at hscan
    obtain ⟨⟨items, left⟩, hscan', -⟩ := map_eq_ok_iff.1 hscan
    obtain ⟨items', hr, hg'⟩ := ih (List.forall_mem_cons.1 hg).2 hs'' hscan'
    refine ⟨.char e :: items', ?_, hg'⟩
    rw [List.cons_append, List.cons_append, scan, hr]
    rfl
  | stray | caret =>
    rw [scan] at hscan
    cases hscan
  | group | unclosed => cases (List.forall_mem_cons.1 hg).1

theorem Reads.exists_spells_of_sameFolded {p : Pattern} (h : Reads stop (t ++ rest) pieces rest)
    (hg : ∀ piece ∈ pieces, piece.isGroup = false) (hp : Spells stop t p) (hs : SameFolded t s) :
    ∃ p', Spells stop s p' := by
  obtain ⟨items, hitems, -⟩ := hp
  have hscan := scan_append hitems h.endsPattern_rest
  have htext : t = textOf pieces := List.append_cancel_right h.eq_append
  obtain ⟨items', hscan', hg'⟩ := h.exists_scan_of_sameFolded hg (htext ▸ hs) hscan
  obtain ⟨s', heq, hitems', -⟩ := scan_eq_ok_iff.1 hscan'
  obtain rfl := List.append_cancel_right heq
  obtain ⟨p', hp'⟩ := exists_isWhole_of_patternText hitems' hg'
  exact ⟨p', isWhole_iff_spells.1 hp'⟩

/-- Letter case goes through the dropping of carets. -/
theorem unquote_of_sameFolded (h : SameFolded s t) : SameFolded (unquote s) (unquote t) := by
  fun_induction unquote s generalizing t with
  | case1 c s ih =>
    obtain ⟨d, t, rfl, hd, h'⟩ := h.exists_cons
    obtain ⟨e, t, rfl, he, h''⟩ := h'.exists_cons
    obtain rfl : d = '^' := Text.eq_of_toLower_eq (by decide) hd.symm
    rw [unquote]
    exact Text.sameFolded_cons_iff.2 ⟨he, ih h''⟩
  | case2 =>
    obtain ⟨d, t, rfl, hd, h'⟩ := h.exists_cons
    obtain rfl : d = '^' := Text.eq_of_toLower_eq (by decide) hd.symm
    obtain rfl := h'.eq_nil_iff.1 rfl
    rfl
  | case3 c s hescape hcaret ih =>
    obtain ⟨d, t, rfl, hd, h'⟩ := h.exists_cons
    have hc : c ≠ '^' := by
      rintro rfl
      cases s with
      | nil => exact hcaret rfl rfl
      | cons c s => exact hescape c s rfl rfl
    rw [unquote_cons_of_ne (Text.ne_of_toLower_eq (by decide) hd hc)]
    exact Text.sameFolded_cons_iff.2 ⟨hd, ih h'⟩
  | case4 =>
    obtain rfl := h.eq_nil_iff.1 rfl
    rfl

end TreeQuery.Pattern
