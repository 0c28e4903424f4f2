import TreeQuery.Pattern
import TreeQuery.Pattern.Quote

/-!
# The grammar of patterns

What the scanner takes of a text, written down as a grammar: the text of a pattern is a sequence of
item texts, and the scanner takes the one such text that is followed by a place where patterns end.

* `groupBody_eq_ok_iff` — a group is taken up to the brace that closes it
* `scan_eq_ok_iff` — a pattern is taken up to the first place where it may end
* `compile_eq_ok_iff` — the same with the regular expression and the source

What follows the pattern has no say in how the pattern is read. That is why all three statements
speak of the text that is taken and of the rest, and not of the whole.
-/

namespace TreeQuery.Pattern

/-- A result whose first part is mapped is there exactly when there was one to map. -/
theorem map_fst_eq_ok_iff {α β ρ ε : Type} {x : Except ε (α × ρ)} {f : α → β} {b : β} {r : ρ} :
    (x.map fun (a, r) => (f a, r)) = .ok (b, r) ↔ ∃ a, x = .ok (a, r) ∧ f a = b := by
  rw [map_eq_ok_iff]
  constructor
  · rintro ⟨⟨a, r'⟩, hx, he⟩
    obtain ⟨hb, rfl⟩ := Prod.mk.inj he
    exact ⟨a, hx, hb⟩
  · rintro ⟨a, hx, rfl⟩
    exact ⟨(a, r), hx, rfl⟩

/-- A computation in two parts gives a result exactly when both parts do. -/
theorem bind_eq_ok_iff {α β ε : Type} {x : Except ε α} {f : α → Except ε β} {b : β} :
    x >>= f = .ok b ↔ ∃ a, x = .ok a ∧ f a = .ok b := by
  constructor
  · intro h
    cases x with
    | error e => cases h
    | ok a => exact ⟨a, rfl, h⟩
  · rintro ⟨a, rfl, h⟩
    exact h

/-! ## Groups -/

/-- The texts that run from inside a group, `depth` inner braces being open, up to the brace that
closes it, together with the body that they spell. -/
inductive GroupText : (depth : Nat) → Text → (body : Text) → Prop
  | close : GroupText 0 ['}'] []
  | closeInner {depth : Nat} {s body : Text} :
    GroupText depth s body → GroupText (depth + 1) ('}' :: s) ('}' :: body)
  | openInner {depth : Nat} {s body : Text} :
    GroupText (depth + 1) s body → GroupText depth ('{' :: s) ('{' :: body)
  | escape {depth : Nat} {s body : Text} (c : Char) :
    GroupText depth s body → GroupText depth ('^' :: c :: s) (escaped c ++ body)
  | plain {depth : Nat} {c : Char} {s body : Text} :
    c ≠ '{' → c ≠ '}' → c ≠ '^' → GroupText depth s body → GroupText depth (c :: s) (c :: body)

theorem groupBody_plain {opened : Text} {depth : Nat} {c : Char} {t : Text} (ho : c ≠ '{')
    (hc : c ≠ '}') (he : c ≠ '^') :
    groupBody opened depth (c :: t) =
      (groupBody opened depth t).map fun (body, rest) => (c :: body, rest) := by
  rw [groupBody] <;> simp_all

/-- A group text is taken whole, whatever follows it. -/
theorem groupBody_append {opened s body : Text} {depth : Nat} (h : GroupText depth s body)
    (rest : Text) : groupBody opened depth (s ++ rest) = .ok (body, rest) := by
  induction h with
  | close => simp [groupBody]
  | closeInner _ ih | openInner _ ih | escape _ _ ih =>
    rw [List.cons_append]
    simp [groupBody, ih, Except.map]
  | plain ho hc he _ ih =>
    rw [List.cons_append, groupBody_plain ho hc he, ih]
    rfl

/-- Induction along a text from inside a group, by what the next character does there. -/
theorem groupInduction {motive : Nat → Text → Prop} (nil : ∀ depth, motive depth [])
    (close : ∀ rest, motive 0 ('}' :: rest))
    (closeInner : ∀ depth rest, motive depth rest → motive (depth + 1) ('}' :: rest))
    (openInner : ∀ depth rest, motive (depth + 1) rest → motive depth ('{' :: rest))
    (caret : ∀ depth, motive depth ['^'])
    (escape : ∀ depth c rest, motive depth rest → motive depth ('^' :: c :: rest))
    (plain : ∀ depth c rest, c ≠ '{' → c ≠ '}' → c ≠ '^' → motive depth rest →
      motive depth (c :: rest)) (depth : Nat) (t : Text) : motive depth t := by
  induction depth, t using groupBody.induct with
  | case1 depth => exact nil depth
  | case2 rest => exact close rest
  | case3 depth rest ih => exact closeInner depth rest ih
  | case4 depth rest ih => exact openInner depth rest ih
  | case5 depth => exact caret depth
  | case6 depth c rest ih => exact escape depth c rest ih
  | case7 depth c rest hclose hinner hopen hlone hescape ih =>
    refine plain depth c rest hopen ?_ ?_ ih
    · rintro rfl
      cases depth with
      | zero => exact hclose rfl rfl
      | succ n => exact hinner n rfl rfl
    · rintro rfl
      cases rest with
      | nil => exact hlone rfl rfl
      | cons d rest => exact hescape d rest rfl rfl

/-- What is taken as a group is a group text. -/
theorem groupText_of_groupBody {opened : Text} {depth : Nat} {t body rest : Text}
    (h : groupBody opened depth t = .ok (body, rest)) :
    ∃ s, t = s ++ rest ∧ GroupText depth s body := by
  induction depth, t using groupInduction generalizing body with
  | nil => simp [groupBody] at h
  | close rest' =>
    simp only [groupBody, Except.ok.injEq, Prod.mk.injEq] at h
    obtain ⟨rfl, rfl⟩ := h
    exact ⟨['}'], rfl, .close⟩
  | closeInner depth rest' ih =>
    rw [groupBody, map_fst_eq_ok_iff] at h
    obtain ⟨b, hb, rfl⟩ := h
    obtain ⟨s, rfl, hs⟩ := ih hb
    exact ⟨'}' :: s, rfl, .closeInner hs⟩
  | openInner depth rest' ih =>
    rw [groupBody, map_fst_eq_ok_iff] at h
    obtain ⟨b, hb, rfl⟩ := h
    obtain ⟨s, rfl, hs⟩ := ih hb
    exact ⟨'{' :: s, rfl, .openInner hs⟩
  | caret => simp [groupBody] at h
  | escape depth c rest' ih =>
    rw [groupBody, map_fst_eq_ok_iff] at h
    obtain ⟨b, hb, rfl⟩ := h
    obtain ⟨s, rfl, hs⟩ := ih hb
    exact ⟨'^' :: c :: s, rfl, .escape c hs⟩
  | plain depth c rest' ho hc he ih =>
    rw [groupBody_plain ho hc he, map_fst_eq_ok_iff] at h
    obtain ⟨b, hb, rfl⟩ := h
    obtain ⟨s, rfl, hs⟩ := ih hb
    exact ⟨c :: s, rfl, .plain ho hc he hs⟩

/-- A group is taken up to the brace that closes it. -/
theorem groupBody_eq_ok_iff {opened : Text} {depth : Nat} {t body rest : Text} :
    groupBody opened depth t = .ok (body, rest) ↔ ∃ s, t = s ++ rest ∧ GroupText depth s body := by
  constructor
  · exact groupText_of_groupBody
  · rintro ⟨s, rfl, hs⟩
    exact groupBody_append hs rest

/-- The item of a group does not depend on the text around it. -/
theorem groupItem_congr {opened opened' body : Text} {item : Item}
    (h : groupItem opened body = .ok item) : groupItem opened' body = .ok item := by
  unfold groupItem at h ⊢
  split at h
  · split at h
    · exact h
    · cases h
  · exact h

/-! ## Items -/

/-- Whether a text begins where a pattern ends. -/
def endsPattern (stopAtEquals : Bool) : Text → Bool
  | [] => true
  | c :: _ => c = '&' || c = '|' || (stopAtEquals && c = '=')

/-- The texts of patterns, with the items that they spell. -/
inductive PatternText (stopAtEquals : Bool) : Text → List Item → Prop
  | nil : PatternText stopAtEquals [] []
  | star {s : Text} {items : List Item} :
    PatternText stopAtEquals s items → PatternText stopAtEquals ('*' :: s) (.star :: items)
  | escape {s : Text} {items : List Item} (c : Char) :
    PatternText stopAtEquals s items → PatternText stopAtEquals ('^' :: c :: s) (.char c :: items)
  | group {g body s : Text} {item : Item} {items : List Item} :
    GroupText 0 g body → groupItem [] body = .ok item → PatternText stopAtEquals s items →
      PatternText stopAtEquals ('{' :: (g ++ s)) (item :: items)
  | plain {c : Char} {s : Text} {items : List Item} :
    isSpecial c = false → (stopAtEquals && c = '=') = false → PatternText stopAtEquals s items →
      PatternText stopAtEquals (c :: s) (.char c :: items)

theorem scan_of_endsPattern {stop : Bool} {t : Text} (h : endsPattern stop t = true) :
    scan stop t = .ok ([], t) := by
  cases t with
  | nil => rw [scan]
  | cons c t =>
    simp only [endsPattern, Bool.or_eq_true, decide_eq_true_eq, Bool.and_eq_true] at h
    rcases h with (rfl | rfl) | ⟨rfl, rfl⟩
    · rw [scan]
    · rw [scan]
    · rw [scan] <;> simp

theorem scan_plain {stop : Bool} {c : Char} {t : Text} (hc : isSpecial c = false)
    (he : (stop && c = '=') = false) :
    scan stop (c :: t) = (scan stop t).map fun (items, rest) => (.char c :: items, rest) := by
  simp only [isSpecial, List.contains_cons, List.contains_nil, Bool.or_false, Bool.or_eq_false_iff,
    beq_eq_false_iff_ne] at hc
  rw [scan] <;> simp_all

theorem scan_group {stop : Bool} {t body rest : Text} {item : Item}
    (hg : groupBody ('{' :: t) 0 t = .ok (body, rest)) (hi : groupItem ('{' :: t) body = .ok item) :
    scan stop ('{' :: t) = (scan stop rest).map fun (items, rest) => (item :: items, rest) := by
  rw [scan]
  split
  · simp_all
  · next body' rest' hg' =>
    obtain ⟨rfl, rfl⟩ := Prod.mk.inj (Except.ok.inj (hg.symm.trans hg'))
    simp only [hi]

/-- The text of a pattern is taken whole if it is followed by a place where a pattern ends. -/
theorem scan_append {stop : Bool} {s rest : Text} {items : List Item}
    (h : PatternText stop s items) (hr : endsPattern stop rest = true) :
    scan stop (s ++ rest) = .ok (items, rest) := by
  induction h with
  | nil => exact scan_of_endsPattern hr
  | star _ ih => rw [List.cons_append, scan, ih]; rfl
  | escape c _ ih => rw [List.cons_append, List.cons_append, scan, ih]; rfl
  | group hg hi _ ih =>
    rw [List.cons_append, List.append_assoc,
      scan_group (groupBody_eq_ok_iff.2 ⟨_, rfl, hg⟩) (groupItem_congr hi), ih]
    rfl
  | plain hc he _ ih => rw [List.cons_append, scan_plain hc he, ih]; rfl

/-- What is taken as a pattern is the text of one, and the rest begins where a pattern ends. -/
theorem patternText_of_scan {stop : Bool} {t rest : Text} {items : List Item}
    (h : scan stop t = .ok (items, rest)) :
    ∃ s, t = s ++ rest ∧ PatternText stop s items ∧ endsPattern stop rest = true := by
  fun_induction scan stop t generalizing items rest with
  | case1 | case2 | case3 =>
    obtain ⟨rfl, rfl⟩ := Prod.mk.inj (Except.ok.inj h)
    exact ⟨[], rfl, .nil, rfl⟩
  | case4 rest' ih =>
    obtain ⟨items', hr, rfl⟩ := map_fst_eq_ok_iff.1 h
    obtain ⟨s, rfl, hs, hend⟩ := ih hr
    exact ⟨'*' :: s, rfl, .star hs, hend⟩
  | case5 | case7 => cases h
  | case6 c rest' ih =>
    obtain ⟨items', hr, rfl⟩ := map_fst_eq_ok_iff.1 h
    obtain ⟨s, rfl, hs, hend⟩ := ih hr
    exact ⟨'^' :: c :: s, rfl, .escape c hs, hend⟩
  | case8 _ _ hg => split at h <;> simp_all
  | case9 _ _ _ hg _ _ hi => split at h <;> simp_all
  | case10 inner body rest' item hg _ hi ih =>
    split at h
    · cases h
    · next body' rest'' hg' =>
      obtain ⟨rfl, rfl⟩ := Prod.mk.inj (Except.ok.inj (hg.symm.trans hg'))
      simp only [hi] at h
      obtain ⟨items', hr, rfl⟩ := map_fst_eq_ok_iff.1 h
      obtain ⟨g, rfl, hgt⟩ := groupBody_eq_ok_iff.1 hg
      obtain ⟨s, rfl, hs, hend⟩ := ih hr
      exact ⟨'{' :: (g ++ s), by simp, .group hgt (groupItem_congr hi) hs, hend⟩
  | case11 c rest' _ _ _ _ _ _ hs =>
    obtain ⟨rfl, rfl⟩ := Prod.mk.inj (Except.ok.inj h)
    exact ⟨[], rfl, .nil, by simp_all [endsPattern]⟩
  | case12 c rest' hamp hbar hstar hlone hescape hclose hopen hstop ih =>
    obtain ⟨items', hr, rfl⟩ := map_fst_eq_ok_iff.1 h
    obtain ⟨s, rfl, hs, hend⟩ := ih hr
    have hcaret : c ≠ '^' := by
      rintro rfl
      cases hsr : s ++ rest with
      | nil => exact hlone rfl hsr
      | cons d u => exact hescape d u rfl hsr
    have hc : isSpecial c = false := by
      simp only [isSpecial, List.contains_cons, List.contains_nil, Bool.or_false,
        Bool.or_eq_false_iff, beq_eq_false_iff_ne]
      exact ⟨hstar, hamp, hbar, hopen, hclose, hcaret⟩
    exact ⟨c :: s, rfl, .plain hc (by simpa using hstop) hs, hend⟩

/-- **A pattern is taken up to the first place where it may end.** -/
theorem scan_eq_ok_iff {stop : Bool} {t rest : Text} {items : List Item} :
    scan stop t = .ok (items, rest) ↔
      ∃ s, t = s ++ rest ∧ PatternText stop s items ∧ endsPattern stop rest = true := by
  constructor
  · exact patternText_of_scan
  · rintro ⟨s, rfl, hs, hr⟩
    exact scan_append hs hr

/-! ## Patterns -/

/-- The pattern that a text spells as a whole. -/
def Spells (stopAtEquals : Bool) (s : Text) (p : Pattern) : Prop :=
  ∃ items, PatternText stopAtEquals s items ∧ exprOfItems items = .ok p.expr ∧
    p = { source := s, expr := p.expr, ranges := rangesOf items }

theorem Spells.source_eq {stop : Bool} {s : Text} {p : Pattern} (h : Spells stop s p) :
    p.source = s := by
  obtain ⟨items, _, _, hp⟩ := h
  rw [hp]

/-- **A pattern is read from the text up to the first place where it may end.** -/
theorem compile_eq_ok_iff {text part rest : Text} {stop : Bool} {p : Pattern} :
    compile text part stop = .ok ⟨p, rest⟩ ↔
      ∃ s, part = s ++ rest ∧ Spells stop s p ∧ endsPattern stop rest = true := by
  unfold compile
  constructor
  · intro h
    split at h
    · cases h
    · next items rest' hscan =>
      obtain ⟨s, rfl, hs, hr⟩ := scan_eq_ok_iff.1 hscan
      dsimp only at h
      split at h
      · cases h
      · next expr hexpr =>
        obtain ⟨rfl, rfl⟩ := Compiled.mk.inj (Except.ok.inj h)
        refine ⟨s, rfl, ⟨items, hs, hexpr, ?_⟩, hr⟩
        simp
  · rintro ⟨s, rfl, ⟨items, hs, hexpr, hp⟩, hr⟩
    rw [scan_append hs hr]
    dsimp only
    rw [hexpr, hp]
    simp

/-- There is one way only to cut a text behind a pattern. -/
theorem Spells.append_inj {stop : Bool} {s s' rest rest' : Text} {p p' : Pattern}
    (h : s ++ rest = s' ++ rest') (hs : Spells stop s p) (hs' : Spells stop s' p')
    (hr : endsPattern stop rest = true) (hr' : endsPattern stop rest' = true) :
    s = s' ∧ rest = rest' := by
  have hc : compile [] (s ++ rest) stop = .ok ⟨p, rest⟩ := compile_eq_ok_iff.2 ⟨s, rfl, hs, hr⟩
  rw [h, compile_eq_ok_iff.2 ⟨s', rfl, hs', hr'⟩] at hc
  obtain rfl := (Compiled.mk.inj (Except.ok.inj hc)).2
  exact ⟨List.append_cancel_right h, rfl⟩

end TreeQuery.Pattern
