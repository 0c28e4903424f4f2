import Mathlib.Data.List.TakeDrop
import Mathlib.Tactic.SplitIfs
import TreeQuery.Proofs.Pattern.Grammar

/-!
# Readers look at what they take

Each reader of the parser takes a first piece of the text and leaves the rest. What it takes does
not depend on what comes after the text (`Takes`), with two exceptions. A question mark or an
opening brace may still belong to the part before it, so a text that begins so cannot be put behind.
And where blanks are ignored, a comment may swallow what is put behind, unless the text went on
after the piece anyway.
-/

namespace TreeQuery.Regex.Parser

open Pattern (map_eq_ok_iff bind_eq_ok_iff)
open Unicode (isWhiteSpace)

/-! ## What may follow -/

/-- A text that begins with none of the marks that may belong to the part before them. -/
def Apart (u : Text) : Prop := u.head? ≠ some '?' ∧ u.head? ≠ some '{'

instance (u : Text) : Decidable (Apart u) := inferInstanceAs (Decidable (_ ∧ _))

/-- A reader took a first piece of `t` and left `rest`. Whenever `u` may be put behind the text,
`again u` holds. -/
structure Takes (ignoring : Bool) (t rest : Text) (again : Text → Prop) : Prop where
  suffix : rest <:+ t
  append : ∀ u, Apart u → (rest = [] → ignoring = false) → again u

namespace Takes

variable {ignoring : Bool} {t mid rest : Text} {p q r : Text → Prop}

/-- Nothing is taken. -/
theorem refl (h : ∀ u, Apart u → p u) : Takes ignoring t t p :=
  ⟨List.suffix_refl t, fun u hu _ => h u hu⟩

/-- One piece is taken after the other. -/
theorem trans (h₁ : Takes ignoring t mid p) (h₂ : Takes ignoring mid rest q)
    (h : ∀ u, p u → q u → r u) : Takes ignoring t rest r where
  suffix := h₂.suffix.trans h₁.suffix
  append u hu hr := by
    have hmid : mid = [] → ignoring = false := by
      rintro rfl
      exact hr (List.suffix_nil.1 h₂.suffix)
    exact h u (h₁.append u hu hmid) (h₂.append u hu hr)

theorem mono (ht : Takes ignoring t rest p) (h : ∀ u, p u → q u) : Takes ignoring t rest q :=
  ⟨ht.suffix, fun u hu hr => h u (ht.append u hu hr)⟩

/-- One character more is taken. -/
theorem cons (ht : Takes ignoring t rest p) (c : Char) (h : ∀ u, p u → q u) :
    Takes ignoring (c :: t) rest q :=
  ⟨ht.suffix.trans (List.suffix_cons c t), fun u hu hr => h u (ht.append u hu hr)⟩

/-- One character is taken. -/
theorem one (c : Char) (h : ∀ u, p u) : Takes ignoring (c :: t) t p :=
  ⟨List.suffix_cons c t, fun u _ _ => h u⟩

theorem single (c : Char) : Takes ignoring (c :: t) t fun _ => True := one c fun _ => trivial

theorem two (c d : Char) : Takes ignoring (c :: d :: t) t fun _ => True :=
  (single d).cons c fun _ h => h

end Takes

/-! ## Blanks -/

theorem dropBlanks_suffix (inComment : Bool) (t : Text) : dropBlanks inComment t <:+ t := by
  induction t generalizing inComment with
  | nil => cases inComment <;> exact List.suffix_refl []
  | cons c t ih =>
    have hc : t <:+ c :: t := List.suffix_cons c t
    cases inComment with
    | true => exact (ih _).trans hc
    | false =>
      rw [dropBlanks]
      split_ifs
      · exact (ih _).trans hc
      · exact (ih _).trans hc
      · exact List.suffix_refl _

theorem dropBlanks_append {inComment : Bool} {t : Text} (h : dropBlanks inComment t ≠ [])
    (u : Text) :
    dropBlanks inComment (t ++ u) = dropBlanks inComment t ++ u := by
  induction t generalizing inComment with
  | nil => cases inComment <;> exact absurd rfl h
  | cons c t ih =>
    cases inComment with
    | true => exact ih h
    | false =>
      rw [dropBlanks] at h
      rw [List.cons_append, dropBlanks, dropBlanks]
      split_ifs at h ⊢
      · exact ih h
      · exact ih h
      · rfl

theorem skip_suffix (ignoring : Bool) (t : Text) : skip ignoring t <:+ t := by
  unfold skip
  split
  · exact dropBlanks_suffix false t
  · exact List.suffix_refl t

theorem skip_nil (ignoring : Bool) : skip ignoring [] = [] := by cases ignoring <;> rfl

theorem takes_skip (ignoring : Bool) (t : Text) :
    Takes ignoring t (skip ignoring t) fun u => skip ignoring (t ++ u) = skip ignoring t ++ u where
  suffix := skip_suffix ignoring t
  append u _ h := by
    cases ignoring with
    | false => rfl
    | true => exact dropBlanks_append (fun hn => Bool.noConfusion (h hn)) u

theorem skip_append {ignoring : Bool} {t : Text} (h : skip ignoring t ≠ []) (u : Text) :
    skip ignoring (t ++ u) = skip ignoring t ++ u := by
  cases ignoring with
  | false => rfl
  | true => exact dropBlanks_append h u

/-! ## Runs of characters -/

theorem takeSkipping_suffix (ignoring : Bool) (accepts : Char → Bool) (t : Text) :
    (takeSkipping ignoring accepts t).2 <:+ t := by
  fun_induction takeSkipping ignoring accepts t with
  | case1 => exact List.suffix_refl []
  | case2 c rest _ run left heq ih =>
    rw [heq] at ih
    exact (ih.trans (skip_suffix ignoring rest)).trans (List.suffix_cons c rest)
  | case3 c rest => exact List.suffix_refl _

/-- A run that ends before the text does ends there whatever follows the text. -/
theorem takeSkipping_append {ignoring : Bool} {accepts : Char → Bool} {t run rest : Text}
    (h : takeSkipping ignoring accepts t = (run, rest)) (hr : rest ≠ []) (u : Text) :
    takeSkipping ignoring accepts (t ++ u) = (run, rest ++ u) := by
  fun_induction takeSkipping ignoring accepts t generalizing run with
  | case1 =>
    cases h
    exact absurd rfl hr
  | case2 c t hc run' left heq ih =>
    cases h
    have hskip : skip ignoring t ≠ [] := by
      intro hn
      rw [hn, takeSkipping] at heq
      exact hr (Prod.mk.inj heq).2.symm
    rw [List.cons_append, takeSkipping, if_pos hc, skip_append hskip, ih heq]
  | case3 c t hc =>
    cases h
    rw [List.cons_append, takeSkipping, if_neg hc]

theorem takes_takeSkipping {ignoring : Bool} {accepts : Char → Bool} {t run rest : Text}
    (h : takeSkipping ignoring accepts t = (run, rest)) (hr : rest ≠ []) :
    Takes ignoring t rest fun u => takeSkipping ignoring accepts (t ++ u) = (run, rest ++ u) where
  suffix := by simpa only [h] using takeSkipping_suffix ignoring accepts t
  append u _ _ := takeSkipping_append h hr u

/-! ## Character codes -/

theorem takes_hexDigits {ignoring : Bool} {n : Nat} {t digits rest : Text}
    (h : hexDigits ignoring n t = .ok (digits, rest)) :
    Takes ignoring t rest fun u => hexDigits ignoring n (t ++ u) = .ok (digits, rest ++ u) := by
  induction n generalizing t digits with
  | zero =>
    cases h
    exact .refl fun _ _ => rfl
  | succ n ih =>
    cases t with
    | nil => cases h
    | cons c t =>
      rw [hexDigits] at h
      split_ifs at h with hc
      obtain ⟨⟨more, left⟩, hmore, he⟩ := bind_eq_ok_iff.1 h
      cases he
      refine ((takes_skip ignoring t).trans (ih hmore) ?_).cons c fun u hu => hu
      intro u hs hd
      rw [List.cons_append, hexDigits, if_pos hc, hs, hd]
      rfl

theorem takes_charCode {ignoring : Bool} {width : Nat} {t rest : Text} {literal : Literal}
    (h : charCode ignoring width t = .ok (literal, rest)) :
    Takes ignoring t rest fun u => charCode ignoring width (t ++ u) = .ok (literal, rest ++ u) := by
  rw [charCode] at h
  split at h
  · cases h
  · next inner hskip =>
    split at h
    · cases h
    · next digits left hdigits =>
      split_ifs at h with hempty
      split at h
      · next char hchar =>
        cases h
        have ht := takes_skip ignoring t
        rw [hskip] at ht
        have hrun := (takes_skip ignoring inner).trans
          (takes_takeSkipping hdigits (List.cons_ne_nil _ _)) fun u hs hd => hs ▸ hd
        have hleft := hrun.trans ((takes_skip ignoring left).cons '}' fun u hu => hu)
          fun u hs hd => And.intro hs hd
        refine ht.trans (hleft.cons '{' fun u hu => hu) ?_
        rintro u hs ⟨hd, hl⟩
        rw [charCode, hs, List.cons_append]
        simp only [hd, List.cons_append, hempty, hchar, hl]
        rfl
      · cases h
    · cases h
  · next hnil hbrace =>
    obtain ⟨⟨digits, left⟩, hdigits, h⟩ := bind_eq_ok_iff.1 h
    dsimp only at h
    split at h
    · next char hchar =>
      cases h
      refine (takes_skip ignoring t).trans (takes_hexDigits hdigits) ?_
      intro u hs hd
      cases hskip : skip ignoring t with
      | nil => exact absurd hskip hnil
      | cons c inner =>
        have hc : c ≠ '{' := fun hc => hbrace inner (hc ▸ hskip)
        rw [hskip] at hs hd
        rw [charCode, hs]
        split
        · next hn => cases hn
        · next heq => exact absurd (List.cons.inj heq).1 hc
        · refine bind_eq_ok_iff.2 ⟨_, hd, ?_⟩
          dsimp only
          rw [hchar]
          rfl
    · cases h

/-! ## Escapes -/

theorem takes_propertyClass {ignoring negated : Bool} {t rest : Text} {ast : Ast}
    (h : propertyClass ignoring negated t = .ok (ast, rest)) :
    Takes ignoring t rest
      fun u => propertyClass ignoring negated (t ++ u) = .ok (ast, rest ++ u) := by
  have ht := takes_skip ignoring t
  rw [propertyClass] at h
  split at h
  · cases h
  · next inner hskip =>
    split at h
    · next name close left hname =>
      cases h
      rw [hskip] at ht
      have hrun := (takes_skip ignoring inner).trans
        (takes_takeSkipping hname (List.cons_ne_nil _ _)) fun u hs hd => hs ▸ hd
      have hleft := hrun.trans (.single close) fun u hd _ => hd
      refine ht.trans (hleft.cons '{' fun u hu => hu) ?_
      intro u hs hd
      rw [propertyClass, hs, List.cons_append]
      simp only [hd, List.cons_append]
    · cases h
  · cases h
  · next c inner hbrace hback hskip =>
    cases h
    rw [hskip] at ht
    refine ht.trans ((takes_skip ignoring inner).cons c fun u hu => hu) ?_
    intro u hs hd
    rw [propertyClass, hs, List.cons_append]
    split
    · next hn => cases hn
    · next heq => exact absurd (List.cons.inj heq).1 hbrace
    · next heq => exact absurd (List.cons.inj heq).1 hback
    · next heq =>
      cases heq
      rw [hd]

theorem takes_wordBoundary {ignoring : Bool} {t rest : Text} {ast : Ast}
    (h : wordBoundary ignoring t = .ok (ast, rest)) :
    Takes ignoring t rest fun u => wordBoundary ignoring (t ++ u) = .ok (ast, rest ++ u) := by
  unfold wordBoundary at h
  dsimp only at h
  split at h
  · next inner =>
    split at h
    · cases h
    · next c inner' hskip =>
      have ht := takes_skip ignoring inner
      rw [hskip] at ht
      split_ifs at h with hc
      · split at h
        · next name left hname =>
          split at h
          · next edge hedge =>
            cases h
            have hrun := ht.trans (takes_takeSkipping hname (List.cons_ne_nil _ _))
              fun u hs hd => And.intro hs hd
            have hleft := hrun.trans (.single '}') fun u hd _ => hd
            refine hleft.cons '{' ?_
            rintro u ⟨hs, hd⟩
            rw [List.cons_append] at hs hd
            simp only [wordBoundary, List.cons_append, hs, if_pos hc, hd, hedge]
          · cases h
        · cases h
      · cases h
        refine ⟨List.suffix_refl _, fun u _ _ => ?_⟩
        have hs := skip_append (hskip ▸ List.cons_ne_nil _ _) u
        rw [hskip, List.cons_append] at hs
        simp only [wordBoundary, List.cons_append, hs, if_neg hc]
  · next hbrace =>
    cases h
    refine .refl fun u hu => ?_
    unfold wordBoundary
    split
    · next inner heq =>
      cases t with
      | nil =>
        rw [List.nil_append] at heq
        exact absurd (heq ▸ rfl) hu.2
      | cons c t => exact absurd (by rw [(List.cons.inj heq).1]) (hbrace t)
    · rfl

theorem takes_escape {ignoring : Bool} {t rest : Text} {ast : Ast}
    (h : escape ignoring t = .ok (ast, rest)) :
    Takes ignoring t rest fun u => escape ignoring (t ++ u) = .ok (ast, rest ++ u) := by
  cases t with
  | nil => cases h
  | cons c t =>
    have hcode {width : Nat} {r : Text} {a : Ast}
        (h : (charCode ignoring width t).map (fun x => (Ast.literal x.1, x.2)) = .ok (a, r)) :
        Takes ignoring (c :: t) r fun u =>
          (charCode ignoring width (t ++ u)).map (fun x => (Ast.literal x.1, x.2)) =
            .ok (a, r ++ u) := by
      obtain ⟨⟨literal, left⟩, hl, he⟩ := map_eq_ok_iff.1 h
      cases he
      exact (takes_charCode hl).cons c fun u hu => hu ▸ rfl
    have hplain {a b : Ast} {r : Text} (h : Except.ok (ε := Fault) (a, t) = .ok (b, r)) :
        Takes ignoring (c :: t) r
          fun u => Except.ok (ε := Fault) (a, t ++ u) = .ok (b, r ++ u) := by
      cases h
      exact .one c fun u => rfl
    simp only [escape, List.cons_append] at h ⊢
    split_ifs at h ⊢ with hd he
    · exact hplain h
    · split at h
      · exact hcode h
      · exact hcode h
      · exact hcode h
      · exact (takes_propertyClass h).cons _ fun u hu => hu
      · exact (takes_propertyClass h).cons _ fun u hu => hu
      all_goals first
        | exact hplain h
        | exact (takes_wordBoundary h).cons _ fun u hu => hu
        | cases h

/-! ## Repetitions -/

theorem dropWhile_append_of_ne_nil {p : Char → Bool} {t : Text} (h : t.dropWhile p ≠ [])
    (u : Text) :
    (t ++ u).dropWhile p = t.dropWhile p ++ u := by
  rw [List.dropWhile_append, if_neg (by simpa using h)]

theorem takes_decimal {ignoring : Bool} {t rest : Text} {number : Except Fault Nat}
    (h : decimal ignoring t = (number, rest)) (hr : rest ≠ []) :
    Takes ignoring t rest fun u => decimal ignoring (t ++ u) = (number, rest ++ u) := by
  rcases hdigits : takeSkipping ignoring Char.isDigit (t.dropWhile isWhiteSpace) with ⟨digits, left⟩
  rcases hblanks : takeSkipping ignoring isWhiteSpace left with ⟨blanks, last⟩
  simp only [decimal, hdigits, hblanks, Prod.mk.injEq] at h
  obtain ⟨rfl, rfl⟩ := h
  have hleft : left ≠ [] := by
    rintro rfl
    rw [takeSkipping] at hblanks
    exact hr (Prod.mk.inj hblanks).2.symm
  have hdrop : t.dropWhile isWhiteSpace ≠ [] := by
    intro hn
    rw [hn, takeSkipping] at hdigits
    exact hleft (Prod.mk.inj hdigits).2.symm
  have ht : Takes ignoring t (t.dropWhile isWhiteSpace) fun u =>
      (t ++ u).dropWhile isWhiteSpace = t.dropWhile isWhiteSpace ++ u :=
    ⟨List.dropWhile_suffix _, fun u _ _ => dropWhile_append_of_ne_nil hdrop u⟩
  refine (ht.trans (takes_takeSkipping hdigits hleft) fun u hs hd => And.intro hs hd).trans
    (takes_takeSkipping hblanks hr) ?_
  rintro u ⟨hs, hd⟩ hb
  simp only [decimal, hs, hd, hb]

theorem takes_countBounds {ignoring : Bool} {t rest : Text} {least : Nat} {most : Option Nat}
    (h : countBounds ignoring t = .ok (least, most, rest)) (hr : rest ≠ []) :
    Takes ignoring t rest
      fun u => countBounds ignoring (t ++ u) = .ok (least, most, rest ++ u) := by
  unfold countBounds at h
  split at h
  · cases h
  · next number left hnumber =>
    have ht := takes_decimal hnumber (List.cons_ne_nil _ _)
    have hs := takes_skip ignoring left
    split at h
    · cases h
    · next left' hskip =>
      rw [hskip] at hs
      obtain ⟨n, rfl, he⟩ := map_eq_ok_iff.1 h
      cases he
      refine ht.trans (hs.cons ',' fun u hu => hu) fun u hd hs => ?_
      simp only [countBounds, hd, List.cons_append, hs]
      rfl
    · next hnil hbrace =>
      rcases hsecond : decimal ignoring (skip ignoring left) with ⟨second, last⟩
      rw [hsecond] at h
      obtain ⟨n, rfl, hn⟩ := bind_eq_ok_iff.1 h
      obtain ⟨m, rfl, he⟩ := bind_eq_ok_iff.1 hn
      cases he
      refine ht.trans ((hs.trans (takes_decimal hsecond hr) fun u hs hd => And.intro hs hd).cons ','
        fun u hu => hu) ?_
      rintro u hd ⟨hs, hl⟩
      simp only [countBounds, hd, List.cons_append]
      rw [hs]
      split
      · next hn => exact absurd (List.append_eq_nil_iff.1 hn).1 hnil
      · next left' heq =>
        cases hskip : skip ignoring left with
        | nil => exact absurd hskip hnil
        | cons c left =>
          rw [hskip] at heq
          exact absurd (by rw [hskip, (List.cons.inj heq).1]) (hbrace left)
      · rw [hl]
        rfl
  · next number left hnil hcomma hnumber =>
    obtain ⟨n, rfl, he⟩ := map_eq_ok_iff.1 h
    cases he
    refine (takes_decimal hnumber hr).mono fun u hd => ?_
    cases rest with
    | nil => exact absurd rfl hr
    | cons c left =>
      have hc : c ≠ ',' := by
        rintro rfl
        exact hcomma _ rfl
      simp only [countBounds, hd, List.cons_append]
      split
      · next heq => cases heq
      · next heq => exact absurd (List.cons.inj (Prod.mk.inj heq).2).1 hc
      · next heq =>
        cases heq
        rfl

theorem takes_greed (ignoring : Bool) {t rest : Text} {greedy : Bool}
    (h : greed t = (greedy, rest)) :
    Takes ignoring t rest fun u => greed (t ++ u) = (greedy, rest ++ u) := by
  unfold greed at h
  split at h
  · cases h
    exact .one _ fun u => rfl
  · next hmark =>
    cases h
    refine .refl fun u hu => ?_
    unfold greed
    split
    · next heq =>
      cases t with
      | nil =>
        rw [List.nil_append] at heq
        exact absurd (heq ▸ rfl) hu.1
      | cons c t => exact absurd (by rw [(List.cons.inj heq).1]) (hmark t)
    · rfl

theorem takes_counts {ignoring : Bool} {t rest : Text} {least : Nat} {most : Option Nat}
    {greedy : Bool} (h : counts ignoring t = .ok (least, most, greedy, rest)) :
    Takes ignoring t rest fun u =>
      counts ignoring (t ++ u) = .ok (least, most, greedy, rest ++ u) := by
  unfold counts at h
  split at h
  · cases h
  · next hnil =>
    obtain ⟨⟨n, m, left⟩, hbounds, h⟩ := bind_eq_ok_iff.1 h
    split at h
    · next left heq =>
      cases heq
      split_ifs at h with hle
      rcases hgreed : greed (skip ignoring left) with ⟨mark, last⟩
      rw [hgreed] at h
      cases h
      have hend := (takes_skip ignoring left).trans (takes_greed ignoring hgreed)
        fun u hs hg => And.intro hs hg
      refine ((takes_skip ignoring t).trans (takes_countBounds hbounds (List.cons_ne_nil _ _))
        fun u hs hb => And.intro hs hb).trans (hend.cons '}' fun u hu => hu) ?_
      rintro u ⟨hs, hb⟩ ⟨hs', hg⟩
      unfold counts
      rw [hs]
      split
      · next hn => exact absurd (List.append_eq_nil_iff.1 hn).1 hnil
      · refine bind_eq_ok_iff.2 ⟨_, hb, ?_⟩
        simp only [List.cons_append, hs', hg, if_neg hle]
        rfl
    · cases h

/-! ## Groups -/

theorem takes_flagItems {ignoring : Bool} {items found : List FlagItem} {dangling : Bool}
    {t rest : Text} {finish : Char} (h : flagItems items dangling t = .ok (found, finish, rest)) :
    Takes ignoring t rest fun u =>
      flagItems items dangling (t ++ u) = .ok (found, finish, rest ++ u) := by
  fun_induction flagItems items dangling t with
  | case1 | case2 | case4 | case6 | case7 => cases h
  | case3 items dangling c t hc hd =>
    cases h
    refine .one finish fun u => ?_
    rw [List.cons_append, flagItems, if_pos hc, if_neg hd]
  | case5 items dangling t hc hneg ih =>
    refine (ih h).cons '-' fun u hu => ?_
    rw [List.cons_append, flagItems, if_neg hc, if_pos rfl, if_neg hneg, hu]
  | case8 items dangling c t hc hneg flag hflag hnew ih =>
    refine (ih h).cons c fun u hu => ?_
    rw [List.cons_append, flagItems, if_neg hc, if_neg hneg, hflag]
    simp only [if_neg hnew, hu]

theorem suffix_of_span {p : Char → Bool} {t run rest : Text} (h : t.span p = (run, rest)) :
    rest <:+ t := by
  rw [List.span_eq_takeWhile_dropWhile, Prod.mk.injEq] at h
  rw [← h.2]
  exact List.dropWhile_suffix p

theorem span_append_of_ne_nil {p : Char → Bool} {t run rest : Text} (h : t.span p = (run, rest))
    (hr : rest ≠ []) (u : Text) : (t ++ u).span p = (run, rest ++ u) := by
  rw [List.span_eq_takeWhile_dropWhile, Prod.mk.injEq] at h ⊢
  obtain ⟨rfl, rfl⟩ := h
  refine ⟨?_, dropWhile_append_of_ne_nil hr u⟩
  rw [List.takeWhile_append, if_neg]
  intro hlen
  have hsum := congrArg List.length (List.takeWhile_append_dropWhile (p := p) (l := t))
  rw [List.length_append, hlen, Nat.add_eq_left, List.length_eq_zero_iff] at hsum
  exact hr hsum

/-- A name is read again unless it is taken. -/
theorem takes_groupName {ignoring : Bool} {taken : List Text} {t name rest : Text}
    (h : groupName taken t = .ok (name, rest)) :
    Takes ignoring t rest fun u => ∀ taken', groupName taken' (t ++ u) =
      if name ∈ taken' then .error .groupNameDuplicate else .ok (name, rest ++ u) := by
  rcases hspan : t.span (· ≠ '>') with ⟨read, left⟩
  simp only [groupName, hspan] at h
  cases left with
  | nil => split_ifs at h
  | cons c left =>
    split_ifs at h with hvalid hempty htaken
    cases h
    refine ⟨?_, fun u _ _ taken' => ?_⟩
    · exact (List.suffix_cons c rest).trans (suffix_of_span hspan)
    · simp only [groupName, span_append_of_ne_nil hspan (List.cons_ne_nil _ _), if_neg hvalid,
        List.cons_append, if_neg hempty]

/-- A parenthesis without a question mark after it captures what it encloses. -/
theorem groupOpening_of_head_ne {t : Text} (h : t.head? ≠ some '?') (taken : List Text) :
    groupOpening taken t = .ok (.group (.capture none), t) := by
  have hmark (tail : Text) : t ≠ '?' :: tail := by
    rintro rfl
    exact h rfl
  rw [groupOpening]
  all_goals first | exact hmark [] | exact fun _ => hmark _

/-- After a question mark stand flags if neither a look-around nor a name begins there. -/
theorem groupOpening_flags {c : Char} {t : Text} (h : c ∉ ['=', '!', '<', 'P'])
    (taken : List Text) :
    groupOpening taken ('?' :: c :: t) =
      flagItems [] false (c :: t) >>= fun (items, finish, rest) =>
        if finish = ':' then .ok (.group (.plain items), rest)
        else if items.isEmpty then .error .repetitionMissing
        else .ok (.flags items, rest) := by
  have hc (d : Char) (tail : Text) (hd : d ∈ ['=', '!', '<', 'P']) : c :: t ≠ d :: tail :=
    fun he => h ((List.cons.inj he).1 ▸ hd)
  rw [groupOpening]
  · rfl
  all_goals first | exact List.cons_ne_nil c t | (intro _ he; exact hc _ _ (by decide) he)

theorem takes_groupOpening (ignoring : Bool) {taken : List Text} {t rest : Text} {o : Opening}
    (h : groupOpening taken t = .ok (o, rest)) :
    Takes ignoring t rest fun u => ∀ taken', groupOpening taken' (t ++ u) = .ok (o, rest ++ u) ∨
      groupOpening taken' (t ++ u) = .error .groupNameDuplicate := by
  have hnamed {t : Text} (h : (groupName taken t).map
      (fun x => (Opening.group (.capture (some x.1)), x.2)) = .ok (o, rest)) :
      Takes ignoring t rest fun u => ∀ taken',
        (groupName taken' (t ++ u)).map (fun x => (Opening.group (.capture (some x.1)), x.2)) =
            .ok (o, rest ++ u) ∨
          (groupName taken' (t ++ u)).map (fun x => (Opening.group (.capture (some x.1)), x.2)) =
            .error .groupNameDuplicate := by
    obtain ⟨⟨name, left⟩, hname, he⟩ := map_eq_ok_iff.1 h
    cases he
    refine (takes_groupName hname).mono fun u hu taken' => ?_
    rw [hu]
    split_ifs
    · exact .inr rfl
    · exact .inl rfl
  unfold groupOpening at h
  split at h
  · cases h
  · cases h
  · cases h
  · cases h
  · next t =>
    exact (((hnamed h).cons '<' fun u hu => hu).cons 'P' fun u hu => hu).cons '?' fun u hu => hu
  · next t heq hne =>
    refine ((hnamed h).cons '<' fun u hu => hu).cons '?' fun u hu taken' => ?_
    cases t with
    | nil => cases h
    | cons c t =>
      have hc : c ≠ '=' ∧ c ≠ '!' :=
        ⟨fun hc => heq t (by rw [hc]), fun hc => hne t (by rw [hc])⟩
      rw [List.cons_append, List.cons_append, List.cons_append, groupOpening]
      · exact hu taken'
      · exact fun tail he => hc.1 (List.cons.inj he).1
      · exact fun tail he => hc.2 (List.cons.inj he).1
  · cases h
  · next t heq hne _ _ _ hangle hnil =>
    obtain ⟨⟨items, finish, left⟩, hitems, ho⟩ := bind_eq_ok_iff.1 h
    cases t with
    | nil => exact absurd rfl hnil
    | cons c t =>
      have hp : c ≠ 'P' := by
        rintro rfl
        simp [flagItems, Flag.ofChar?] at hitems
      have hc : c ∉ ['=', '!', '<', 'P'] := by
        simp only [List.mem_cons, List.not_mem_nil, or_false, not_or]
        exact ⟨fun h => heq t (by rw [h]), fun h => hne t (by rw [h]),
          fun h => hangle t (by rw [h]), hp⟩
      have hleft : left = rest := by
        dsimp only at ho
        split_ifs at ho <;> cases ho <;> rfl
      subst hleft
      refine (takes_flagItems hitems).cons '?' fun u hu taken' => .inl ?_
      rw [List.cons_append, List.cons_append, groupOpening_flags hc taken']
      refine bind_eq_ok_iff.2 ⟨_, hu, ?_⟩
      dsimp only at ho ⊢
      split_ifs at ho ⊢ <;> cases ho <;> rfl
  · next hmark =>
    cases h
    refine .refl fun u hu taken' => .inl (groupOpening_of_head_ne ?_ taken')
    cases t with
    | nil => exact hu.1
    | cons c t => exact fun h => hmark t (by rw [Option.some.inj h])

/-! ## Classes in brackets -/

end TreeQuery.Regex.Parser
