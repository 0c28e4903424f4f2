import Mathlib.Data.List.TakeWhile
import TreeQuery.Proofs.Regex.Locality

/-!
# Readers of classes in brackets look at what they take

The same for classes in brackets. Two places look further ahead than they take: a bracket with a
colon begins an ASCII class only if the marks that end one follow, and a hyphen makes a range only
if neither a bracket nor another hyphen comes next. Neither can be misled by what follows a class,
because a class is read up to the bracket that closes it.
-/

namespace TreeQuery.Regex.Parser

open Pattern (map_eq_ok_iff bind_eq_ok_iff)
open Unicode (isWhiteSpace)

/-! ## ASCII classes -/

/-- The name of an ASCII class has no bracket in it. -/
theorem ofName?_eq_none_of_mem {name : Text} (h : ']' ∈ name) : AsciiClass.ofName? name = none := by
  rw [AsciiClass.ofName?, List.findSome?_eq_none_iff]
  intro p hp
  have hbracket : ']' ∉ p.1.toList := by
    revert p
    decide
  refine if_neg fun he => hbracket ?_
  rwa [he]

theorem takes_asciiName? {ignoring negated : Bool} {t rest : Text} {item : ClassSet}
    (h : asciiName? negated t = some (item, rest)) :
    Takes ignoring t rest fun u => asciiName? negated (t ++ u) = some (item, rest ++ u) := by
  unfold asciiName? at h
  split at h
  · next name left hspan =>
    obtain ⟨kind, hkind, he⟩ := Option.map_eq_some_iff.1 h
    cases he
    refine ⟨((List.suffix_cons _ _).trans (List.suffix_cons _ _)).trans (suffix_of_span hspan),
      fun u _ _ => ?_⟩
    simp only [asciiName?, span_append_of_ne_nil hspan (List.cons_ne_nil _ _), List.cons_append,
      hkind, Option.map_some]
  · cases h

theorem asciiName?_eq_none_of_mem {negated : Bool} {t : Text} (h : ']' ∈ t.takeWhile (· ≠ ':')) :
    asciiName? negated t = none := by
  unfold asciiName?
  rw [List.span_eq_takeWhile_dropWhile]
  split
  · next name left he =>
    rw [(Prod.mk.inj he).1] at h
    rw [ofName?_eq_none_of_mem h]
    rfl
  · rfl

theorem asciiName?_append_eq_none {negated : Bool} {t : Text} (h : asciiName? negated t = none)
    (ht : ']' ∈ t) (u : Text) : asciiName? negated (t ++ u) = none := by
  by_cases hname : ']' ∈ t.takeWhile (· ≠ ':')
  · apply asciiName?_eq_none_of_mem
    rw [List.takeWhile_append]
    split_ifs
    · exact List.mem_append_left _ ht
    · exact hname
  · rcases hspan : t.span (· ≠ ':') with ⟨name, left⟩
    have hparts := hspan
    rw [List.span_eq_takeWhile_dropWhile, Prod.mk.injEq] at hparts
    have hleft : ']' ∈ left := by
      rw [← hparts.2]
      rw [← List.takeWhile_append_dropWhile (p := (· ≠ ':')) (l := t), List.mem_append] at ht
      exact ht.resolve_left hname
    -- the bracket is not the colon that ended the name
    obtain ⟨d, left, rfl⟩ : ∃ d more, left = ':' :: d :: more := by
      have hcolon := List.head?_dropWhile_not (· ≠ ':') t
      rw [hparts.2] at hcolon
      match left with
      | [] => cases hleft
      | [c] =>
        have hc : c = ':' := by simpa using hcolon
        simp [hc] at hleft
      | c :: d :: more =>
        have hc : c = ':' := by simpa using hcolon
        exact ⟨d, more, by rw [hc]⟩
    simp only [asciiName?, hspan] at h
    simp only [asciiName?, span_append_of_ne_nil hspan (List.cons_ne_nil _ _), List.cons_append]
    by_cases hd : d = ']'
    · subst hd
      simpa only [Option.map_eq_none_iff] using h
    · split
      · next heq =>
        cases heq
        exact absurd rfl hd
      · rfl

/-- The marks of an ASCII class without a negation. -/
theorem asciiClass?_colon {c : Char} (h : c ≠ '^') (t : Text) :
    asciiClass? (':' :: c :: t) = asciiName? false (c :: t) := by
  rw [asciiClass?]
  exact fun _ he => h (List.cons.inj he).1

theorem takes_asciiClass? {ignoring : Bool} {t rest : Text} {item : ClassSet}
    (h : asciiClass? t = some (item, rest)) :
    Takes ignoring t rest fun u => asciiClass? (t ++ u) = some (item, rest ++ u) := by
  unfold asciiClass? at h
  split at h
  · exact ((takes_asciiName? h).cons '^' fun u hu => hu).cons ':' fun u hu => hu
  · next t hcaret =>
    cases t with
    | nil => cases h
    | cons c t =>
      have hc : c ≠ '^' := fun hc => hcaret t (by rw [hc])
      refine (takes_asciiName? h).cons ':' fun u hu => ?_
      rw [List.cons_append, List.cons_append, asciiClass?_colon hc]
      exact hu
  · cases h

/-- What is no ASCII class does not become one by what follows the bracket. -/
theorem asciiClass?_append_eq_none {t : Text} (h : asciiClass? t = none) (ht : ']' ∈ t) (u : Text) :
    asciiClass? (t ++ u) = none := by
  unfold asciiClass? at h
  split at h
  · next t => exact asciiName?_append_eq_none h (by simpa using ht) u
  · next t hcaret =>
    cases t with
    | nil => simp at ht
    | cons c t =>
      have hc : c ≠ '^' := fun hc => hcaret t (by rw [hc])
      rw [List.cons_append, List.cons_append, asciiClass?_colon hc]
      exact asciiName?_append_eq_none h (by simpa using ht) u
  · next hcolon =>
    cases t with
    | nil => cases ht
    | cons c t =>
      have hc : c ≠ ':' := fun hc => hcolon t (by rw [hc])
      rw [List.cons_append, asciiClass?]
      · exact fun _ he => hc (List.cons.inj he).1
      · exact fun _ he => hc (List.cons.inj he).1

/-! ## The beginning of a class -/

theorem takes_classNegation {ignoring negated : Bool} {t rest : Text}
    (h : classNegation ignoring t = (negated, rest)) (hr : rest ≠ []) :
    Takes ignoring t rest fun u => classNegation ignoring (t ++ u) = (negated, rest ++ u) := by
  have ht := takes_skip ignoring t
  unfold classNegation at h
  split at h
  · next left hskip =>
    cases h
    rw [hskip] at ht
    refine ht.trans ((takes_skip ignoring left).cons '^' fun u hu => hu) fun u hs hl => ?_
    rw [← hl]
    unfold classNegation
    rw [hs]
    rfl
  · next hcaret =>
    cases h
    refine ht.mono fun u hs => ?_
    unfold classNegation
    rw [hs]
    split
    · next heq =>
      cases hskip : skip ignoring t with
      | nil => exact absurd hskip hr
      | cons c left =>
        rw [hskip] at heq
        exact absurd (by rw [hskip, (List.cons.inj heq).1]) (hcaret left)
    · rfl

theorem takes_classOpening {ignoring negated : Bool} {t rest : Text} {opened : List ClassSet}
    (h : classOpening ignoring t = .ok (negated, opened, rest)) :
    Takes ignoring t rest fun u =>
      classOpening ignoring (t ++ u) = .ok (negated, opened, rest ++ u) := by
  rcases hneg : classNegation ignoring t with ⟨neg, afterNeg⟩
  rcases hrun : takeSkipping ignoring (· = '-') afterNeg with ⟨hyphens, left⟩
  simp only [classOpening, hneg, hrun] at h
  have hleft : left ≠ [] := by
    rintro rfl
    simp at h
  have hafterNeg : afterNeg ≠ [] := by
    rintro rfl
    rw [takeSkipping] at hrun
    exact hleft (Prod.mk.inj hrun).2.symm
  have hstart := (takes_classNegation hneg hafterNeg).trans (takes_takeSkipping hrun hleft)
    fun u hn hr => And.intro hn hr
  split at h
  · cases h
  · next left hhyphens =>
    have hs := takes_skip ignoring left
    split at h
    · cases h
    · next hnil =>
      cases h
      refine hstart.trans (hs.cons ']' fun u hu => hu) ?_
      rintro u ⟨hn, hr⟩ hs
      simp only [classOpening, hn, hr, List.cons_append, hhyphens, hs]
      split
      · next heq => exact absurd (List.append_eq_nil_iff.1 heq).1 hnil
      · rfl
  · next hnil hbracket =>
    cases h
    refine hstart.mono ?_
    rintro u ⟨hn, hr⟩
    obtain ⟨c, left, rfl⟩ := List.exists_cons_of_ne_nil hleft
    simp only [classOpening, hn, hr]
    split
    · next heq => cases heq
    · next hhyphens heq => exact absurd (by rw [(List.cons.inj heq).1]) (hbracket left hhyphens)
    · rfl

/-! ## Items -/

theorem takes_classPrimitive {ignoring : Bool} {t rest : Text} {ast : Ast}
    (h : classPrimitive ignoring t = .ok (ast, rest)) :
    Takes ignoring t rest fun u => classPrimitive ignoring (t ++ u) = .ok (ast, rest ++ u) := by
  unfold classPrimitive at h
  split at h
  · cases h
  · next t => exact (takes_escape h).cons _ fun u hu => hu
  · next c t hc =>
    cases h
    refine .one c fun u => ?_
    rw [List.cons_append, classPrimitive]
    exact hc

theorem dropBlanks_of_blank {inComment : Bool} {t : Text} (h : ∀ c ∈ t, isWhiteSpace c) :
    dropBlanks inComment t = [] := by
  induction t generalizing inComment with
  | nil => cases inComment <;> rfl
  | cons c t ih =>
    have ht := fun d hd => h d (List.mem_cons_of_mem c hd)
    cases inComment with
    | true => exact ih ht
    | false => rw [dropBlanks, if_pos (h c List.mem_cons_self), ih ht]

theorem dropBlanks_dropWhile (t : Text) :
    dropBlanks false (t.dropWhile isWhiteSpace) = dropBlanks false t := by
  induction t with
  | nil => rfl
  | cons c t ih =>
    by_cases hc : isWhiteSpace c
    · rw [List.dropWhile_cons_of_pos hc, ih, dropBlanks, if_pos hc]
    · rw [List.dropWhile_cons_of_neg hc]

theorem peekPast_eq_of_dropWhile {t more : Text} {c : Char} (hc : c ≠ '#')
    (ht : t.dropWhile isWhiteSpace = c :: more) : peekPast true t = some c := by
  rw [peekPast, if_pos rfl, ht]
  split
  · next heq => exact absurd (List.cons.inj heq).1 hc
  · next heq => rw [(List.cons.inj heq).1]
  · next heq => cases heq

theorem peekPast_eq_of_dropWhile_sign {t more last : Text} {c : Char}
    (ht : t.dropWhile isWhiteSpace = '#' :: more) (hm : more.dropWhile isWhiteSpace = c :: last) :
    peekPast true t = some c := by
  rw [peekPast, if_pos rfl, ht]
  simp only [hm]
  rfl

/-- The next character but one is seen where it was if there was one to be seen. -/
theorem peekPast_append {ignoring : Bool} {t : Text}
    (h : skip ignoring t ≠ [] ∨ ∃ c, peekPast ignoring t = some c ∧ ¬(isWhiteSpace c ∨ c = '#'))
    (u : Text) : peekPast ignoring (t ++ u) = peekPast ignoring t := by
  cases t with
  | nil =>
    rcases h with h | ⟨c, hc, -⟩
    · exact absurd (skip_nil ignoring) h
    · cases ignoring <;> cases hc
  | cons x t =>
    cases ignoring with
    | false => rfl
    | true =>
      -- blanks alone, or blanks around one number sign, leave nothing to be seen
      have hsome (hskip : dropBlanks false (x :: t) = []) (hx : isWhiteSpace x ∨ x = '#')
          (hpeek : peekPast true (x :: t) = some x) : False := by
        rcases h with h | ⟨c, hc, hcx⟩
        · exact h hskip
        · cases hpeek.symm.trans hc
          exact hcx hx
      cases hd : (x :: t).dropWhile isWhiteSpace with
      | nil =>
        have hall := List.dropWhile_eq_nil_iff.1 hd
        refine (hsome (dropBlanks_of_blank hall) (.inl (hall x List.mem_cons_self)) ?_).elim
        rw [peekPast, if_pos rfl, hd]
        rfl
      | cons c more =>
        have happend := dropWhile_append_of_ne_nil (hd ▸ List.cons_ne_nil c more) u
        rw [hd, show c :: more ++ u = c :: (more ++ u) from rfl] at happend
        by_cases hc : c = '#'
        · subst hc
          cases hm : more.dropWhile isWhiteSpace with
          | nil =>
            have hx : isWhiteSpace x ∨ x = '#' := by
              by_cases hx : isWhiteSpace x
              · exact .inl hx
              · rw [List.dropWhile_cons_of_neg hx] at hd
                exact .inr (List.cons.inj hd).1
            have hskip : dropBlanks false (x :: t) = [] := by
              rw [← dropBlanks_dropWhile, hd, dropBlanks, if_neg (by decide), if_pos rfl,
                dropBlanks_of_blank (List.dropWhile_eq_nil_iff.1 hm)]
            refine (hsome hskip hx ?_).elim
            rw [peekPast, if_pos rfl, hd]
            simp only [hm]
            rfl
          | cons d last =>
            have hmore := dropWhile_append_of_ne_nil (hm ▸ List.cons_ne_nil d last) u
            rw [hm, List.cons_append] at hmore
            rw [peekPast_eq_of_dropWhile_sign hd hm, peekPast_eq_of_dropWhile_sign happend hmore]
        · rw [peekPast_eq_of_dropWhile hc hd, peekPast_eq_of_dropWhile hc happend]

theorem takes_classRange {ignoring : Bool} {t rest : Text} {item : ClassSet}
    (h : classRange ignoring t = .ok (item, rest)) :
    Takes ignoring t rest fun u => classRange ignoring (t ++ u) = .ok (item, rest ++ u) := by
  obtain ⟨⟨first, left⟩, hfirst, h⟩ := bind_eq_ok_iff.1 h
  have hstart := (takes_classPrimitive hfirst).trans (takes_skip ignoring left)
    fun u hf hs => And.intro hf hs
  dsimp only at h
  split at h
  · cases h
  · next more hskip =>
    rw [hskip] at hstart
    split at h
    · next hpeek =>
      obtain ⟨item, hitem, he⟩ := bind_eq_ok_iff.1 h
      cases he
      refine hstart.mono ?_
      rintro u ⟨hf, hs⟩
      refine bind_eq_ok_iff.2 ⟨_, hf, ?_⟩
      have hpeek' : peekPast ignoring (more ++ u) = peekPast ignoring more := by
        refine peekPast_append (.inr ?_) u
        rcases hpeek with hc | hc
        · exact ⟨_, hc, by decide⟩
        · exact ⟨_, hc, by decide⟩
      simp only [hs, List.cons_append, hpeek', if_pos hpeek, hitem]
      rfl
    · next hpeek =>
      obtain ⟨⟨last, left'⟩, hlast, h⟩ := bind_eq_ok_iff.1 h
      obtain ⟨low, hlow, h⟩ := bind_eq_ok_iff.1 h
      obtain ⟨high, hhigh, h⟩ := bind_eq_ok_iff.1 h
      split_ifs at h with hle
      cases h
      have hmore : skip ignoring more ≠ [] := by
        intro hn
        rw [hn] at hlast
        cases hlast
      have hend := (takes_skip ignoring more).trans (takes_classPrimitive hlast)
        fun u hs hl => And.intro hs hl
      refine hstart.trans (hend.cons '-' fun u hu => hu) ?_
      rintro u ⟨hf, hs⟩ ⟨hs', hl⟩
      refine bind_eq_ok_iff.2 ⟨_, hf, ?_⟩
      simp only [hs, List.cons_append, peekPast_append (.inl hmore), if_neg hpeek, hs', hl]
      refine bind_eq_ok_iff.2 ⟨_, rfl, bind_eq_ok_iff.2 ⟨_, hlow, bind_eq_ok_iff.2 ⟨_, hhigh, ?_⟩⟩⟩
      rw [if_pos hle]
      rfl
  · next hnil hyphen =>
    obtain ⟨item, hitem, he⟩ := bind_eq_ok_iff.1 h
    cases he
    refine hstart.mono ?_
    rintro u ⟨hf, hs⟩
    refine bind_eq_ok_iff.2 ⟨_, hf, ?_⟩
    obtain ⟨c, more, hskip⟩ := List.exists_cons_of_ne_nil hnil
    rw [hskip] at hs ⊢
    dsimp only
    rw [hs]
    split
    · next heq => cases heq
    · next heq => exact absurd (by rw [hskip, (List.cons.inj heq).1]) (hyphen more)
    · exact bind_eq_ok_iff.2 ⟨_, hitem, rfl⟩

/-- An item never ends a text: a class has to be closed after it. -/
theorem exists_cons_cons_of_classRange {ignoring : Bool} {t rest : Text} {item : ClassSet}
    (h : classRange ignoring t = .ok (item, rest)) : ∃ c d more, t = c :: d :: more := by
  obtain ⟨⟨first, left⟩, hfirst, h⟩ := bind_eq_ok_iff.1 h
  match t with
  | [] => cases hfirst
  | [c] =>
    have hleft : left = [] := by
      unfold classPrimitive at hfirst
      split at hfirst
      · cases hfirst
      · next heq =>
        cases heq
        cases hfirst
      · next heq =>
        cases heq
        cases hfirst
        rfl
    subst hleft
    dsimp only at h
    rw [skip_nil] at h
    cases h
  | c :: d :: more => exact ⟨c, d, more, rfl⟩

/-- An operation on classes takes two characters. -/
theorem takes_operator {ignoring : Bool} {t left : Text} {a b : Char}
    (h : skip ignoring t = a :: b :: left) :
    Takes ignoring t left fun u => skip ignoring (t ++ u) = a :: b :: (left ++ u) := by
  have hs := takes_skip ignoring t
  rw [h] at hs
  exact hs.trans (.two a b) fun u hs _ => hs

/-- What is neither a bracket nor an operation is an item. -/
theorem classRounds_of_item {ignoring : Bool} {t more : Text} {c d : Char}
    (h : skip ignoring t = c :: d :: more) (hb : c ∉ ['[', ']'])
    (ho : ¬(c = d ∧ c ∈ ['&', '-', '~'])) (n : Nat) (frames : List ClassFrame)
    (items : List ClassSet) :
    classRounds ignoring (n + 1) frames items t = classRange ignoring (c :: d :: more) >>= fun x =>
      classRounds ignoring n frames (x.1 :: items) x.2 := by
  rw [classRounds, h]
  dsimp only
  split
  · next heq => cases heq
  · next heq =>
    cases heq
    exact absurd (by decide) hb
  · next heq =>
    cases heq
    exact absurd (by decide) hb
  · next heq =>
    cases heq
    exact absurd (by decide) ho
  · next heq =>
    cases heq
    exact absurd (by decide) ho
  · next heq =>
    cases heq
    exact absurd (by decide) ho
  · rfl

/-- From `t` on, a class comes to its end before `rest`, no matter what follows the text and how
many rounds are allowed beyond `n`. -/
structure EndsClass (ignoring : Bool) (n : Nat) (frames : List ClassFrame) (items : List ClassSet)
    (t : Text) (ast : Ast) (rest : Text) : Prop where
  bracket_mem : ']' ∈ t
  takes : Takes ignoring t rest fun u => ∀ m, n ≤ m →
    classRounds ignoring m frames items (t ++ u) = .ok (ast, rest ++ u)

/-- What is read on a round is followed by the rounds after it. -/
theorem EndsClass.round {ignoring : Bool} {n : Nat} {frames frames' : List ClassFrame}
    {items items' : List ClassSet} {t left rest : Text} {ast : Ast} {p : Text → Prop}
    (h : EndsClass ignoring n frames' items' left ast rest) (ht : Takes ignoring t left p)
    (hstep : ∀ u m, p u → classRounds ignoring (m + 1) frames items (t ++ u) =
      classRounds ignoring m frames' items' (left ++ u)) :
    EndsClass ignoring (n + 1) frames items t ast rest where
  bracket_mem := ht.suffix.subset h.bracket_mem
  takes := ht.trans h.takes fun u hp hu m hm => by
    cases m with
    | zero => exact absurd hm (Nat.not_succ_le_zero n)
    | succ m => rw [hstep u m hp, hu m (Nat.le_of_succ_le_succ hm)]

/-- **A class in brackets is read up to the bracket that closes it**, whatever follows. -/
theorem endsClass_of_classRounds {ignoring : Bool} {n : Nat} {frames : List ClassFrame}
    {items : List ClassSet} {t rest : Text} {ast : Ast}
    (h : classRounds ignoring n frames items t = .ok (ast, rest)) :
    EndsClass ignoring n frames items t ast rest := by
  induction n generalizing frames items t with
  | zero => cases h
  | succ n ih =>
    have hs := takes_skip ignoring t
    rw [classRounds] at h
    dsimp only at h
    split at h
    · cases h
    · next left hskip =>
      rw [hskip] at hs
      split at h
      · next item left' hascii =>
        refine (ih h).round (hs.trans ((takes_asciiClass? hascii).cons '[' fun u hu => hu)
          fun u hs ha => And.intro hs ha) ?_
        rintro u m ⟨hs, ha⟩
        rw [classRounds, hs]
        simp only [List.cons_append, ha]
      · next hascii =>
        obtain ⟨⟨negated, opened, left'⟩, hopening, h⟩ := bind_eq_ok_iff.1 h
        have hclass := takes_classOpening hopening
        have hmem := hclass.suffix.subset (ih h).bracket_mem
        refine (ih h).round (hs.trans (hclass.cons '[' fun u hu => hu)
          fun u hs ho => And.intro hs ho) ?_
        rintro u m ⟨hs, ho⟩
        rw [classRounds, hs]
        simp only [List.cons_append, asciiClass?_append_eq_none hascii hmem, ho]
        rfl
    · next left hskip =>
      rw [hskip] at hs
      have hclose := hs.trans (.single ']') fun u hs _ => hs
      split at h
      · next set negated hset =>
        cases h
        refine ⟨hs.suffix.subset List.mem_cons_self, hclose.mono fun u hs m hm => ?_⟩
        cases m with
        | zero => exact absurd hm (Nat.not_succ_le_zero n)
        | succ m =>
          rw [classRounds, hs]
          simp only [List.cons_append, hset]
      · next set negated before frames' hne hset =>
        obtain ⟨frame, frames', rfl⟩ := List.exists_cons_of_ne_nil hne
        refine (ih h).round hclose fun u m hs => ?_
        rw [classRounds, hs]
        simp only [List.cons_append, hset]
      · cases h
    · next left hskip =>
      refine (ih h).round (takes_operator hskip) fun u m hs => ?_
      rw [classRounds, hs]
      rfl
    · next left hskip =>
      refine (ih h).round (takes_operator hskip) fun u m hs => ?_
      rw [classRounds, hs]
      rfl
    · next left hskip =>
      refine (ih h).round (takes_operator hskip) fun u m hs => ?_
      rw [classRounds, hs]
      rfl
    · next hnil hopen hclose hand hminus htilde =>
      obtain ⟨⟨item, left⟩, hitem, h⟩ := bind_eq_ok_iff.1 h
      refine (ih h).round (hs.trans (takes_classRange hitem) fun u hs hr => And.intro hs hr) ?_
      rintro u m ⟨hs, hr⟩
      obtain ⟨c, d, more, hskip⟩ := exists_cons_cons_of_classRange hitem
      rw [hskip] at hs hr hopen hclose hand hminus htilde
      have hb : c ∉ ['[', ']'] := by
        rintro (_ | ⟨_, _ | ⟨_, ⟨⟩⟩⟩)
        · exact hopen _ rfl
        · exact hclose _ rfl
      have ho : ¬(c = d ∧ c ∈ ['&', '-', '~']) := by
        rintro ⟨rfl, _ | ⟨_, _ | ⟨_, _ | ⟨_, ⟨⟩⟩⟩⟩⟩
        · exact hand _ rfl
        · exact hminus _ rfl
        · exact htilde _ rfl
      rw [List.cons_append, List.cons_append] at hs hr
      rw [classRounds_of_item hs hb ho, hr]
      rfl

theorem takes_bracketed {ignoring : Bool} {t rest : Text} {ast : Ast}
    (h : bracketed ignoring t = .ok (ast, rest)) :
    Takes ignoring t rest fun u => bracketed ignoring (t ++ u) = .ok (ast, rest ++ u) := by
  obtain ⟨⟨negated, opened, left⟩, hopening, h⟩ := bind_eq_ok_iff.1 h
  refine (takes_classOpening hopening).trans (endsClass_of_classRounds h).takes fun u ho hr => ?_
  exact bind_eq_ok_iff.2 ⟨_, ho, hr _ (by simp)⟩

end TreeQuery.Regex.Parser
