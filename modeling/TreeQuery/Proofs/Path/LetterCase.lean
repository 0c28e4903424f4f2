import TreeQuery.Proofs.Locator.Description
import TreeQuery.Proofs.Path.Alternatives
import TreeQuery.Proofs.Pattern.LetterCase

/-!
# Keys in another letter case

A key of a path is the name of a parameter: what a clause tests, or what the roots are sorted by. Where
it stands (`KeyAt`) is told by reading the line from the left, over faults as well, so that there are
keys in lines that are not well formed. A key that has no group can be written in another letter case:
the path finds the same nodes, or fails as before (`letter_case_of_names`).

It is enough to show that what is found is still found, as the other way is the same with the two keys
exchanged (`KeyAt.of_sameFolded`). So nothing has to be said about faults: a line that finds something
has been read without any.
-/

namespace TreeQuery.Path

open Text (SameFolded)
open Pattern (Takes Reads Piece Spells endsPattern unquote map_eq_ok_iff bind_eq_ok_iff)
open Plan (opening opening_cases endsName exists_operand sortStep)
open Segment (ClausesText tail_injective tail_ne_cons_amp)

variable {forest : Forest}

/-! ## Places of keys -/

/-- What a text begins with: a segment, or what follows the name of one. -/
inductive Place where
  | segment
  | clauses

/-- Whether a key stands in a text that begins at a place, between what is before it and what is after
it. The key of a clause has no group. Other faults, in the key and before it, are passed over. -/
inductive KeyAt : Place → (before key after : Text) → Prop
  | sort {key : Text} (rest : Option Text) : '|' ∉ key → KeyAt .segment ['.', '!'] key (tail rest)
  | sortBefore {param before key after : Text} :
    '|' ∉ param → KeyAt .segment before key after →
      KeyAt .segment ('.' :: '!' :: (param ++ '|' :: before)) key after
  | select {bounds before key after : Text} :
    '|' ∉ bounds → KeyAt .segment before key after →
      KeyAt .segment ('.' :: '#' :: (bounds ++ '|' :: before)) key after
  | descend {before key after : Text} :
    KeyAt .segment before key after → KeyAt .segment ('*' :: '*' :: '|' :: before) key after
  | climb {before key after : Text} :
    KeyAt .segment before key after → KeyAt .segment ('.' :: '.' :: '|' :: before) key after
  /-- The dot stands for the roots themselves. -/
  | self {before key after : Text} :
    KeyAt .clauses before key after → KeyAt .segment ('.' :: before) key after
  | filter {name before key after : Text} :
    Takes false name before → opening (name ++ before) = .filter →
      KeyAt .clauses before key after → KeyAt .segment (name ++ before) key after
  | bar {before key after : Text} :
    KeyAt .segment before key after → KeyAt .clauses ('|' :: before) key after
  | clause {k v before key after : Text} :
    Takes true k ['='] → Takes false v before → KeyAt .clauses before key after →
      KeyAt .clauses ('&' :: (k ++ '=' :: (v ++ before))) key after
  /-- A clause without an equals sign comes before the key. -/
  | missing {k before key after : Text} :
    Takes true k before → KeyAt .clauses before key after →
      KeyAt .clauses ('&' :: (k ++ before)) key after
  | key {key after : Text} {pieces : List Piece} :
    Reads true (key ++ after) pieces after → (∀ piece ∈ pieces, piece.isGroup = false) →
      KeyAt .clauses ['&'] key after

variable {place : Place} {before key key' after : Text}

/-- In another letter case, the key stands in the same place. -/
theorem KeyAt.of_sameFolded (h : KeyAt place before key after) (hs : SameFolded key key') :
    KeyAt place before key' after := by
  induction h with
  | sort rest hn => exact .sort rest (hs.not_mem (by decide) hn)
  | sortBefore hn _ ih => exact .sortBefore hn (ih hs)
  | select hn _ ih => exact .select hn (ih hs)
  | descend _ ih => exact .descend (ih hs)
  | climb _ ih => exact .climb (ih hs)
  | self _ ih => exact .self (ih hs)
  | filter hn ho _ ih => exact .filter hn ho (ih hs)
  | bar _ ih => exact .bar (ih hs)
  | clause hk hv _ ih => exact .clause hk hv (ih hs)
  | missing hk _ ih => exact .missing hk (ih hs)
  | key hr hg =>
    have hkey := List.append_cancel_right hr.eq_append
    obtain ⟨pieces', hr', hg'⟩ := hr.exists_of_sameFolded hg (hkey ▸ hs)
    exact .key hr' hg'

/-- Clauses and bars are told by their first character. -/
theorem KeyAt.exists_cons (h : KeyAt .clauses before key after) :
    ∃ c before', before = c :: before' ∧ (c = '&' ∨ c = '|') := by
  cases h with
  | bar => exact ⟨'|', _, rfl, .inr rfl⟩
  | clause | missing | key => exact ⟨'&', _, rfl, .inl rfl⟩

theorem KeyAt.endsPattern_append (h : KeyAt .clauses before key after) (stop : Bool) (t : Text) :
    endsPattern stop (before ++ t) = true := by
  obtain ⟨c, before', rfl, rfl | rfl⟩ := h.exists_cons <;> rfl

theorem KeyAt.endsName_append (h : KeyAt .clauses before key after) (t : Text) :
    endsName (before ++ t) = true := by
  obtain ⟨c, before', rfl, rfl | rfl⟩ := h.exists_cons <;> rfl

theorem endsName_cons_congr (d : Char) (s t : Text) : endsName (d :: s) = endsName (d :: t) := by
  by_cases hbar : d = '|'
  · rw [hbar]; rfl
  · by_cases hamp : d = '&'
    · rw [hamp]; rfl
    · rw [endsName, endsName] <;> simp_all

/-- What a name ends at tells how a line begins, and not what comes after that. -/
theorem opening_congr {name s t : Text} {c : Char} (hc : c = '&' ∨ c = '|')
    (h : opening (name ++ c :: s) = .filter) : opening (name ++ c :: t) = .filter := by
  have hdot : c ≠ '.' := by rintro rfl; simp at hc
  have hstar : c ≠ '*' := by rintro rfl; simp at hc
  have hhash : c ≠ '#' := by rintro rfl; simp at hc
  have hmark : c ≠ '!' := by rintro rfl; simp at hc
  -- a bar after an operator stays where it is
  have htail {u : Text} {rest : Option Text} (h : u ++ c :: t = tail rest) :
      ∃ rest', u ++ c :: s = tail rest' := by
    cases u with
    | nil =>
      cases rest with
      | none => cases h
      | some next => exact ⟨some s, by rw [(List.cons.inj h).1]; rfl⟩
    | cons d u =>
      cases rest with
      | none => cases h
      | some next => exact ⟨some (u ++ c :: s), by rw [(List.cons.inj h).1]; rfl⟩
  rcases opening_cases (name ++ c :: t) with
    ⟨rest, ht⟩ | ⟨rest, ht⟩ | ⟨_, rest, ht, -⟩ | ⟨_, rest, ht, -⟩ | ⟨rest, ht, he⟩ | ht
  · obtain ⟨u, rfl, hu⟩ := Plan.exists_cons_cons_of_append hstar hstar ht
    obtain ⟨rest', hrest⟩ := htail hu
    exact absurd h (by simp [hrest])
  · obtain ⟨u, rfl, hu⟩ := Plan.exists_cons_cons_of_append hdot hdot ht
    obtain ⟨rest', hrest⟩ := htail hu
    exact absurd h (by simp [hrest])
  · obtain ⟨u, rfl, -⟩ := Plan.exists_cons_cons_of_append hdot hhash ht
    obtain ⟨bounds, rest', hu, hn⟩ := exists_operand (u ++ c :: s)
    exact absurd h (by simp [hu, hn])
  · obtain ⟨u, rfl, -⟩ := Plan.exists_cons_cons_of_append hdot hmark ht
    obtain ⟨param, rest', hu, hn⟩ := exists_operand (u ++ c :: s)
    exact absurd h (by simp [hu, hn])
  · cases name with
    | nil => exact absurd (List.cons.inj ht).1 hdot
    | cons d name =>
      obtain ⟨rfl, rfl⟩ := List.cons.inj ht
      have he' : endsName (name ++ c :: s) = true := by
        cases name with
        | nil => rcases hc with rfl | rfl <;> rfl
        | cons d name => exact (endsName_cons_congr d _ _).trans he
      exact absurd h (by simp [he'])
  · exact ht

theorem KeyAt.opening_append (h : KeyAt .clauses before key after) {name : Text}
    (ho : opening (name ++ before) = .filter) (t : Text) :
    opening (name ++ (before ++ t)) = .filter := by
  obtain ⟨c, before', rfl, hc⟩ := h.exists_cons
  exact opening_congr hc ho

/-- What is read before clauses is read in the same way when more follows. -/
theorem KeyAt.takes_append (h : KeyAt .clauses before key after) {stop : Bool} {s : Text}
    (hs : Takes stop s before) (t : Text) : Takes stop s (before ++ t) := by
  obtain ⟨c, before', rfl, -⟩ := h.exists_cons
  exact hs.congr (by simp) (h.endsPattern_append stop t)

/-! ## Lines -/

/-- Whether a line finds at least what another finds: the same, unless that one fails. -/
def Follows (forest : Forest) (s t : Text) : Prop :=
  ∀ distinct fuel roots found, (Plan.read distinct s).run forest fuel roots = .ok found →
    (Plan.read distinct t).run forest fuel roots = .ok found

theorem Follows.refl (s : Text) : Follows forest s s := fun _ _ _ _ h => h

theorem run_step_follows {s t : Text} {step step' : Step} {distinct : Bool} {fuel : Fuel}
    {roots : List Root} {found : List Node × Fuel} (h : Follows forest s t)
    (hmove : step.move forest fuel roots = step'.move forest fuel roots)
    (hrun : (Plan.step step (Plan.read distinct s)).run forest fuel roots = .ok found) :
    (Plan.step step' (Plan.read distinct t)).run forest fuel roots = .ok found := by
  obtain ⟨roots', fuel', hs, hnext⟩ := Plan.run_step_eq_ok_iff.1 hrun
  exact Plan.run_step_eq_ok_iff.2 ⟨roots', fuel', hmove ▸ hs, h _ _ _ _ hnext⟩

/-- The same move may come before both lines. -/
theorem Follows.step {s t s' t' : Text} {step step' : Step} {after : Bool} (h : Follows forest s t)
    (hs : ∀ distinct, Plan.read distinct s' = .step step (Plan.read after s))
    (ht : ∀ distinct, Plan.read distinct t' = .step step' (Plan.read after t))
    (hmove : ∀ fuel roots, step.move forest fuel roots = step'.move forest fuel roots) :
    Follows forest s' t' := by
  intro distinct fuel roots found hrun
  rw [hs] at hrun
  rw [ht]
  exact run_step_follows h (hmove fuel roots) hrun

/-! ### Sorting -/

theorem sort_of_sameFolded (hs : SameFolded key key') (descending : Bool) :
    sort forest descending key = sort forest descending key' := by
  have hkey : sortKey forest key = sortKey forest key' := by
    funext root
    unfold sortKey
    cases root.node? with
    | none => rfl
    | some node => simp only [hs.eq_nil_iff, Forest.parameter_of_sameFolded hs node]
  funext roots
  unfold sort
  rw [hkey]

theorem sortStep_of_ne {c : Char} (h : c ≠ '!') (param : Text) :
    sortStep (c :: param) = .sort false (c :: param) := by
  rw [sortStep]
  rintro rest he
  exact h (List.cons.inj he).1

/-- The mark for the opposite order is no letter, so it stays. -/
theorem move_sortStep_of_sameFolded (hs : SameFolded key key') (fuel : Fuel) (roots : List Root) :
    (sortStep key).move forest fuel roots = (sortStep key').move forest fuel roots := by
  have hsort (descending : Bool) {param param' : Text} (hs : SameFolded param param') :
      (Step.sort descending param).move forest fuel roots =
        (Step.sort descending param').move forest fuel roots := by
    rw [Step.move, Step.move, sort_of_sameFolded hs]
  cases key with
  | nil =>
    obtain rfl := hs.eq_nil_iff.1 rfl
    rfl
  | cons c param =>
    obtain ⟨d, param', rfl, hd, hparam⟩ := hs.exists_cons
    by_cases hmark : c = '!'
    · subst hmark
      obtain rfl : d = '!' := Text.eq_of_toLower_eq (by decide) hd.symm
      exact hsort true hparam
    · rw [sortStep_of_ne hmark, sortStep_of_ne (Text.ne_of_toLower_eq (by decide) hd hmark)]
      exact hsort false hs

/-! ### Filters -/

/-- Clauses with the same patterns, for names that differ in letter case only. -/
inductive SameTests : (clauses clauses' : List (Text × Pattern)) → Prop
  | nil : SameTests [] []
  | cons {param param' : Text} {clauses clauses' : List (Text × Pattern)} (pattern : Pattern) :
    SameFolded param param' → SameTests clauses clauses' →
      SameTests ((param, pattern) :: clauses) ((param', pattern) :: clauses')

theorem SameTests.refl (clauses : List (Text × Pattern)) : SameTests clauses clauses := by
  induction clauses with
  | nil => exact .nil
  | cons clause clauses ih => exact .cons clause.2 rfl ih

theorem accepts_of_sameTests {name : Pattern} {clauses clauses' : List (Text × Pattern)}
    (h : SameTests clauses clauses') :
    Segment.accepts forest ⟨name, clauses⟩ = Segment.accepts forest ⟨name, clauses'⟩ := by
  funext node
  refine congrArg (name.isMatch (forest.name node) && ·) ?_
  show (clauses.all fun clause => clause.2.isMatch (forest.parameter node clause.1)) =
    clauses'.all fun clause => clause.2.isMatch (forest.parameter node clause.1)
  induction h with
  | nil => rfl
  | cons pattern hs _ ih =>
    rw [List.all_cons, List.all_cons, ih, Forest.parameter_of_sameFolded hs node]

theorem filter_of_sameTests {name : Pattern} {clauses clauses' : List (Text × Pattern)}
    (h : SameTests clauses clauses') (distinct : Bool) (roots : List Root) :
    filter forest distinct ⟨name, clauses⟩ roots = filter forest distinct ⟨name, clauses'⟩ roots := by
  unfold filter
  rw [accepts_of_sameTests h]

/-- Whether a text is read as clauses, up to the bar after them or up to its end. -/
def ReadAs (s : Text) (clauses : List (Text × Pattern)) (next : Option Text) : Prop :=
  ∃ cs, s = cs ++ tail next ∧ ClausesText cs clauses

section ReadAs

variable {s : Text} {clauses : List (Text × Pattern)} {next : Option Text}

theorem ReadAs.endsPattern (h : ReadAs s clauses next) : endsPattern false s = true := by
  obtain ⟨cs, rfl, hcs⟩ := h
  exact Segment.endsPattern_clausesText hcs next

theorem readAs_bar_iff : ReadAs ('|' :: s) clauses next ↔ clauses = [] ∧ next = some s := by
  constructor
  · rintro ⟨cs, hs, hcs⟩
    cases hcs with
    | nil => exact ⟨rfl, (tail_injective (show tail (some s) = tail next from hs)).symm⟩
    | cons => cases hs
  · rintro ⟨rfl, rfl⟩
    exact ⟨[], rfl, .nil⟩

theorem readAs_clause_iff :
    ReadAs ('&' :: s) clauses next ↔ ∃ k v rest key value more, s = k ++ '=' :: (v ++ rest) ∧
      Spells true k key ∧ Spells false v value ∧ ReadAs rest more next ∧
      clauses = (unquote k, value) :: more := by
  constructor
  · rintro ⟨cs, hs, hcs⟩
    cases hcs with
    | nil => exact absurd hs.symm (tail_ne_cons_amp next s)
    | @cons k v cs key value more hkey hvalue hcs =>
      refine ⟨k, v, cs ++ tail next, key, value, more, ?_, hkey, hvalue, ⟨cs, rfl, hcs⟩, rfl⟩
      rw [(List.cons.inj hs).2]
      simp
  · rintro ⟨k, v, _, key, value, more, rfl, hkey, hvalue, ⟨cs, rfl, hcs⟩, rfl⟩
    exact ⟨'&' :: (k ++ '=' :: (v ++ cs)), by simp, .cons hkey hvalue hcs⟩

theorem readAs_of_read {name : Text} {segment : Segment} (hname : Takes false name s) :
    Segment.read (name ++ s) = .ok (segment, next) ↔
      Spells false name segment.name ∧ ReadAs s segment.clauses next := by
  rw [Segment.read_eq_ok_iff]
  constructor
  · rintro ⟨_, hu, n, cs, rfl, hn, hcs⟩
    rw [List.append_assoc] at hu
    obtain ⟨rfl, hs⟩ := hname.eq_of_spells hn hu (Segment.endsPattern_clausesText hcs next)
    exact ⟨hn, cs, hs.symm, hcs⟩
  · rintro ⟨hn, cs, rfl, hcs⟩
    exact ⟨name ++ cs, (List.append_assoc _ _ _).symm, name, cs, rfl, hn, hcs⟩

end ReadAs

/-- Whether a text that is read as clauses leaves the other text to be read as the same tests, with a
line after them that finds at least the same. -/
def ClausesFollow (forest : Forest) (s t : Text) : Prop :=
  ∀ clauses next, ReadAs s clauses next → ∃ clauses' next', ReadAs t clauses' next' ∧
    SameTests clauses clauses' ∧ Option.Rel (Follows forest) next next'

section ClausesFollow

variable {s t : Text}

theorem clausesFollow_bar (h : Follows forest s t) :
    ClausesFollow forest ('|' :: s) ('|' :: t) := by
  intro clauses next hs
  obtain ⟨rfl, rfl⟩ := readAs_bar_iff.1 hs
  exact ⟨[], some t, readAs_bar_iff.2 ⟨rfl, rfl⟩, .nil, .some h⟩

theorem clausesFollow_clause {k v : Text} (hk : Takes true k ['=']) (hv : Takes false v s)
    (h : ClausesFollow forest s t) :
    ClausesFollow forest ('&' :: (k ++ '=' :: (v ++ s))) ('&' :: (k ++ '=' :: (v ++ t))) := by
  intro clauses next hs
  obtain ⟨k₀, v₀, rest, key, value, more, heq, hkey, hvalue, hrest, rfl⟩ := readAs_clause_iff.1 hs
  have hk' : Takes true k ('=' :: (v ++ s)) := hk.congr (by simp) (by simp [endsPattern])
  obtain ⟨rfl, hafter⟩ := hk'.eq_of_spells hkey heq (by simp [endsPattern])
  obtain ⟨rfl, rfl⟩ := hv.eq_of_spells hvalue (List.cons.inj hafter).2.symm hrest.endsPattern
  obtain ⟨clauses', next', ht, htests, hnext⟩ := h more next hrest
  exact ⟨_, next', readAs_clause_iff.2 ⟨k₀, v₀, t, key, value, clauses', rfl, hkey, hvalue, ht, rfl⟩,
    .cons value rfl htests, hnext⟩

/-- Nothing follows where an equals sign is missing. -/
theorem clausesFollow_missing {k : Text} (hk : Takes true k s) (hs : s.head? ≠ some '=') (t : Text) :
    ClausesFollow forest ('&' :: (k ++ s)) t := by
  intro clauses next h
  obtain ⟨k₀, v₀, rest, key, value, more, heq, hkey, hvalue, hrest, rfl⟩ := readAs_clause_iff.1 h
  obtain ⟨-, hafter⟩ := hk.eq_of_spells hkey heq (by simp [endsPattern])
  rw [← hafter] at hs
  exact absurd rfl hs

/-- A key in another letter case asks for the same parameter. -/
theorem clausesFollow_key {pieces : List Piece} (hr : Reads true (key ++ after) pieces after)
    (hg : ∀ piece ∈ pieces, piece.isGroup = false) (hs : SameFolded key key') :
    ClausesFollow forest ('&' :: (key ++ after)) ('&' :: (key' ++ after)) := by
  intro clauses next h
  obtain ⟨k, v, rest, p, value, more, heq, hkey, hvalue, hrest, rfl⟩ := readAs_clause_iff.1 h
  obtain ⟨rfl, rfl⟩ := Takes.eq_of_spells ⟨pieces, hr⟩ hkey heq (by simp [Pattern.endsPattern])
  obtain ⟨p', hkey'⟩ := hr.exists_spells_of_sameFolded hg hkey hs
  have hnext : Option.Rel (Follows forest) next next := by
    cases next with
    | none => exact .none
    | some next => exact .some (.refl next)
  exact ⟨_, next, readAs_clause_iff.2 ⟨key', v, rest, p', value, more, rfl, hkey', hvalue, hrest, rfl⟩,
    .cons value (Pattern.unquote_of_sameFolded hs) (.refl more), hnext⟩

end ClausesFollow

/-- The same segment name, with clauses that follow. -/
theorem run_readFilter_follows {name s t : Text} (hs : Takes false name s) (ht : Takes false name t)
    (h : ClausesFollow forest s t) {distinct : Bool} {fuel : Fuel} {roots : List Root}
    {found : List Node × Fuel}
    (hrun : (Plan.readFilter distinct (name ++ s)).run forest fuel roots = .ok found) :
    (Plan.readFilter distinct (name ++ t)).run forest fuel roots = .ok found := by
  cases hr : Segment.read (name ++ s) with
  | error e =>
    rw [Plan.readFilter_stop distinct hr] at hrun
    cases hrun
  | ok r =>
    obtain ⟨⟨pattern, clauses⟩, next⟩ := r
    obtain ⟨hn, hclauses⟩ := (readAs_of_read hs).1 hr
    obtain ⟨clauses', next', hclauses', htests, hnext⟩ := h clauses next hclauses
    have hr' : Segment.read (name ++ t) = .ok (⟨pattern, clauses'⟩, next') :=
      (readAs_of_read ht).2 ⟨hn, hclauses'⟩
    cases hnext with
    | none =>
      rw [Plan.readFilter_last distinct hr] at hrun
      rw [Plan.readFilter_last distinct hr', Plan.run, ← filter_of_sameTests htests]
      exact hrun
    | some hnext =>
      rw [Plan.readFilter_step distinct hr] at hrun
      rw [Plan.readFilter_step distinct hr']
      refine run_step_follows hnext ?_ hrun
      exact congrArg (fun nodes => Except.ok (nodes.map Root.node, fuel))
        (filter_of_sameTests htests distinct roots)

/-! ### Keys -/

/-- What is found, or what clauses lead to, is there with the other text too. -/
def FollowsAt (forest : Forest) : Place → (s t : Text) → Prop
  | .segment => Follows forest
  | .clauses => ClausesFollow forest

/-- **A key in another letter case leads to the same nodes.** -/
theorem KeyAt.followsAt (h : KeyAt place before key after) (hs : SameFolded key key') :
    FollowsAt forest place (before ++ (key ++ after)) (before ++ (key' ++ after)) := by
  induction h with
  | @sort key rest hn =>
    exact (Follows.refl _).step (Plan.read_sort · rest hn)
      (Plan.read_sort · rest (hs.not_mem (by decide) hn)) (move_sortStep_of_sameFolded hs)
  | @sortBefore param before _ _ hn _ ih =>
    have hassoc (t : Text) : ('.' :: '!' :: (param ++ '|' :: before)) ++ t =
        '.' :: '!' :: (param ++ '|' :: (before ++ t)) := by simp
    rw [hassoc, hassoc]
    exact (ih hs).step (Plan.read_sort_bar · hn) (Plan.read_sort_bar · hn) fun _ _ => rfl
  | @select bounds before key after hn _ ih =>
    have hassoc (t : Text) : ('.' :: '#' :: (bounds ++ '|' :: before)) ++ t =
        '.' :: '#' :: (bounds ++ '|' :: (before ++ t)) := by simp
    rw [hassoc, hassoc]
    cases hb : Plan.bounds? bounds with
    | none =>
      intro distinct fuel roots found hrun
      have hread := Plan.read_select distinct (some (before ++ (key ++ after))) hn
      rw [hb] at hread
      cases (congrArg (Plan.run forest fuel roots) hread).symm.trans hrun
    | some b =>
      exact (ih hs).step (Plan.read_select_bar · hn hb) (Plan.read_select_bar · hn hb) fun _ _ => rfl
  | descend _ ih =>
    exact (ih hs).step (Plan.read_descend_bar · _) (Plan.read_descend_bar · _) fun _ _ => rfl
  | climb _ ih =>
    exact (ih hs).step (Plan.read_climb_bar · _) (Plan.read_climb_bar · _) fun _ _ => rfl
  | @self before key after h ih =>
    intro distinct fuel roots found hrun
    have hstar (t : Text) : Takes false ['*'] (before ++ t) :=
      ⟨[.plain '*'], .plain (by decide) (by decide) (by decide) rfl
        (.ends (h.endsPattern_append false t))⟩
    rw [List.cons_append, Plan.read_self distinct (h.endsName_append _)] at hrun ⊢
    obtain ⟨roots', fuel', hmove, hnext⟩ := Plan.run_step_eq_ok_iff.1 hrun
    exact Plan.run_step_eq_ok_iff.2
      ⟨roots', fuel', hmove, run_readFilter_follows (hstar _) (hstar _) (ih hs) hnext⟩
  | filter hn ho h ih =>
    intro distinct fuel roots found hrun
    rw [List.append_assoc, Plan.read_filter distinct (h.opening_append ho _)] at hrun ⊢
    exact run_readFilter_follows (h.takes_append hn _) (h.takes_append hn _) (ih hs) hrun
  | bar _ ih => exact clausesFollow_bar (ih hs)
  | @clause k v before _ _ hk hv h ih =>
    have hassoc (t : Text) : ('&' :: (k ++ '=' :: (v ++ before))) ++ t =
        '&' :: (k ++ '=' :: (v ++ (before ++ t))) := by simp
    rw [hassoc, hassoc]
    exact clausesFollow_clause hk (h.takes_append hv _) (ih hs)
  | @missing k before key after hk h ih =>
    have hassoc : ('&' :: (k ++ before)) ++ (key ++ after) =
        '&' :: (k ++ (before ++ (key ++ after))) := by simp
    rw [hassoc]
    refine clausesFollow_missing (h.takes_append hk _) ?_ _
    obtain ⟨c, before', rfl, rfl | rfl⟩ := h.exists_cons <;> simp
  | key hr hg => exact clausesFollow_key hr hg hs

/-! ## Paths -/

theorem followLines_follows {line line' : Text} (h : Follows forest line line') (ls more : List Text)
    {fuel : Fuel} {roots : List Root} {found : List Node × Fuel}
    (hrun : followLines forest fuel roots (ls ++ line :: more) = .ok found) :
    followLines forest fuel roots (ls ++ line' :: more) = .ok found := by
  induction ls generalizing fuel found with
  | nil =>
    obtain ⟨first, hfirst, hmore⟩ := bind_eq_ok_iff.1 hrun
    exact bind_eq_ok_iff.2 ⟨first, h _ _ _ _ hfirst, hmore⟩
  | cons l ls ih =>
    obtain ⟨first, hfirst, hrun⟩ := bind_eq_ok_iff.1 hrun
    obtain ⟨others, hothers, hrun⟩ := bind_eq_ok_iff.1 hrun
    exact bind_eq_ok_iff.2 ⟨first, hfirst, bind_eq_ok_iff.2 ⟨others, ih hothers, hrun⟩⟩

/-- A line of a path is one of its lines, wherever it stands. -/
theorem lines_of_line {earlier line later : Text} (hne : line ≠ []) (hline : OneLine line)
    (hearlier : ∀ c ∈ earlier.getLast?, isLineBreak c = true)
    (hlater : ∀ c ∈ later.head?, isLineBreak c = true) :
    lines (earlier ++ (line ++ later)) = fullLines earlier ++ line :: fullLines later := by
  rw [lines_eq_fullLines (by simp [hne]), fullLines_append (.inl hearlier),
    fullLines_append (.inr hlater), ← lines_eq_fullLines hne, lines_of_oneLine hline]
  rfl

theorem KeyAt.ne_nil (h : KeyAt place before key after) : before ≠ [] := by
  cases h with
  | filter _ _ h =>
    obtain ⟨c, before', rfl, -⟩ := h.exists_cons
    simp
  | _ => simp

theorem evaluate_of_keyAt {earlier later : Text} (h : KeyAt .segment before key after)
    (hs : SameFolded key key') (hline : OneLine (before ++ (key ++ after)))
    (hearlier : ∀ c ∈ earlier.getLast?, isLineBreak c = true)
    (hlater : ∀ c ∈ later.head?, isLineBreak c = true) {fuel : Fuel} {roots : List Root}
    {found : List Node}
    (hfound : evaluate forest fuel (earlier ++ (before ++ (key ++ after) ++ later)) roots = .ok found) :
    evaluate forest fuel (earlier ++ (before ++ (key' ++ after) ++ later)) roots = .ok found := by
  have hline' : OneLine (before ++ (key' ++ after)) := by
    simp only [oneLine_append_iff] at hline ⊢
    exact ⟨hline.1, oneLine_of_sameFolded hs.symm hline.2.1, hline.2.2⟩
  rw [evaluate, lines_of_line (by simp [h.ne_nil]) hline hearlier hlater] at hfound
  rw [evaluate, lines_of_line (by simp [h.ne_nil]) hline' hearlier hlater]
  obtain ⟨r, hr, rfl⟩ := map_eq_ok_iff.1 hfound
  exact map_eq_ok_iff.2 ⟨r, followLines_follows (h.followsAt hs) _ _ hr, rfl⟩

/-- **Letter case means nothing in the names of parameters.** A node has the same value for two names
that differ in letter case only. So a key anywhere in a path, of a clause without groups or to sort by,
may be written in another letter case: the path finds the same nodes, and fails if it failed before. -/
theorem letter_case_of_names (forest : Forest) :
    (∀ node {name name' : Text}, SameFolded name name' →
      forest.parameter node name = forest.parameter node name') ∧
    ∀ (earlier later : Text) {before key key' after : Text}, KeyAt .segment before key after →
      SameFolded key key' → OneLine (before ++ (key ++ after)) →
      (∀ c ∈ earlier.getLast?, isLineBreak c = true) → (∀ c ∈ later.head?, isLineBreak c = true) →
      ∀ fuel roots found,
        evaluate forest fuel (earlier ++ (before ++ (key ++ after) ++ later)) roots = .ok found ↔
          evaluate forest fuel (earlier ++ (before ++ (key' ++ after) ++ later)) roots = .ok found := by
  refine ⟨fun node _ _ hs => Forest.parameter_of_sameFolded hs node, ?_⟩
  intro earlier later before key key' after h hs hline hearlier hlater fuel roots found
  have hline' : OneLine (before ++ (key' ++ after)) := by
    simp only [oneLine_append_iff] at hline ⊢
    exact ⟨hline.1, oneLine_of_sameFolded hs.symm hline.2.1, hline.2.2⟩
  constructor
  · exact evaluate_of_keyAt h hs hline hearlier hlater
  · exact evaluate_of_keyAt (h.of_sameFolded hs) hs.symm hline' hearlier hlater

/-- A flag that is set, in a clause that finds its node. -/
theorem letter_case_of_flag :
    let forest : Forest := [Tree.build [.node ['w'], .param 0 ['f', '_'] ['B']]]
    SameFolded ['f', '_', 'B'] ['F', '_', 'b'] ∧ KeyAt .segment ['w', '&'] ['f', '_', 'B'] ['=', '1'] ∧
      OneLine ['w', '&', 'f', '_', 'B', '=', '1'] ∧
      forest.parameter ⟨0, 0⟩ ['F', '_', 'b'] = ['1'] ∧
      evaluate forest .standard ['w', '&', 'F', '_', 'b', '=', '1'] [.detached [⟨0, 0⟩]] =
        .ok [⟨0, 0⟩] := by
  intro forest
  have hs : SameFolded ['f', '_', 'B'] ['F', '_', 'b'] := by decide
  have hname : Takes false ['w'] ['&'] :=
    ⟨[.plain 'w'], .plain (by decide) (by decide) (by decide) rfl (.ends rfl)⟩
  have hreads : Reads true ['f', '_', 'B', '=', '1'] [.plain 'f', .plain '_', .plain 'B'] ['=', '1'] :=
    .plain (by decide) (by decide) (by decide) rfl
      (.plain (by decide) (by decide) (by decide) rfl
        (.plain (by decide) (by decide) (by decide) rfl (.ends rfl)))
  have hkey : KeyAt .segment ['w', '&'] ['f', '_', 'B'] ['=', '1'] :=
    .filter hname rfl (@KeyAt.key ['f', '_', 'B'] _ _ hreads (by simp [Piece.isGroup]))
  have hline : OneLine ['w', '&', 'f', '_', 'B', '=', '1'] := by decide
  have hplain : IsKey ['f', '_', 'B'] := isKey_of_plain (by decide) (by simp [Pattern.isSpecial])
  have hfound : evaluate forest .standard ['w', '&', 'f', '_', 'B', '=', '1'] [.detached [⟨0, 0⟩]] =
      .ok [⟨0, 0⟩] :=
    @Locator.evaluate_described forest ['w'] [(['f', '_', 'B'], ['1'])] (by decide)
      (List.forall_mem_singleton.2 ⟨hplain, by decide⟩) .standard _
  obtain ⟨hparameter, hevaluate⟩ := letter_case_of_names forest
  exact ⟨hs, hkey, hline, (hparameter ⟨0, 0⟩ hs).symm.trans (by decide),
    (hevaluate [] [] hkey hs hline (by simp) (by simp) _ _ _).1 hfound⟩

end TreeQuery.Path
