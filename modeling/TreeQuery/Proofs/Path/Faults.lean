import TreeQuery.Proofs.Access.Lines
import TreeQuery.Proofs.Path.Quoting
import TreeQuery.Proofs.Path.Turns

/-!
# What a path fails with

A path fails for its own text (`Error.IsFault`): a malformation, or a regular expression that is refused.
The only other way to fail is that fuel runs out (`isFault_of_evaluate`). So nothing about the nodes of a
tree is ever reported by a path.

A malformation comes with a text and with a place in it. All readers, from the pattern up to the segment,
keep to the piece that they read: the place is where a final piece of it begins (`Error.LiesIn`). The text
is the line from the malformed segment on, but for one character: a dot that stands for the roots
themselves is shown as the star that it is read as (`Error.PointsInto`). So the text of a malformation
need not be in the path (`malformed_text_not_in_path`), but what it has from the place on is
(`exists_line_of_malformed`).
-/

namespace TreeQuery

namespace Error

/-- Errors that lie in the text of a path. -/
def IsFault : Error → Prop
  | malformed .. | badPattern .. => True
  | _ => False

/-- Faults of which a malformation has a text and a place that satisfy `P`. -/
def Blames (P : Text → Nat → Prop) : Error → Prop
  | malformed text offset _ => P text offset
  | badPattern .. => True
  | _ => False

/-- Faults of a text that is read from `part` on: a malformation is reported with the text, at the
beginning of a final piece of `part`. -/
def LiesIn (text part : Text) : Error → Prop :=
  Blames fun t offset =>
    t = text ∧ ∃ before rest, text = before ++ rest ∧ before.byteLength = offset ∧ rest <:+ part

/-- Faults of a line: a malformation is reported with a final piece of the line, in which a star may stand
for the dot before an ampersand, at the beginning of another final piece. -/
def PointsInto (line : Text) : Error → Prop :=
  Blames fun text offset =>
    (text <:+ line ∨ ∃ rest, text = '*' :: '&' :: rest ∧ '.' :: '&' :: rest <:+ line) ∧
      ∃ before rest, text = before ++ rest ∧ before.byteLength = offset ∧ rest <:+ line

variable {text part line : Text} {e : Error}

theorem Blames.imp {P Q : Text → Nat → Prop} (h : e.Blames P)
    (hPQ : ∀ text offset, P text offset → Q text offset) : e.Blames Q := by
  cases e with
  | malformed text offset => exact hPQ text offset h
  | badPattern => trivial
  | ambiguous | indistinct | notAChild | fuelExhausted => exact h.elim

theorem Blames.isFault {P : Text → Nat → Prop} (h : e.Blames P) : e.IsFault := by
  cases e with
  | malformed | badPattern => trivial
  | ambiguous | indistinct | notAChild | fuelExhausted => exact h.elim

theorem liesIn_malformedAt {rest : Text} (hp : part <:+ text) (hr : rest <:+ part)
    (cause : Malformation) : (malformedAt text rest cause).LiesIn text part := by
  obtain ⟨before, rfl⟩ := hr.trans hp
  exact ⟨rfl, before, rest, rfl, (Text.place_append before rest).symm, hr⟩

theorem LiesIn.mono {part' : Text} (h : e.LiesIn text part) (hp : part <:+ part') :
    e.LiesIn text part' := by
  refine h.imp ?_
  rintro _ _ ⟨rfl, before, rest, ht, hlength, hr⟩
  exact ⟨rfl, before, rest, ht, hlength, hr.trans hp⟩

theorem PointsInto.mono {line' : Text} (h : e.PointsInto line) (hl : line <:+ line') :
    e.PointsInto line' := by
  refine h.imp ?_
  rintro text offset ⟨htext, before, rest, ht, hlength, hr⟩
  refine ⟨?_, before, rest, ht, hlength, hr.trans hl⟩
  rcases htext with htext | ⟨tail, htext, hdot⟩
  · exact .inl (htext.trans hl)
  · exact .inr ⟨tail, htext, hdot.trans hl⟩

/-- A fault of a line is one of the text from a segment on. -/
theorem LiesIn.pointsInto (h : e.LiesIn line line) : e.PointsInto line := by
  refine h.imp ?_
  rintro _ _ ⟨rfl, hplace⟩
  exact ⟨.inl (List.suffix_refl _), hplace⟩

/-- If it is behind the star that a dot is read as, it is behind the dot. -/
theorem LiesIn.pointsInto_dot {rest : Text} (h : e.LiesIn ('*' :: '&' :: rest) ('&' :: rest)) :
    e.PointsInto ('.' :: '&' :: rest) := by
  refine h.imp ?_
  rintro _ _ ⟨rfl, before, rest', ht, hlength, hr⟩
  exact ⟨.inr ⟨rest, rfl, List.suffix_refl _⟩, before, rest', ht, hlength,
    hr.trans (List.suffix_cons ..)⟩

end Error

/-- Paying fails only if there is too little to pay with. -/
theorem Fuel.eq_fuelExhausted_of_pay {fuel : Fuel} {units : Nat} {e : Error}
    (h : fuel.pay units = .error e) : e = .fuelExhausted := by
  cases fuel with
  | none => cases h
  | some limit =>
    rw [pay] at h
    split at h <;> cases h
    rfl

/-! ## Patterns -/

namespace Pattern

/-- Mapping a result leaves the error as it is. -/
theorem map_eq_error_iff {α β ε : Type} {x : Except ε α} {f : α → β} {e : ε} :
    x.map f = .error e ↔ x = .error e := by
  cases x <;> simp [Except.map]

variable {t : Text} {fault : Fault}

/-- A fault in a group is at the opening brace or behind it. -/
theorem suffix_of_groupBody_error {opened : Text} {depth : Nat} (ht : t <:+ opened)
    (h : groupBody opened depth t = .error fault) : fault.rest <:+ opened := by
  induction depth, t using groupInduction with
  | nil =>
    cases h
    exact List.suffix_refl _
  | close => cases h
  | closeInner depth rest ih | openInner depth rest ih =>
    rw [groupBody, map_eq_error_iff] at h
    exact ih ((List.suffix_cons ..).trans ht) h
  | caret =>
    cases h
    exact ht
  | escape depth c rest ih =>
    rw [groupBody, map_eq_error_iff] at h
    exact ih ((List.suffix_append ['^', c] rest).trans ht) h
  | plain depth c rest ho hc he ih =>
    rw [groupBody_plain ho hc he, map_eq_error_iff] at h
    exact ih ((List.suffix_cons ..).trans ht) h

theorem rest_of_groupItem_error {opened body : Text} (h : groupItem opened body = .error fault) :
    fault.rest = opened := by
  unfold groupItem at h
  split at h
  · split at h <;> cases h
    rfl
  · cases h

/-- The scanner finds fault with a final piece of the text. -/
theorem suffix_of_scan_error {stop : Bool} (h : scan stop t = .error fault) : fault.rest <:+ t := by
  obtain ⟨pieces, rest, hreads⟩ := exists_reads stop t
  induction hreads with
  | ends hend =>
    rw [scan_of_endsPattern hend] at h
    cases h
  | plain ho hc he hend _ ih =>
    rw [scan_plain_piece ho hc he hend, map_eq_error_iff] at h
    exact (ih h).trans (List.suffix_cons ..)
  | @escape t _ _ c _ ih =>
    rw [scan, map_eq_error_iff] at h
    exact (ih h).trans (List.suffix_append ['^', c] t)
  | @group g body t _ _ hg _ ih =>
    have hbody : groupBody ('{' :: (g ++ t)) 0 (g ++ t) = .ok (body, t) := groupBody_append hg t
    cases hitem : groupItem ('{' :: (g ++ t)) body with
    | error fault' =>
      rw [scan_of_groupItem_error hbody hitem] at h
      cases h
      rw [rest_of_groupItem_error hitem]
    | ok item =>
      rw [scan_group hbody hitem, map_eq_error_iff] at h
      exact (ih h).trans (List.suffix_append ('{' :: g) t)
  | stray | caret =>
    rw [scan] at h
    cases h
    exact List.suffix_refl _
  | @unclosed t dangling ho =>
    have hbody : groupBody ('{' :: t) 0 t = _ := groupBody_of_openText ho
    rw [scan_of_groupBody_error hbody] at h
    cases h
    exact suffix_of_groupBody_error (List.suffix_cons ..) hbody

end Pattern

namespace Path

open Pattern (endsPattern map_eq_error_iff suffix_of_compile)
open Plan (endsName opening_cases opening_star restOf)

variable {text part : Text} {e : Error}

/-! ## Readers -/

theorem liesIn_of_compile {stop : Bool} (hp : part <:+ text)
    (h : Pattern.compile text part stop = .error e) : e.LiesIn text part := by
  unfold Pattern.compile at h
  split at h
  · next fault hscan =>
    cases h
    exact Error.liesIn_malformedAt hp (Pattern.suffix_of_scan_error hscan) _
  · dsimp only at h
    split at h <;> cases h
    trivial

theorem liesIn_of_readClause (hp : part <:+ text) (h : Segment.readClause text part = .error e) :
    e.LiesIn text part := by
  unfold Segment.readClause at h
  split at h
  · next hkey =>
    cases h
    exact liesIn_of_compile hp hkey
  · next key hkey =>
    have hrest : key.rest <:+ part := suffix_of_compile hkey
    split at h
    · next rest hequals =>
      have hvalue : rest <:+ part := (List.suffix_cons ..).trans (hequals ▸ hrest)
      exact (liesIn_of_compile (hvalue.trans hp) (map_eq_error_iff.1 h)).mono hvalue
    · cases h
      exact Error.liesIn_malformedAt hp hrest _

theorem liesIn_of_readClauses (hp : part <:+ text) (h : Segment.readClauses text part = .error e) :
    e.LiesIn text part := by
  fun_induction Segment.readClauses text part with
  | case1 part e' hclause =>
    cases h
    have hpart := List.suffix_cons '&' part
    exact (liesIn_of_readClause (hpart.trans hp) hclause).mono hpart
  | case2 part clause rest hclause _ ih =>
    have hrest := (Segment.suffix_of_readClause hclause).trans (List.suffix_cons '&' part)
    exact (ih (hrest.trans hp) (map_eq_error_iff.1 h)).mono hrest
  | case3 | case4 => cases h

theorem liesIn_of_read {t : Text} (h : Segment.read t = .error e) : e.LiesIn t t := by
  unfold Segment.read at h
  split at h
  · next hname =>
    cases h
    exact liesIn_of_compile (List.suffix_refl t) hname
  · next name hname =>
    have hrest := suffix_of_compile hname
    exact (liesIn_of_readClauses hrest (map_eq_error_iff.1 h)).mono hrest

theorem exists_of_readClauses_error (h : Segment.readClauses text part = .error e) :
    ∃ rest, part = '&' :: rest := by
  revert h
  fun_cases Segment.readClauses text part with
  | case1 rest | case2 rest => exact fun _ => ⟨rest, rfl⟩
  | case3 | case4 =>
    intro h
    cases h

theorem endsPattern_of_endsName {rest : Text} (h : endsName rest = true) :
    endsPattern false rest = true := by
  revert h
  fun_cases endsName rest with
  | case1 | case2 | case3 => exact fun _ => rfl
  | case4 => simp

/-- The star that a dot is read as is a good name, so only the clauses behind it are left to read. -/
theorem read_star {rest : Text} (he : endsPattern false rest = true) :
    Segment.read ('*' :: rest) = (Segment.readClauses ('*' :: rest) rest).map
      fun (clauses, next) => ({ name := Pattern.lone, clauses }, next) := by
  have hname : Pattern.compile ('*' :: rest) ('*' :: rest) false = .ok ⟨Pattern.lone, rest⟩ :=
    Pattern.compile_eq_ok_iff.2 ⟨['*'], rfl, Pattern.spells_star false, he⟩
  rw [Segment.read, hname]

/-- So what is malformed behind such a star is a clause. -/
theorem exists_of_read_star_error {rest : Text} (he : endsName rest = true)
    (h : Segment.read ('*' :: rest) = .error e) :
    ∃ clauses, rest = '&' :: clauses ∧ e.LiesIn ('*' :: rest) rest := by
  rw [read_star (endsPattern_of_endsName he), map_eq_error_iff] at h
  obtain ⟨clauses, hrest⟩ := exists_of_readClauses_error h
  exact ⟨clauses, hrest, liesIn_of_readClauses (List.suffix_cons '*' rest) h⟩

theorem readClauses_of_error (h : Segment.readClause text part = .error e) :
    Segment.readClauses text ('&' :: part) = .error e := by
  rw [Segment.readClauses]
  split <;> simp_all

/-- A clause that is a key and nothing else lacks its equals sign. -/
theorem read_star_of_key {key : Text} {p : Pattern} (hkey : Pattern.Spells true key p) :
    Segment.read ('*' :: '&' :: key) =
      .error (.malformedAt ('*' :: '&' :: key) [] .missingEquals) := by
  have hclause : Segment.readClause ('*' :: '&' :: key) key =
      .error (.malformedAt ('*' :: '&' :: key) [] .missingEquals) :=
    Segment.readClause_of_missing
      (Pattern.compile_eq_ok_iff.2 ⟨key, (List.append_nil key).symm, hkey, rfl⟩) (by simp)
  rw [read_star rfl, readClauses_of_error hclause]
  rfl

theorem read_star_key_x :
    Segment.read "*&x".toList = .error (.malformed "*&x".toList 3 .missingEquals) := by
  have hkey : Pattern.Spells true ['x'] (Pattern.literal ['x']) :=
    ⟨[.char 'x'], .plain rfl rfl .nil, rfl, rfl⟩
  exact read_star_of_key hkey

/-! ## Lines -/

/-- What an operator at the end of a line goes on with has no fault. -/
theorem exists_of_fault?_restOf {distinct : Bool} {rest : Option Text}
    (h : (Plan.read distinct (restOf rest)).fault? = some e) :
    ∃ next, rest = some next ∧ (Plan.read distinct next).fault? = some e := by
  cases rest with
  | some next => exact ⟨next, rfl, h⟩
  | none =>
    have hdot : Plan.read distinct ['.'] = .step .singleton (.last distinct { name := Pattern.lone }) := by
      rw [Plan.read_self distinct rfl,
        Plan.readFilter_last distinct (Segment.read_of_spelled Segment.spelled_star)]
    rw [restOf, Option.getD_none, hdot] at h
    cases h

/-- A filter has the fault of its segment, or that of what follows it. -/
theorem fault?_readFilter_cases {distinct : Bool} {t : Text}
    (h : (Plan.readFilter distinct t).fault? = some e) :
    Segment.read t = .error e ∨
      ∃ segment next, Segment.read t = .ok (segment, some next) ∧
        (Plan.read false next).fault? = some e := by
  cases hr : Segment.read t with
  | error e' =>
    rw [Plan.readFilter_stop distinct hr] at h
    cases h
    exact .inl rfl
  | ok r =>
    obtain ⟨segment, next | next⟩ := r
    · rw [Plan.readFilter_last distinct hr] at h
      cases h
    · rw [Plan.readFilter_step distinct hr] at h
      exact .inr ⟨segment, next, rfl, h⟩

theorem suffix_append_tail (s next : Text) : next <:+ s ++ tail (some next) :=
  (List.suffix_cons '|' next).trans (List.suffix_append s _)

/-- **The fault of a line points into it.** -/
theorem pointsInto_of_fault? {distinct : Bool} {t : Text}
    (h : (Plan.read distinct t).fault? = some e) : e.PointsInto t := by
  induction hn : t.length using Nat.strongRecOn generalizing t distinct with
  | ind n ih =>
    subst hn
    -- behind an operator, or behind the bar after a segment, there is a final piece of the line
    have after {distinct : Bool} {next : Text} (hlt : next.length < t.length) (hs : next <:+ t)
        (h : (Plan.read distinct next).fault? = some e) : e.PointsInto t :=
      (ih _ hlt h rfl).mono hs
    have behind {distinct : Bool} {s : Text} {rest : Option Text} (ht : s ++ tail rest = t)
        (hrest : (Plan.read distinct (restOf rest)).fault? = some e) : e.PointsInto t := by
      obtain ⟨next, rfl, hnext⟩ := exists_of_fault?_restOf hrest
      have hlt : next.length < t.length := by
        rw [← ht, List.length_append, tail, List.length_cons]
        omega
      exact after hlt (ht ▸ suffix_append_tail s next) hnext
    rcases opening_cases t with
      ⟨rest, rfl⟩ | ⟨rest, rfl⟩ | ⟨bounds, rest, rfl, hn⟩ | ⟨key, rest, rfl, hn⟩ | ⟨rest, rfl, he⟩ | ho
    · rw [Plan.read_descend] at h
      exact behind (s := ['*', '*']) rfl h
    · rw [Plan.read_climb] at h
      exact behind (s := ['.', '.']) rfl h
    · rw [Plan.read_select distinct rest hn] at h
      split at h
      · exact behind (s := '.' :: '#' :: bounds) rfl h
      · cases h
        exact ⟨.inl (List.suffix_refl _), ['.', '#'], bounds ++ tail rest, rfl, rfl,
          List.suffix_append ['.', '#'] _⟩
    · rw [Plan.read_sort distinct rest hn] at h
      exact behind (s := '.' :: '!' :: key) rfl h
    · rw [Plan.read_self distinct he] at h
      rcases fault?_readFilter_cases h with hr | ⟨segment, next, hr, h⟩
      · obtain ⟨clauses, rfl, hlies⟩ := exists_of_read_star_error he hr
        exact hlies.pointsInto_dot
      · -- what follows the segment does not reach back to the star
        have hlt := Stage.length_lt_of_read_star hr
        have hs : next <:+ rest := (List.suffix_cons_iff.1 (Segment.suffix_of_read hr)).resolve_left
          (by rintro rfl; simp at hlt)
        exact after (Nat.lt_succ_of_lt hlt) (hs.trans (List.suffix_cons ..)) h
    · rw [Plan.read_filter distinct ho] at h
      rcases fault?_readFilter_cases h with hr | ⟨segment, next, hr, h⟩
      · exact (liesIn_of_read hr).pointsInto
      · exact after (Segment.length_lt_of_read hr) (Segment.suffix_of_read hr) h

/-! ## Paths -/

variable {forest : Forest} {fuel : Fuel} {path : Text} {roots : List Root}

/-- Where fuel does not run out, an error is the fault of a line. -/
theorem exists_line_of_evaluate (h : evaluate forest fuel path roots = .error e) :
    e = .fuelExhausted ∨ ∃ line ∈ lines path, e.PointsInto line := by
  rw [evaluate_eq] at h
  cases hp : fuel.pay (demand forest path roots) with
  | error e' =>
    rw [hp] at h
    cases h
    exact .inl (Fuel.eq_fuelExhausted_of_pay hp)
  | ok left =>
    rw [hp] at h
    obtain ⟨line, hline, hfault⟩ :=
      List.exists_of_findSome?_eq_some (outcomeOfLines_eq_error_iff.1 h)
    exact .inr ⟨line, hline, pointsInto_of_fault? hfault⟩

/-- **A path fails for want of fuel or for a fault of its text.** -/
theorem isFault_of_evaluate (h : evaluate forest fuel path roots = .error e) :
    e = .fuelExhausted ∨ e.IsFault := by
  rcases exists_line_of_evaluate h with hfuel | ⟨line, -, hline⟩
  · exact .inl hfuel
  · exact .inr (Error.Blames.isFault hline)

/-- **A malformation points into the path.** Its text is a final piece of a line, or it is one in which
the dot before the clauses of the roots themselves became a star. Its offset is between two characters of
the text or at its end, and what the text has from there on is a final piece of the line in either case. -/
theorem exists_line_of_malformed {text : Text} {offset : Nat} {cause : Malformation}
    (h : evaluate forest fuel path roots = .error (.malformed text offset cause)) :
    ∃ line ∈ lines path,
      (text <:+ line ∨ ∃ clauses, text = '*' :: '&' :: clauses ∧ '.' :: '&' :: clauses <:+ line) ∧
      ∃ before rest, text = before ++ rest ∧ before.byteLength = offset ∧
        offset ≤ text.byteLength ∧ rest <:+ line := by
  obtain ⟨line, hline, htext, before, rest, rfl, rfl, hrest⟩ :=
    (exists_line_of_evaluate h).resolve_left (by simp)
  refine ⟨line, hline, htext, before, rest, rfl, rfl, ?_, hrest⟩
  rw [Text.byteLength_append]
  exact Nat.le_add_right ..

/-- The malformation of the second segment of the first of two lines. -/
theorem exists_line_of_malformed_behind_climb :
    let path : Text := "..|*&x\na".toList
    let forest : Forest := [Tree.build [.node ['a']]]
    let text : Text := "*&x".toList
    evaluate forest .standard path [.detached [⟨0, 0⟩]] = .error (.malformed text 3 .missingEquals) ∧
      ∃ line ∈ lines path,
        (text <:+ line ∨ ∃ clauses, text = '*' :: '&' :: clauses ∧ '.' :: '&' :: clauses <:+ line) ∧
        ∃ before rest, text = before ++ rest ∧ before.byteLength = 3 ∧ 3 ≤ text.byteLength ∧
          rest <:+ line := by
  intro path forest text
  have hplan : Plan.read false "..|*&x".toList =
      .step .climb (.stop (.malformed text 3 .missingEquals)) := by
    have hread : Plan.read false text = .stop (.malformed text 3 .missingEquals) := by
      rw [Plan.read_filter false rfl]
      exact Plan.readFilter_stop false read_star_key_x
    rw [← hread]
    exact Plan.read_climb_bar false text
  have hfails : evaluate forest .standard path [.detached [⟨0, 0⟩]] =
      .error (.malformed text 3 .missingEquals) := by
    rw [evaluate, show lines path = ["..|*&x".toList, ['a']] by decide, followLines, hplan]
    rfl
  exact ⟨hfails, exists_line_of_malformed hfails⟩

/-- **The text of a malformation need not be in the path.** The roots themselves are filtered as if a star
stood for the dot, and it is the star that is shown. -/
theorem malformed_text_not_in_path :
    let path : Text := ".&x".toList
    let text : Text := "*&x".toList
    evaluate [Tree.build [.node ['a']]] .standard path [.detached [⟨0, 0⟩]] =
        .error (.malformed text 3 .missingEquals) ∧
      ∀ line ∈ lines path, ¬text <:+ line := by
  intro path text
  have hplan : Plan.read false path =
      .step .singleton (.stop (.malformed text 3 .missingEquals)) := by
    rw [← Plan.readFilter_stop false read_star_key_x]
    exact Plan.read_self false rfl
  refine ⟨?_, by decide⟩
  rw [evaluate_of_oneLine _ _ (by decide), hplan]
  rfl

end Path

end TreeQuery
