import TreeQuery.Proofs.Regex.ClassLocality

/-!
# Self-contained pieces of an expression

A text is self-contained if it can be read by itself, closes all the groups that it opens, and
leaves blanks counting (`isSelfContained`). Put inside an expression, such a text is read as one
piece: when the reader has come to its end, the groups around it are open as they were before
(`neutral_of_isSelfContained`). Without the condition this is not so: `a))|(?:(?:b` may close a
group around it.

The reader that begins afresh and the one that comes from outside go side by side. They do not hold
the same parts, but those that matter for what comes next agree (`Within`).
-/

namespace TreeQuery.Regex.Parser

open Pattern (map_eq_ok_iff bind_eq_ok_iff)

/-! ## Two readers side by side -/

theorem State.ignoring_of_rounds {s s' : State} {least : Nat} {most : Option Nat} {greedy : Bool}
    (h : s.rounds least most greedy = .ok s') : s'.ignoring = s.ignoring := by
  unfold State.rounds at h
  split at h
  · split_ifs at h
    cases h
    rfl
  · cases h

/-- A group that waits to be closed, as the two readers hold it. -/
structure Frame.Alike (f g : Frame) : Prop where
  ignoring : g.ignoring = f.ignoring
  parts : f.parts.map Ast.isRepeatable <+: g.parts.map Ast.isRepeatable

/-- The reader in the state `s` began afresh where the one in the state `r` had the groups `outer`
open around it. -/
structure Within (outer : List Frame) (s r : State) : Prop where
  ignoring : r.ignoring = s.ignoring
  /-- What can be repeated for the one can be repeated for the other. -/
  parts : s.parts.map Ast.isRepeatable <+: r.parts.map Ast.isRepeatable
  frames : ∃ inner, r.frames = inner ++ outer ∧ List.Forall₂ Frame.Alike s.frames inner

namespace Within

variable {outer : List Frame} {s s' r : State}

theorem start (hr : r.ignoring = false) : Within r.frames {} r where
  ignoring := hr
  parts := List.nil_prefix
  frames := ⟨[], rfl, .nil⟩

theorem push (h : Within outer s r) (part : Ast) : Within outer (s.push part) (r.push part) where
  ignoring := h.ignoring
  parts := List.cons_prefix_cons.2 ⟨rfl, h.parts⟩
  frames := h.frames

theorem branch (h : Within outer s r) : Within outer s.branch r.branch where
  ignoring := h.ignoring
  parts := List.nil_prefix
  frames := h.frames

theorem openWith (h : Within outer s r) (o : Opening) :
    Within outer (s.openWith o) (r.openWith o) := by
  cases o with
  | flags items =>
    exact ⟨by simp only [State.openWith, h.ignoring], (h.push (.flags items)).parts, h.frames⟩
  | group kind =>
    obtain ⟨inner, hinner, halike⟩ := h.frames
    refine ⟨by simp only [State.openWith, h.ignoring], List.nil_prefix, ?_⟩
    exact ⟨⟨kind, r.branches, r.parts, r.ignoring⟩ :: inner,
      by simp only [State.openWith, hinner]; rfl, .cons ⟨h.ignoring, h.parts⟩ halike⟩

theorem close (h : Within outer s r) (hs : s.close = .ok s') :
    ∃ r', r.close = .ok r' ∧ Within outer s' r' := by
  unfold State.close at hs
  split at hs
  · cases hs
  · next frame frames hframes =>
    cases hs
    obtain ⟨inner, hinner, halike⟩ := h.frames
    rw [hframes] at halike
    obtain _ | @⟨_, other, _, others, hframe, hothers⟩ := halike
    refine ⟨{ r with
      branches := other.branches
      parts := .group other.kind r.inside :: other.parts
      frames := others ++ outer
      ignoring := other.ignoring }, ?_, hframe.ignoring, ?_, others, rfl, hothers⟩
    · rw [State.close, hinner]
      rfl
    · exact List.cons_prefix_cons.2 ⟨rfl, hframe.parts⟩

theorem rounds (h : Within outer s r) {least : Nat} {most : Option Nat} {greedy : Bool}
    (hs : s.rounds least most greedy = .ok s') :
    ∃ r', r.rounds least most greedy = .ok r' ∧ Within outer s' r' := by
  unfold State.rounds at hs
  split at hs
  · next part parts hparts =>
    split_ifs at hs with hpart
    cases hs
    have hprefix := h.parts
    rw [hparts] at hprefix
    cases hr : r.parts with
    | nil =>
      rw [hr] at hprefix
      simp at hprefix
    | cons other others =>
      rw [hr] at hprefix
      obtain ⟨hother, hothers⟩ := List.cons_prefix_cons.1 hprefix
      have hrep : other.isRepeatable := by rw [← hother, hpart]
      refine ⟨{ r with parts := .rounds least most greedy other :: others }, ?_, h.ignoring, ?_,
        h.frames⟩
      · rw [State.rounds, hr]
        exact if_pos hrep
      · exact List.cons_prefix_cons.2 ⟨rfl, hothers⟩
  · cases hs

end Within

/-- A round of the reader that began afresh, from `s` before `c :: t` to `s'` before `rest`, is a
round of the one from outside too, whatever follows the text, unless that one finds a name taken. -/
structure Keeps (s s' : State) (c : Char) (t rest : Text) : Prop where
  length_le : rest.length ≤ t.length
  follows : ∀ {outer : List Frame} {r : State} {u : Text}, Within outer s r → Apart u →
    (rest = [] → s'.ignoring = false) →
    (∃ e, r.round (c :: (t ++ u)) = .error e) ∨
      ∃ r', r.round (c :: (t ++ u)) = .ok (r', rest ++ u) ∧ Within outer s' r'

namespace Keeps

variable {s s' : State} {c : Char} {t rest : Text}

/-- A character that is a part. -/
theorem char {part : Ast} (hround : ∀ (r : State) v, r.round (c :: v) = .ok (r.push part, v)) :
    Keeps s (s.push part) c t t where
  length_le := Nat.le_refl _
  follows hw _ _ := .inr ⟨_, hround _ _, hw.push part⟩

/-- A part with a reader of its own. -/
theorem part {read : Bool → Text → Except Fault (Ast × Text)} {part : Ast}
    (hround : ∀ (r : State) v,
      r.round (c :: v) = (read r.ignoring v).map fun x => (r.push x.1, x.2))
    (ht : Takes s.ignoring t rest fun u => read s.ignoring (t ++ u) = .ok (part, rest ++ u)) :
    Keeps s (s.push part) c t rest where
  length_le := ht.suffix.length_le
  follows {outer r u} hw hu hr := by
    refine .inr ⟨r.push part, ?_, hw.push part⟩
    rw [hround, hw.ignoring, ht.append u hu hr]
    rfl

theorem repeated {least : Nat} {most : Option Nat}
    (hround : ∀ (r : State) v, r.round (c :: v) = r.repeated least most v)
    (h : s.repeated least most t = .ok (s', rest)) : Keeps s s' c t rest := by
  rcases hgreed : greed t with ⟨greedy, left⟩
  rw [State.repeated, hgreed] at h
  obtain ⟨next, hnext, he⟩ := map_eq_ok_iff.1 h
  cases he
  have ht := takes_greed false hgreed
  refine ⟨ht.suffix.length_le, fun hw hu _ => .inr ?_⟩
  obtain ⟨r', hr', hw'⟩ := hw.rounds hnext
  refine ⟨r', ?_, hw'⟩
  rw [hround, State.repeated, ht.append _ hu fun _ => rfl]
  exact map_eq_ok_iff.2 ⟨r', hr', rfl⟩

theorem counted {first : State} {least : Nat} {most : Option Nat} {greedy : Bool}
    (hfirst : s.rounds 0 none true = .ok first)
    (hcounts : counts s.ignoring t = .ok (least, most, greedy, rest))
    (hs : s.rounds least most greedy = .ok s') : Keeps s s' '{' t rest := by
  have ht := takes_counts hcounts
  refine ⟨ht.suffix.length_le, fun {outer r u} hw hu hr => .inr ?_⟩
  obtain ⟨r₁, hr₁, -⟩ := hw.rounds hfirst
  obtain ⟨r₂, hr₂, hw'⟩ := hw.rounds hs
  have hi : rest = [] → s.ignoring = false := fun hl => by
    rw [← State.ignoring_of_rounds hs, hr hl]
  refine ⟨r₂, ?_, hw'⟩
  rw [State.round, hw.ignoring]
  exact bind_eq_ok_iff.2 ⟨r₁, hr₁, bind_eq_ok_iff.2 ⟨_, ht.append u hu hi,
    bind_eq_ok_iff.2 ⟨r₂, hr₂, rfl⟩⟩⟩

theorem opening {o : Opening}
    (ho : groupOpening s.taken (skip s.ignoring t) = .ok (o, rest)) :
    Keeps s (s.openWith o) '(' t rest := by
  have ht := takes_groupOpening false ho
  refine ⟨ht.suffix.length_le.trans (length_skip_le _ _), fun {outer r u} hw hu hr => ?_⟩
  have hskip : skip s.ignoring (t ++ u) = skip s.ignoring t ++ u := by
    cases hs : skip s.ignoring t with
    | nil =>
      -- the text ends with the parenthesis
      rw [hs] at ho
      cases ho
      have hi : s.ignoring = false := hr rfl
      rw [hi] at hs ⊢
      rw [show t = [] from hs]
      rfl
    | cons c more => rw [skip_append (hs ▸ List.cons_ne_nil c more), hs]
  have hround (x : Except Fault (Opening × Text))
      (hx : groupOpening r.taken (skip s.ignoring t ++ u) = x) :
      r.round ('(' :: (t ++ u)) = x.map fun y => (r.openWith y.1, y.2) := by
    rw [State.round, hw.ignoring, hskip, hx]
  rcases ht.append u hu (fun _ => rfl) r.taken with ho' | ho'
  · exact .inr ⟨_, hround _ ho', hw.openWith o⟩
  · exact .inl ⟨_, hround _ ho'⟩

theorem closing (hs : s.close = .ok s') : Keeps s s' ')' t t where
  length_le := Nat.le_refl _
  follows hw _ _ := by
    obtain ⟨r', hr', hw'⟩ := hw.close hs
    exact .inr ⟨r', map_eq_ok_iff.2 ⟨r', hr', rfl⟩, hw'⟩

theorem branching : Keeps s s.branch '|' t t where
  length_le := Nat.le_refl _
  follows hw _ _ := .inr ⟨_, rfl, hw.branch⟩

end Keeps

/-- **The two readers stay side by side on each round.** -/
theorem keeps_of_round {s s' : State} {c : Char} {t rest : Text}
    (h : s.round (c :: t) = .ok (s', rest)) : Keeps s s' c t rest := by
  unfold State.round at h
  split at h
  · next heq => cases heq
  · next heq =>
    cases heq
    obtain ⟨⟨o, left⟩, ho, he⟩ := map_eq_ok_iff.1 h
    cases he
    exact .opening ho
  · next heq =>
    cases heq
    obtain ⟨next, hclose, he⟩ := map_eq_ok_iff.1 h
    cases he
    exact .closing hclose
  · next heq =>
    cases heq
    cases h
    exact .branching
  · next heq =>
    cases heq
    obtain ⟨⟨part, left⟩, hpart, he⟩ := map_eq_ok_iff.1 h
    cases he
    exact .part (fun _ _ => rfl) (takes_bracketed hpart)
  · next heq =>
    cases heq
    exact .repeated (fun _ _ => rfl) h
  · next heq =>
    cases heq
    exact .repeated (fun _ _ => rfl) h
  · next heq =>
    cases heq
    exact .repeated (fun _ _ => rfl) h
  · next heq =>
    cases heq
    obtain ⟨first, hfirst, h⟩ := bind_eq_ok_iff.1 h
    obtain ⟨⟨least, most, greedy, left⟩, hcounts, h⟩ := bind_eq_ok_iff.1 h
    obtain ⟨next, hnext, he⟩ := bind_eq_ok_iff.1 h
    cases he
    exact .counted hfirst hcounts hnext
  · next heq =>
    cases heq
    obtain ⟨⟨part, left⟩, hpart, he⟩ := map_eq_ok_iff.1 h
    cases he
    exact .part (fun _ _ => rfl) (takes_escape hpart)
  · next heq =>
    cases heq
    cases h
    exact .char fun _ _ => rfl
  · next heq =>
    cases heq
    cases h
    exact .char fun _ _ => rfl
  · next heq =>
    cases heq
    cases h
    exact .char fun _ _ => rfl
  · next heq =>
    cases heq
    cases h
    refine .char fun r v => ?_
    rw [State.round]
    all_goals assumption

/-! ## Reading to the end -/

/-- More rounds than there are characters make no difference. -/
theorem rounds_congr {n m : Nat} {s : State} {t : Text} (hn : t.length ≤ n) (hm : t.length ≤ m) :
    rounds n s t = rounds m s t := by
  induction n generalizing m s t with
  | zero =>
    have ht : t = [] := List.length_eq_zero_iff.1 (Nat.le_zero.1 hn)
    subst ht
    cases m with
    | zero => rfl
    | succ m => rw [rounds, rounds, skip_nil]
  | succ n ih =>
    cases m with
    | zero =>
      have ht : t = [] := List.length_eq_zero_iff.1 (Nat.le_zero.1 hm)
      subst ht
      rw [rounds, rounds, skip_nil]
    | succ m =>
      rw [rounds, rounds]
      cases hskip : skip s.ignoring t with
      | nil => rfl
      | cons c left =>
        dsimp only
        cases hround : s.round (c :: left) with
        | error e => rfl
        | ok next =>
          have hlen : next.2.length < t.length := by
            have h₁ := (keeps_of_round hround).length_le
            have h₂ := length_skip_le s.ignoring t
            rw [hskip, List.length_cons] at h₂
            omega
          exact ih (by omega) (by omega)

/-- Reads a text to its end. -/
def State.read (s : State) (t : Text) : Except Fault State := Parser.rounds t.length s t

theorem read_of_skip_eq_nil {s : State} {t : Text} (h : skip s.ignoring t = []) :
    s.read t = .ok s := by
  have hread : s.read t = rounds (t.length + 1) s t := rounds_congr (Nat.le_refl _) (Nat.le_succ _)
  rw [hread, rounds, h]

theorem read_of_skip_eq_cons {s : State} {t left : Text} {c : Char}
    (h : skip s.ignoring t = c :: left) :
    s.read t = s.round (c :: left) >>= fun (s, rest) => s.read rest := by
  have hread : s.read t = rounds (t.length + 1) s t := rounds_congr (Nat.le_refl _) (Nat.le_succ _)
  rw [hread, rounds, h]
  dsimp only
  cases hround : s.round (c :: left) with
  | error e => rfl
  | ok next =>
    have h₁ := (keeps_of_round hround).length_le
    have h₂ := length_skip_le s.ignoring t
    rw [h, List.length_cons] at h₂
    exact rounds_congr (by omega) (Nat.le_refl _)

/-- What reads a text to its end by itself reads it as a piece of a longer text too, unless a name
is taken: it arrives where the piece ends, with the same groups around it. -/
theorem read_append {outer : List Frame} {s s' r : State} {t u : Text} (h : s.read t = .ok s')
    (hend : s'.ignoring = false) (hw : Within outer s r) (hu : Apart u) :
    (∃ e, r.read (t ++ u) = .error e) ∨
      ∃ r', Within outer s' r' ∧ r.read (t ++ u) = r'.read u := by
  induction hlen : t.length using Nat.strong_induction_on generalizing s r t with
  | _ n ih =>
    subst hlen
    cases hskip : skip s.ignoring t with
    | nil =>
      rw [read_of_skip_eq_nil hskip] at h
      cases h
      rw [hend] at hskip
      rw [show t = [] from hskip]
      exact .inr ⟨r, hw, rfl⟩
    | cons c left =>
      rw [read_of_skip_eq_cons hskip] at h
      obtain ⟨⟨next, rest⟩, hround, hrest⟩ := bind_eq_ok_iff.1 h
      obtain ⟨hle, hside⟩ := keeps_of_round hround
      have hnext : rest = [] → next.ignoring = false := by
        rintro rfl
        cases (read_of_skip_eq_nil (skip_nil _)).symm.trans hrest
        exact hend
      have hskip' : skip r.ignoring (t ++ u) = c :: (left ++ u) := by
        rw [hw.ignoring, skip_append (hskip ▸ List.cons_ne_nil c left), hskip]
        rfl
      rw [read_of_skip_eq_cons hskip']
      rcases hside hw hu hnext with ⟨e, he⟩ | ⟨r', hr', hw'⟩
      · exact .inl ⟨e, by rw [he]; rfl⟩
      · have hlt : rest.length < t.length := by
          have := length_skip_le s.ignoring t
          rw [hskip, List.length_cons] at this
          omega
        rw [hr']
        exact ih _ hlt hrest hw' rfl

/-! ## Self-contained texts -/

/-- Whether a text can be read by itself, with all groups closed and blanks counting at its end. -/
def isSelfContained (t : Text) : Bool :=
  match State.read {} t with
  | .ok s => s.frames.isEmpty && !s.ignoring
  | .error _ => false

/-- Reading a text inside an expression in which blanks count either fails or comes to the end of
the text with the groups around it open as before and blanks counting. -/
def Neutral (t : Text) : Prop :=
  ∀ (s : State) (u : Text), s.ignoring = false → Apart u →
    (∃ e, s.read (t ++ u) = .error e) ∨
      ∃ s' : State, s'.frames = s.frames ∧ s'.ignoring = false ∧ s.read (t ++ u) = s'.read u

/-- **A self-contained text is one piece wherever it stands.** -/
theorem neutral_of_isSelfContained {t : Text} (h : isSelfContained t) : Neutral t := by
  intro r u hr hu
  unfold isSelfContained at h
  split at h
  · next s hread =>
    rw [Bool.and_eq_true, Bool.not_eq_true', List.isEmpty_iff] at h
    rcases read_append hread h.2 (.start hr) hu with he | ⟨r', hw, hread'⟩
    · exact .inl he
    · obtain ⟨inner, hinner, halike⟩ := hw.frames
      rw [h.1] at halike
      cases halike
      exact .inr ⟨r', hinner, hw.ignoring.trans h.2, hread'⟩
  · cases h

theorem neutral_nil : Neutral [] := fun s _ hs _ => .inr ⟨s, rfl, hs, rfl⟩

theorem Apart.append {t u : Text} (ht : Apart t) (hu : Apart u) : Apart (t ++ u) := by
  cases t with
  | nil => exact hu
  | cons c t => exact ht

/-- Pieces side by side are one piece. -/
theorem Neutral.append {t u : Text} (ht : Neutral t) (hu : Neutral u) (ha : Apart u) :
    Neutral (t ++ u) := by
  intro s v hs hv
  rw [List.append_assoc]
  rcases ht s (u ++ v) hs (ha.append hv) with he | ⟨s₁, hf₁, hi₁, hread₁⟩
  · exact .inl he
  · rw [hread₁]
    rcases hu s₁ v hi₁ hv with he | ⟨s₂, hf₂, hi₂, hread₂⟩
    · exact .inl he
    · exact .inr ⟨s₂, hf₂.trans hf₁, hi₂, hread₂⟩

/-! ## Groups and anchors -/

theorem read_cons {s : State} (hs : s.ignoring = false) (c : Char) (t : Text) :
    s.read (c :: t) = s.round (c :: t) >>= fun (s, rest) => s.read rest :=
  read_of_skip_eq_cons (by rw [hs]; rfl)

theorem read_escape {s : State} (hs : s.ignoring = false) {c : Char} {part : Ast} {t : Text}
    (h : escape false (c :: t) = .ok (part, t)) :
    s.read ('\\' :: c :: t) = (s.push part).read t := by
  rw [read_cons hs, State.round, hs, h]
  rfl

/-- A parenthesis that only groups. -/
theorem read_open {s : State} (hs : s.ignoring = false) (t : Text) :
    s.read ("(?:".toList ++ t) = (s.openWith (.group (.plain []))).read t := by
  show s.read ('(' :: '?' :: ':' :: t) = _
  rw [read_cons hs, State.round, hs]
  show (groupOpening s.taken ('?' :: ':' :: t)).map _ >>= _ = _
  rw [groupOpening_flags (by decide)]
  rfl

/-- A parenthesis that closes a group. -/
theorem read_close {s s' : State} (hs : s.ignoring = false) (h : s.close = .ok s') (t : Text) :
    s.read (')' :: t) = s'.read t := by
  rw [read_cons hs, State.round, h]
  rfl

/-- Whether a text may be the name of a group, as far as its characters go. -/
def isGroupName : Text → Bool
  | [] => false
  | c :: more => isNameChar true c && more.all (isNameChar false)

theorem span_append_angle {name : Text} (h : '>' ∉ name) (t : Text) :
    (name ++ '>' :: t).span (· ≠ '>') = (name, '>' :: t) := by
  have hall : ∀ c ∈ name, (decide (c ≠ '>')) = true := fun c hc =>
    decide_eq_true fun he => h (he ▸ hc)
  rw [List.span_eq_takeWhile_dropWhile, List.takeWhile_append_of_pos hall,
    List.dropWhile_append_of_pos hall]
  simp

/-- A name is read up to the angle that closes it, or refused. -/
theorem groupName_append (taken : List Text) {name : Text} (h : '>' ∉ name) (t : Text) :
    (∃ e, groupName taken (name ++ '>' :: t) = .error e) ∨
      groupName taken (name ++ '>' :: t) = .ok (name, t) := by
  unfold groupName
  rw [span_append_angle h]
  dsimp only
  split_ifs
  · exact .inl ⟨_, rfl⟩
  · exact .inl ⟨_, rfl⟩
  · exact .inl ⟨_, rfl⟩
  · exact .inr rfl

/-- A name that may be used is not refused. -/
theorem groupName_append_of_not_mem {taken : List Text} {name : Text} (h : '>' ∉ name)
    (hname : isGroupName name) (htaken : name ∉ taken) (t : Text) :
    groupName taken (name ++ '>' :: t) = .ok (name, t) := by
  unfold groupName
  rw [span_append_angle h]
  cases name with
  | nil => cases hname
  | cons c more =>
    have hvalid : (isNameChar true c && more.all (isNameChar false)) = true := hname
    simp [hvalid, htaken]

/-- A parenthesis that captures under a name, once the name is read. -/
theorem read_named {s : State} (hs : s.ignoring = false) (t : Text) :
    s.read ("(?P<".toList ++ t) =
      groupName s.taken t >>= fun y => (s.openWith (.group (.capture (some y.1)))).read y.2 := by
  show s.read ('(' :: '?' :: 'P' :: '<' :: t) = _
  rw [read_cons hs, State.round, hs]
  show (groupOpening s.taken ('?' :: 'P' :: '<' :: t)).map _ >>= _ = _
  rw [groupOpening]
  dsimp only
  cases groupName s.taken t <;> rfl

/-- A parenthesis that captures under a name, if the name may be used. -/
theorem read_open_named {s : State} (hs : s.ignoring = false) {name : Text} (hn : '>' ∉ name)
    (t : Text) :
    (∃ e, s.read ("(?P<".toList ++ (name ++ '>' :: t)) = .error e) ∨
      s.read ("(?P<".toList ++ (name ++ '>' :: t)) =
        (s.openWith (.group (.capture (some name)))).read t := by
  rw [read_named hs]
  rcases groupName_append s.taken hn t with ⟨e, he⟩ | hname
  · exact .inl ⟨e, by rw [he]; rfl⟩
  · exact .inr (by rw [hname]; rfl)

/-- After a piece in a group, the parenthesis closes that group. -/
theorem read_append_close {s : State} (kind : GroupKind) {t : Text} (ht : Neutral t)
    (hi : (s.openWith (.group kind)).ignoring = false) (u : Text) :
    (∃ e, (s.openWith (.group kind)).read (t ++ ')' :: u) = .error e) ∨
      ∃ body taken, (s.openWith (.group kind)).read (t ++ ')' :: u) =
        State.read { s with parts := .group kind body :: s.parts, taken } u := by
  have hu : Apart (')' :: u) := ⟨by simp, by simp⟩
  rcases ht _ (')' :: u) hi hu with he | ⟨s', hframes, hi', hread⟩
  · exact .inl he
  · refine .inr ⟨s'.inside, s'.taken, hread.trans (read_close hi' ?_ u)⟩
    rw [State.close, hframes]
    rfl

/-- **A piece between the anchors of a text is a group between them**, if the whole can be read. -/
theorem parse_anchored {t : Text} {ast : Ast} (ht : Neutral t)
    (h : Ast.parse ("\\A(?:".toList ++ t ++ ")\\z".toList) = .ok ast) :
    ∃ body, ast = .concat [.anchor .textStart, .group (.plain []) body, .anchor .textEnd] := by
  obtain ⟨s, hread, h⟩ := bind_eq_ok_iff.1 h
  obtain ⟨ast', hfinish, h⟩ := bind_eq_ok_iff.1 h
  split_ifs at h
  cases h
  change State.read {} _ = .ok s at hread
  have hopened : State.read {} ("\\A(?:".toList ++ t ++ ")\\z".toList) =
      ((State.push (.anchor .textStart) {}).openWith (.group (.plain []))).read
        (t ++ ')' :: ['\\', 'z']) := by
    rw [List.append_assoc]
    show State.read {} ('\\' :: 'A' :: ("(?:".toList ++ (t ++ ")\\z".toList))) = _
    rw [read_escape rfl rfl, read_open rfl]
    rfl
  rw [hopened] at hread
  have hpiece := read_append_close (.plain []) ht
    (s := State.push (.anchor .textStart) {}) rfl ['\\', 'z']
  rcases hpiece with ⟨e, he⟩ | ⟨body, taken, hclosed⟩
  · cases he.symm.trans hread
  · rw [hclosed, read_escape rfl rfl, read_of_skip_eq_nil rfl] at hread
    cases hread
    cases hfinish
    exact ⟨body, rfl⟩

end TreeQuery.Regex.Parser
