import TreeQuery.Path
import TreeQuery.Proofs.Pattern.Grammar

/-!
# The lines of a path

A path without a line break is its only line, so what the path finds is what the plan of that line
finds. A path with line breaks has no part that is longer than the path without them.
-/

namespace TreeQuery

/-- A text without a line break. -/
def OneLine (t : Text) : Prop := ∀ c ∈ t, Path.isLineBreak c = false

instance (t : Text) : Decidable (OneLine t) :=
  List.decidableBAll (fun c => Path.isLineBreak c = false) t

theorem oneLine_append_iff {s t : Text} : OneLine (s ++ t) ↔ OneLine s ∧ OneLine t :=
  List.forall_mem_append

theorem oneLine_cons_iff {c : Char} {t : Text} :
    OneLine (c :: t) ↔ Path.isLineBreak c = false ∧ OneLine t :=
  List.forall_mem_cons

/-! ## Pieces -/

/-- No piece reaches over the characters that the text is cut at. -/
theorem Text.length_add_countP_le {isBreak : Char → Bool} {t piece : Text}
    (hp : piece ∈ splitBy isBreak t) : piece.length + t.countP isBreak ≤ t.length := by
  induction t generalizing piece with
  | nil =>
    obtain rfl := List.mem_singleton.1 hp
    exact Nat.le_refl _
  | cons c t ih =>
    rw [splitBy] at hp
    rw [List.length_cons]
    split at hp
    · next hc =>
      rw [List.countP_cons_of_pos hc]
      rcases List.mem_cons.1 hp with rfl | hp
      · have := List.countP_le_length (p := isBreak) (l := t)
        rw [List.length_nil]
        omega
      · exact Nat.succ_le_succ (ih hp)
    · next hc =>
      rw [List.countP_cons_of_neg hc]
      split at hp
      · next hs => exact (splitBy_ne_nil _ _ hs).elim
      · next first pieces hs =>
        rcases List.mem_cons.1 hp with rfl | hp
        · have := ih (hs ▸ List.mem_cons_self)
          rw [List.length_cons]
          omega
        · exact Nat.le_succ_of_le (ih (hs ▸ List.mem_cons_of_mem _ hp))

namespace Path

open Pattern (map_eq_ok_iff bind_eq_ok_iff)

/-! ## Letter case -/

theorem isLineBreak_toLower (c : Char) : isLineBreak c.toLower = isLineBreak c := by
  by_cases h : 'A'.val ≤ c.val ∧ c.val ≤ 'Z'.val
  · have hlower : c.toLower.val = c.val + 32 := congrArg Char.val (dif_pos h)
    have hle := UInt32.le_iff_toNat_le.1 h.1
    have hge := UInt32.le_iff_toNat_le.1 h.2
    have hne {d : Char} (hd : d.val < 'A'.val) : c.toLower ≠ d ∧ c ≠ d := by
      have hlt := UInt32.lt_iff_toNat_lt.1 hd
      constructor
      · rintro rfl
        rw [hlower, UInt32.toNat_add] at hlt
        simp at hle hge hlt
        omega
      · rintro rfl
        omega
    have hn := hne (d := '\n') (by decide)
    have hr := hne (d := '\r') (by decide)
    simp [isLineBreak, hn, hr]
  · have hlower : c.toLower = c := dif_neg h
    rw [hlower]

/-- A text keeps its line breaks in other letter case. -/
theorem oneLine_of_sameFolded {s t : Text} (h : Text.SameFolded s t) (ht : OneLine t) :
    OneLine s := by
  intro c hc
  have hmem : c.toLower ∈ Text.fold t := h ▸ List.mem_map_of_mem hc
  obtain ⟨d, hd, he⟩ := List.mem_map.1 hmem
  rw [← isLineBreak_toLower, ← he, isLineBreak_toLower]
  exact ht d hd

/-! ## Lines -/

theorem any_isLineBreak_eq_false_iff {t : Text} : t.any isLineBreak = false ↔ OneLine t := by
  simp [OneLine]

/-- The pieces between line breaks are shorter than a text that has any. -/
theorem length_lt_of_mem_splitBy {t piece : Text} (h : ¬OneLine t)
    (hp : piece ∈ Text.splitBy isLineBreak t) : piece.length < t.length := by
  have hc : 0 < t.countP isLineBreak := by
    rw [List.countP_pos_iff]
    simpa [OneLine] using h
  have := Text.length_add_countP_le hp
  omega

theorem oneLine_of_mem_splitBy {t piece : Text} (hp : piece ∈ Text.splitBy isLineBreak t) :
    OneLine piece := by
  induction t generalizing piece with
  | nil =>
    obtain rfl := List.mem_singleton.1 hp
    exact List.forall_mem_nil _
  | cons c t ih =>
    rw [Text.splitBy] at hp
    split at hp
    · rcases List.mem_cons.1 hp with rfl | hp
      · exact List.forall_mem_nil _
      · exact ih hp
    · next hc =>
      split at hp
      · next hs => exact (Text.splitBy_ne_nil _ _ hs).elim
      · next first pieces hs =>
        rcases List.mem_cons.1 hp with rfl | hp
        · exact oneLine_cons_iff.2 ⟨by simpa using hc, ih (hs ▸ List.mem_cons_self)⟩
        · exact ih (hs ▸ List.mem_cons_of_mem _ hp)

/-- What stands before a line break goes to the first piece. -/
theorem splitBy_append {s t first : Text} {pieces : List Text} (hs : OneLine s)
    (ht : Text.splitBy isLineBreak t = first :: pieces) :
    Text.splitBy isLineBreak (s ++ t) = (s ++ first) :: pieces := by
  induction s with
  | nil => exact ht
  | cons c s ih =>
    obtain ⟨hc, hs⟩ := oneLine_cons_iff.1 hs
    rw [List.cons_append, Text.splitBy, if_neg (by simp [hc]), ih hs]
    rfl

theorem lines_of_oneLine {t : Text} (h : OneLine t) : lines t = [t] := by
  rw [lines, any_isLineBreak_eq_false_iff.2 h]
  rfl

theorem lines_of_not_oneLine {t : Text} (h : ¬OneLine t) :
    lines t = (Text.splitBy isLineBreak t).filter (· ≠ []) := by
  rw [lines, if_pos]
  rwa [← any_isLineBreak_eq_false_iff, Bool.not_eq_false] at h

theorem oneLine_of_mem_lines {path line : Text} (h : line ∈ lines path) : OneLine line := by
  by_cases hp : OneLine path
  · rw [lines_of_oneLine hp] at h
    obtain rfl := List.mem_singleton.1 h
    exact hp
  · rw [lines_of_not_oneLine hp] at h
    exact oneLine_of_mem_splitBy (List.mem_filter.1 h).1

theorem followLines_cons_of_ok {forest : Forest} {fuel fuel₁ fuel₂ : Fuel} {roots : List Root}
    {line : Text} {ls : List Text} {found more : List Node}
    (hline : (Plan.read false line).run forest fuel roots = .ok (found, fuel₁))
    (hmore : followLines forest fuel₁ roots ls = .ok (more, fuel₂)) :
    followLines forest fuel roots (line :: ls) = .ok (found ++ more, fuel₂) :=
  bind_eq_ok_iff.2 ⟨(found, fuel₁), hline, bind_eq_ok_iff.2 ⟨(more, fuel₂), hmore, rfl⟩⟩

/-- A path of one line finds what the plan of that line finds. -/
theorem evaluate_of_oneLine (forest : Forest) (fuel : Fuel) {t : Text} (h : OneLine t)
    (roots : List Root) :
    evaluate forest fuel t roots = ((Plan.read false t).run forest fuel roots).map Prod.fst := by
  rw [evaluate, lines_of_oneLine h, followLines]
  cases (Plan.read false t).run forest fuel roots with
  | error e => rfl
  | ok r =>
    show Except.ok (r.1 ++ []) = Except.ok r.1
    rw [List.append_nil]

/-- A path finds what its first line finds. -/
theorem exists_subset_of_lines {forest : Forest} {fuel : Fuel} {path line : Text} {ls : List Text}
    {roots : List Root} {found : List Node} (hl : lines path = line :: ls)
    (h : evaluate forest fuel path roots = .ok found) :
    ∃ first, evaluate forest fuel line roots = .ok first ∧ first ⊆ found := by
  have hline : OneLine line := oneLine_of_mem_lines (hl ▸ List.mem_cons_self)
  rw [evaluate, hl] at h
  obtain ⟨⟨all, rest⟩, hf, rfl⟩ := map_eq_ok_iff.1 h
  obtain ⟨first, hr, hf⟩ := bind_eq_ok_iff.1 hf
  obtain ⟨more, -, hf⟩ := bind_eq_ok_iff.1 hf
  obtain ⟨rfl, -⟩ := Prod.mk.inj (Except.ok.inj hf)
  exact ⟨first.1, by rw [evaluate_of_oneLine forest fuel hline, hr]; rfl,
    List.subset_append_left _ _⟩

/-- Lines none of which finds anything find nothing together. -/
theorem found_eq_nil_of_followLines {forest : Forest} {fuel : Fuel} {roots : List Root}
    {ls : List Text} {found : List Node × Fuel}
    (hl : ∀ line ∈ ls, ∀ fuel found,
      (Plan.read false line).run forest fuel roots = .ok found → found.1 = [])
    (h : followLines forest fuel roots ls = .ok found) : found.1 = [] := by
  induction ls generalizing fuel found with
  | nil =>
    obtain rfl := Except.ok.inj h
    rfl
  | cons line ls ih =>
    obtain ⟨first, hf, h⟩ := bind_eq_ok_iff.1 h
    obtain ⟨more, hm, h⟩ := bind_eq_ok_iff.1 h
    obtain rfl := Except.ok.inj h
    show first.1 ++ more.1 = []
    rw [hl line List.mem_cons_self _ _ hf,
      ih (fun line hmem => hl line (List.mem_cons_of_mem _ hmem)) hm]
    rfl

end Path

end TreeQuery
