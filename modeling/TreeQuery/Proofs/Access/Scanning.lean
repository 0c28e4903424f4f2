import TreeQuery.Proofs.Access.Bytes
import TreeQuery.Proofs.Access.Checked
import TreeQuery.Proofs.Pattern.Reading

/-!
# Scanning by offsets

A pattern may be scanned without looking at the rest of a text as a piece of its own. Then the
characters come with the offsets at which they begin (`indices`), the scanner reports and returns
offsets (`scanAt`), and the source of the pattern is cut out of the text between two of them
(`compileAt`), which aborts if one of them is no place to cut at.

Begun at a final piece of the text, such a scan goes through, and it ends with what `compile` gives
(`compileAt_place`). So does the reading of a text that is one pattern (`ofTextAt_eq_done`), where
the character that is not expected is cut out as a single byte.
-/

namespace TreeQuery.Pattern

/-! ## Characters and their offsets -/

/-- The characters of a text with the offsets at which they begin, the first one at `start`. -/
def indices : (start : Nat) → Text → List (Nat × Char)
  | _, [] => []
  | start, c :: t => (start, c) :: indices (start + c.utf8Size) t

/-- Reads the body of a group up to the brace that closes it, `depth` inner braces being open. The
opening brace is at the offset `opened`. -/
def groupBodyAt (opened : Nat) : (depth : Nat) → List (Nat × Char) →
    Except (Nat × Malformation) (Text × List (Nat × Char))
  | _, [] => .error (opened, .unbalancedBraces)
  | 0, (_, '}') :: chars => .ok ([], chars)
  | depth + 1, (_, '}') :: chars =>
    (groupBodyAt opened depth chars).map fun (body, chars) => ('}' :: body, chars)
  | depth, (_, '{') :: chars =>
    (groupBodyAt opened (depth + 1) chars).map fun (body, chars) => ('{' :: body, chars)
  | _, [(offset, '^')] => .error (offset, .trailingEscape)
  | depth, (_, '^') :: (_, c) :: chars =>
    (groupBodyAt opened depth chars).map fun (body, chars) => (escaped c ++ body, chars)
  | depth, (_, c) :: chars =>
    (groupBodyAt opened depth chars).map fun (body, chars) => (c :: body, chars)

theorem length_lt_of_groupBodyAt {opened depth : Nat} {chars rest : List (Nat × Char)} {body : Text}
    (h : groupBodyAt opened depth chars = .ok (body, rest)) : rest.length < chars.length := by
  fun_induction groupBodyAt opened depth chars generalizing body with
  | case1 | case5 => cases h
  | case2 => simp_all
  | case3 _ _ _ ih | case4 _ _ _ ih | case6 _ _ _ _ _ ih | case7 _ _ _ _ _ _ _ _ _ ih =>
    obtain ⟨b, hb, -⟩ := map_fst_eq_ok_iff.1 h
    have := ih hb
    simp only [List.length_cons]
    omega

/-- Reads the items of a pattern up to its end, and gives the offset of what follows it; `stop` is the
offset of the end of the text. -/
def scanAt (stopAtEquals : Bool) (stop : Nat) (chars : List (Nat × Char)) :
    Except (Nat × Malformation) (List Item × Nat) :=
  match chars with
  | [] => .ok ([], stop)
  | (offset, '&') :: _ | (offset, '|') :: _ => .ok ([], offset)
  | (_, '*') :: chars =>
    (scanAt stopAtEquals stop chars).map fun (items, rest) => (.star :: items, rest)
  | [(offset, '^')] => .error (offset, .trailingEscape)
  | (_, '^') :: (_, c) :: chars =>
    (scanAt stopAtEquals stop chars).map fun (items, rest) => (.char c :: items, rest)
  | (offset, '}') :: _ => .error (offset, .unbalancedBraces)
  | (offset, '{') :: inner =>
    match h : groupBodyAt offset 0 inner with
    | .error fault => .error fault
    | .ok (body, chars) =>
      have : chars.length < inner.length := length_lt_of_groupBodyAt h
      match groupItem [] body with
      | .error fault => .error (offset, fault.cause)
      | .ok item =>
        (scanAt stopAtEquals stop chars).map fun (items, rest) => (item :: items, rest)
  | (offset, c) :: chars =>
    if stopAtEquals && c = '=' then .ok ([], offset)
    else (scanAt stopAtEquals stop chars).map fun (items, rest) => (.char c :: items, rest)
termination_by chars.length

/-! ## Scanning with and without offsets -/

variable {α β γ : Type}

/-- A fault in a text that ends at the offset `stop`, and what follows some part in another form. -/
def locate (stop : Nat) (rest : Text → β) :
    Except Fault (α × Text) → Except (Nat × Malformation) (α × β)
  | .error fault => .error (stop - fault.rest.byteLength, fault.cause)
  | .ok (a, t) => .ok (a, rest t)

theorem locate_map (stop : Nat) (rest : Text → β) (result : Except Fault (α × Text)) (f : α → γ) :
    locate stop rest (result.map fun (a, t) => (f a, t)) =
      (locate stop rest result).map fun (a, b) => (f a, b) := by
  cases result <;> rfl

/-- The characters of a final piece of a text that ends at the offset `stop`. -/
def indicesTo (stop : Nat) (t : Text) : List (Nat × Char) := indices (stop - t.byteLength) t

theorem indicesTo_eq {start stop : Nat} {t : Text} (h : start + t.byteLength = stop) :
    indicesTo stop t = indices start t := by
  rw [indicesTo, ← h, Nat.add_sub_cancel]

/-- Behind a character, the rest of the text ends at the same offset. -/
theorem end_of_cons {start stop : Nat} {c : Char} {t : Text}
    (h : start + Text.byteLength (c :: t) = stop) : start + c.utf8Size + t.byteLength = stop :=
  (Nat.add_assoc ..).trans h

theorem groupBodyAt_plain {opened depth offset : Nat} {c : Char} {chars : List (Nat × Char)}
    (ho : c ≠ '{') (hc : c ≠ '}') (he : c ≠ '^') :
    groupBodyAt opened depth ((offset, c) :: chars) =
      (groupBodyAt opened depth chars).map fun (body, chars) => (c :: body, chars) := by
  rw [groupBodyAt] <;> simp_all

/-- With offsets, a group is read as it is without them. -/
theorem groupBodyAt_indices {opened start stop : Nat} {brace t : Text} (depth : Nat)
    (hbrace : opened + brace.byteLength = stop) (h : start + t.byteLength = stop) :
    groupBodyAt opened depth (indices start t) =
      locate stop (indicesTo stop) (groupBody brace depth t) := by
  induction depth, t using groupInduction generalizing start with
  | nil depth => rw [indices, groupBodyAt, groupBody, locate, ← hbrace, Nat.add_sub_cancel]
  | close rest => rw [indices, groupBodyAt, groupBody, locate, indicesTo_eq (end_of_cons h)]
  | closeInner depth rest ih | openInner depth rest ih =>
    rw [indices, groupBodyAt, groupBody, ih (end_of_cons h), locate_map]
  | caret => rw [indices, indices, groupBodyAt, groupBody, locate, ← h, Nat.add_sub_cancel]
  | escape depth c rest ih =>
    rw [indices, indices, groupBodyAt, groupBody, ih (end_of_cons (end_of_cons h)), locate_map]
  | plain depth c rest ho hc he ih =>
    rw [indices, groupBodyAt_plain ho hc he, groupBody_plain ho hc he, ih (end_of_cons h),
      locate_map]

theorem scanAt_of_endsPattern {stopAtEquals : Bool} {start stop : Nat} {t : Text}
    (hend : endsPattern stopAtEquals t = true) (h : start + t.byteLength = stop) :
    scanAt stopAtEquals stop (indices start t) = .ok ([], start) := by
  cases t with
  | nil => rw [indices, scanAt, ← h]; rfl
  | cons c t =>
    simp only [endsPattern, Bool.or_eq_true, decide_eq_true_eq, Bool.and_eq_true] at hend
    rcases hend with (rfl | rfl) | ⟨rfl, rfl⟩
    · rw [indices, scanAt]
    · rw [indices, scanAt]
    · rw [indices, scanAt] <;> simp

section Steps

variable {stopAtEquals : Bool} {offset stop : Nat} {chars inner : List (Nat × Char)} {body : Text}

theorem scanAt_plain {c : Char} (hc : isSpecial c = false) (he : (stopAtEquals && c = '=') = false) :
    scanAt stopAtEquals stop ((offset, c) :: chars) =
      (scanAt stopAtEquals stop chars).map fun (items, rest) => (.char c :: items, rest) := by
  simp only [isSpecial, List.contains_cons, List.contains_nil, Bool.or_false, Bool.or_eq_false_iff,
    beq_eq_false_iff_ne] at hc
  rw [scanAt] <;> simp_all

theorem scanAt_group {item : Item} (hg : groupBodyAt offset 0 inner = .ok (body, chars))
    (hi : groupItem [] body = .ok item) :
    scanAt stopAtEquals stop ((offset, '{') :: inner) =
      (scanAt stopAtEquals stop chars).map fun (items, rest) => (item :: items, rest) := by
  rw [scanAt]
  split <;> simp_all

theorem scanAt_of_groupBodyAt_error {fault : Nat × Malformation}
    (hg : groupBodyAt offset 0 inner = .error fault) :
    scanAt stopAtEquals stop ((offset, '{') :: inner) = .error fault := by
  rw [scanAt]
  split <;> simp_all

theorem scanAt_of_groupItem_error {fault : Fault}
    (hg : groupBodyAt offset 0 inner = .ok (body, chars)) (hi : groupItem [] body = .error fault) :
    scanAt stopAtEquals stop ((offset, '{') :: inner) = .error (offset, fault.cause) := by
  rw [scanAt]
  split <;> simp_all

end Steps

/-- With offsets, a pattern is scanned as it is without them. -/
theorem scanAt_indices {stopAtEquals : Bool} {start stop : Nat} {t : Text}
    (h : start + t.byteLength = stop) :
    scanAt stopAtEquals stop (indices start t) =
      locate stop (stop - ·.byteLength) (scan stopAtEquals t) := by
  -- The induction is on the reading of the text, since both scanners take its pieces one by one.
  obtain ⟨pieces, rest, hreads⟩ := exists_reads stopAtEquals t
  induction hreads generalizing start with
  | ends hend =>
    rw [scanAt_of_endsPattern hend h, scan_of_endsPattern hend, locate, ← h, Nat.add_sub_cancel]
  | @plain c _ _ _ ho hc he hend _ ih =>
    by_cases hs : c = '*'
    · subst hs
      rw [indices, scanAt, scan, ih (end_of_cons h), locate_map]
    · have hc := isSpecial_eq_false hs ho hc he hend
      have he := stop_eq_false hend
      rw [indices, scanAt_plain hc he, scan_plain hc he, ih (end_of_cons h), locate_map]
  | escape c _ ih =>
    rw [indices, indices, scanAt, scan, ih (end_of_cons (end_of_cons h)), locate_map]
  | @group g body t _ _ hg _ ih =>
    have hbody : groupBody ('{' :: (g ++ t)) 0 (g ++ t) = .ok (body, t) := groupBody_append hg t
    have hbodyAt := groupBodyAt_indices 0 h (end_of_cons h)
    have hrest : stop - t.byteLength + t.byteLength = stop := by
      rw [← h, Text.byteLength_cons, Text.byteLength_append]
      omega
    rw [hbody, locate] at hbodyAt
    rw [indices]
    by_cases hbad : IsBadRange body
    · rw [scanAt_of_groupItem_error hbodyAt (groupItem_of_isBadRange hbad _),
        scan_of_groupItem_error hbody (groupItem_of_isBadRange hbad _), locate, ← h,
        Nat.add_sub_cancel]
    · obtain ⟨item, hitem⟩ := exists_groupItem hbad []
      rw [scanAt_group hbodyAt hitem, scan_group hbody (groupItem_congr hitem), indicesTo, ih hrest,
        locate_map]
  | stray => rw [indices, scanAt, scan, locate, ← h, Nat.add_sub_cancel]
  | caret => rw [indices, indices, scanAt, scan, locate, ← h, Nat.add_sub_cancel]
  | @unclosed t dangling ho =>
    have hbody : groupBody ('{' :: t) 0 t = _ := groupBody_of_openText ho
    have hbodyAt := groupBodyAt_indices 0 h (end_of_cons h)
    rw [hbody, locate] at hbodyAt
    rw [indices, scanAt_of_groupBodyAt_error hbodyAt, scan_of_groupBody_error hbody, locate]

/-! ## Patterns -/

/-- Reads the pattern that begins at an offset of a text, and gives the offset of what follows it. -/
def compileAt (text : Text) (start : Nat) (stopAtEquals : Bool) : Checked (Pattern × Nat) := do
  let part ← text.sliceFrom? start
  match scanAt stopAtEquals text.byteLength (indices start part) with
  | .error (offset, cause) => throw (.malformed text offset cause)
  | .ok (items, rest) =>
    let source ← text.slice? start rest
    match exprOfItems items with
    | .error cause => throw (.badPattern source cause)
    | .ok expr => return ({ source, expr, ranges := rangesOf items }, rest)

/-- A pattern ends between the offset at which it begins and the end of the text. -/
theorem le_of_compileAt {text : Text} {start rest : Nat} {stopAtEquals : Bool} {p : Pattern}
    (h : compileAt text start stopAtEquals = .done (.ok (p, rest))) :
    start ≤ rest ∧ rest ≤ text.byteLength := by
  obtain ⟨part, -, h⟩ := Checked.exists_of_lift_bind h
  split at h
  · cases h
  · obtain ⟨source, hsource, h⟩ := Checked.exists_of_lift_bind h
    split at h
    · cases h
    · cases h
      exact Text.le_of_slice? hsource

/-- A pattern in a text with the offset of what follows it. -/
def Compiled.placed (text : Text) (compiled : Compiled) : Pattern × Nat :=
  (compiled.pattern, text.place compiled.rest)

/-- **A pattern that begins at a final piece of a text is read without reaching outside.** -/
theorem compileAt_place {text part : Text} (h : part <:+ text) (stopAtEquals : Bool) :
    compileAt text (text.place part) stopAtEquals =
      .done ((compile text part stopAtEquals).map (Compiled.placed text)) := by
  have hend : text.place part + part.byteLength = text.byteLength := by
    obtain ⟨before, rfl⟩ := h
    rw [Text.place_append, Text.byteLength_append]
  unfold compileAt compile
  rw [Text.sliceFrom?_place h, Checked.lift_some_bind, scanAt_indices hend]
  cases hscan : scan stopAtEquals part with
  | error fault => rfl
  | ok scanned =>
    obtain ⟨items, rest⟩ := scanned
    obtain ⟨source, rfl⟩ := suffix_of_scan hscan
    have htake : (source ++ rest).take ((source ++ rest).length - rest.length) = source := by simp
    have hslice : text.slice? (text.place (source ++ rest)) (text.byteLength - rest.byteLength) =
        some source := Text.slice?_place h
    simp only [locate, hslice, Checked.lift_some_bind, htake]
    cases exprOfItems items <;> rfl

/-- Reads a text that is one pattern as a whole. -/
def ofTextAt (text : Text) : Checked Pattern := do
  let (pattern, rest) ← compileAt text 0 false
  if rest = text.byteLength then return pattern
  else
    let found ← text.slice? rest (rest + 1)
    match found with
    | [c] => throw (.malformed text rest (.unexpected c))
    | _ => .abort

/-- **A text that should be one pattern is read without reaching outside.** -/
theorem ofTextAt_eq_done (text : Text) : ofTextAt text = .done (ofText text) := by
  have hcompile := compileAt_place (List.suffix_refl text) false
  rw [Text.place_self] at hcompile
  unfold ofTextAt ofText
  rw [hcompile]
  cases hc : compile text text false with
  | error e => rfl
  | ok compiled =>
    obtain ⟨p, rest⟩ := compiled
    obtain ⟨source, rfl, -, hend⟩ := compile_eq_ok_iff.1 hc
    simp only [Except.map, Compiled.placed, Checked.done_ok_bind]
    cases rest with
    | nil =>
      have hend : (source ++ []).place [] = (source ++ []).byteLength := Nat.sub_zero _
      rw [if_pos hend]
      rfl
    | cons c rest =>
      have hc : c.utf8Size = 1 := by
        simp only [endsPattern, Bool.or_eq_true, decide_eq_true_eq, Bool.false_and, or_false,
          Bool.false_eq_true] at hend
        rcases hend with rfl | rfl <;> rfl
      have hne : (source ++ c :: rest).place (c :: rest) ≠ (source ++ c :: rest).byteLength := by
        rw [Text.place_append, Text.byteLength_append, Text.byteLength_cons]
        omega
      have hsuffix : c :: rest <:+ source ++ c :: rest := List.suffix_append source (c :: rest)
      have hfound : (source ++ c :: rest).slice? ((source ++ c :: rest).place (c :: rest))
          ((source ++ c :: rest).place (c :: rest) + 1) = some [c] := by
        rw [Text.place_add_one hc hsuffix]
        exact Text.slice?_place (s := [c]) hsuffix
      rw [if_neg hne, hfound, Checked.lift_some_bind]
      rfl

end TreeQuery.Pattern
