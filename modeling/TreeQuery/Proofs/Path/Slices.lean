import TreeQuery.Path

/-!
# Slices

A slice is a run of neighbours in a list. Its bounds may be any integers, and still it is empty only
if the list is (`select_eq_nil_iff`). Bounds that are not zero can be given in either order
(`select_swap`), and with opposite signs they count from the other end: they take the mirror image of
the same slice out of the mirror image of the list (`select_reverse`).

In signed 64-bit arithmetic the places, the nearest places and the size are sums and differences that
could leave the range of their type. `selectWord` computes a slice with every such result checked. For
bounds that are 64-bit integers, as all bounds in a path are, no result is out of range
(`selectWord_eq_some`): a negative bound is added to a count, which is not negative, and a positive
one is made smaller. What no list in memory comes near is a count that is itself out of range; it would
be the only thing to go wrong (`selectWord_eq_none`).
-/

namespace TreeQuery.Path

variable {α : Type}

/-! ## Runs of neighbours -/

/-- The items from one place to another, both included. -/
def slice (lo hi : Nat) (items : List α) : List α := (items.drop lo).take (hi - lo + 1)

theorem slice_isInfix (lo hi : Nat) (items : List α) : slice lo hi items <:+: items :=
  (List.take_prefix ..).isInfix.trans (List.drop_suffix ..).isInfix

theorem slice_ne_nil {lo hi : Nat} {items : List α} (h : lo < items.length) :
    slice lo hi items ≠ [] := by
  simp [slice]
  omega

/-- The mirror image of a slice goes from the mirror image of its end to that of its beginning. -/
theorem slice_reverse {lo hi : Nat} {items : List α} (hle : lo ≤ hi) (hlt : hi < items.length) :
    slice (items.length - 1 - hi) (items.length - 1 - lo) items.reverse =
      (slice lo hi items).reverse := by
  have hslice : slice lo hi items = (items.take (hi + 1)).drop lo := by
    rw [slice, List.drop_take]
    congr 1
    omega
  have hfirst : items.length - 1 - hi = items.length - (hi + 1) := by omega
  have hsize : items.length - 1 - lo - (items.length - 1 - hi) + 1 =
      (items.take (hi + 1)).length - lo := by
    simp
    omega
  rw [hslice, List.reverse_drop, List.reverse_take, slice, hsize, hfirst]

/-! ## Places -/

/-- Only for zero does it matter which end is open. -/
theorem place_of_ne_zero {count e bound : Int} (h : bound ≠ 0) (e' : Int) :
    place count e bound = place count e' bound := by
  simp [place, h]

/-- A bound of opposite sign is counted from the other end. -/
theorem place_neg {count e bound : Int} (h : bound ≠ 0) (e' : Int) :
    place count e (-bound) = count - 1 - place count e' bound := by
  unfold place
  rcases Int.lt_or_gt_of_ne h with hneg | hpos
  · rw [if_pos hneg, if_neg (by omega), if_neg (by omega)]
    omega
  · rw [if_pos (by omega), if_neg (by omega), if_neg h]
    omega

theorem clamp_lt {count : Nat} (h : 0 < count) (i : Int) : clamp count i < count := by
  unfold clamp
  omega

theorem clamp_mono (count : Nat) {i j : Int} (h : i ≤ j) : clamp count i ≤ clamp count j := by
  unfold clamp
  omega

/-- The nearest place to the mirror image of a place is the mirror image of the nearest place. -/
theorem clamp_mirror {count : Nat} (h : 0 < count) (i : Int) :
    clamp count (count - 1 - i) = count - 1 - clamp count i := by
  unfold clamp
  omega

/-! ## Slices -/

variable (least greatest : Int) (items : List α)

/-- A slice goes from the lesser of the two places to the greater one. -/
theorem select_eq_slice {first last : Int} (hf : place items.length 0 least = first)
    (hl : place items.length (items.length - 1) greatest = last) :
    select least greatest items =
      slice (clamp items.length (min first last)) (clamp items.length (max first last)) items := by
  rw [← hf, ← hl]
  rfl

theorem select_isInfix : select least greatest items <:+: items :=
  slice_isInfix ..

/-- Some item is nearest to any bound, if there are items. -/
theorem select_eq_nil_iff : select least greatest items = [] ↔ items = [] := by
  constructor
  · intro h
    by_cases hne : items = []
    · exact hne
    · exact absurd h (slice_ne_nil (clamp_lt (List.length_pos_iff.2 hne) _))
  · rintro rfl
    simp [select]

variable {least greatest}

theorem select_swap (hl : least ≠ 0) (hg : greatest ≠ 0) :
    select least greatest items = select greatest least items := by
  rw [select_eq_slice least greatest items rfl (place_of_ne_zero hg 0),
    select_eq_slice greatest least items rfl (place_of_ne_zero hl 0), Int.min_comm, Int.max_comm]

/-- **Bounds of opposite signs take the same slice, seen from the other end.** -/
theorem select_reverse (hl : least ≠ 0) (hg : greatest ≠ 0) :
    select (-greatest) (-least) items.reverse = (select least greatest items).reverse := by
  by_cases hne : items = []
  · simp [hne, select]
  have hpos : 0 < items.length := List.length_pos_iff.2 hne
  have hcount : items.reverse.length = items.length := List.length_reverse
  let first := place items.length 0 least
  let last := place items.length (items.length - 1) greatest
  have hfirst : place items.reverse.length 0 (-greatest) = items.length - 1 - last := by
    rw [hcount]
    exact place_neg hg _
  have hlast : place items.reverse.length (items.reverse.length - 1) (-least) =
      items.length - 1 - first := by
    rw [hcount]
    exact place_neg hl _
  -- the greater of the two places becomes the lesser one
  have hmin : min (items.length - 1 - last) (items.length - 1 - first) =
      items.length - 1 - max first last := by omega
  have hmax : max (items.length - 1 - last) (items.length - 1 - first) =
      items.length - 1 - min first last := by omega
  have hle : clamp items.length (min first last) ≤ clamp items.length (max first last) :=
    clamp_mono _ (by omega)
  rw [select_eq_slice _ _ _ hfirst hlast, select_eq_slice least greatest items rfl rfl, hcount, hmin,
    hmax, clamp_mirror hpos, clamp_mirror hpos, slice_reverse hle (clamp_lt hpos _)]

/-! ## Arithmetic in 64 bits -/

/-- The values of a signed 64-bit integer. -/
def IsWord (i : Int) : Prop := Integer.least ≤ i ∧ i ≤ Integer.greatest

instance : DecidablePred IsWord := fun i =>
  inferInstanceAs (Decidable (Integer.least ≤ i ∧ i ≤ Integer.greatest))

/-- A result of signed arithmetic, which must not leave its range. -/
def word? (i : Int) : Option Int := if IsWord i then some i else none

/-- A result of unsigned arithmetic, which must not leave its range. -/
def size? (i : Int) : Option Nat := if 0 ≤ i ∧ i < 0x10000000000000000 then some i.toNat else none

/-- A size as a signed integer of as many bits. A size above the greatest such integer becomes
negative. -/
def asWord (size : Nat) : Int := (size : Int).bmod 0x10000000000000000

/-- The place of an item, where zero stands for the first or for the last one. -/
def placeWord (count : Int) (isLast : Bool) (bound : Int) : Option Int :=
  if bound < 0 then word? (bound + count)
  else if bound = 0 then if isLast then word? (count - 1) else some 0
  else word? (bound - 1)

/-- The place nearest to `i`, if there are any. -/
def clampWord (count i : Int) : Option Nat := do
  let top ← word? (count - 1)
  if 0 ≤ top then some (max 0 (min i top)).toNat else none

/-- The number of places from one to another that does not come before it. -/
def spanWord (lo hi : Nat) : Option Nat :=
  (size? (hi - lo)).bind fun distance => size? (distance + 1)

/-- The items between two bounds, where all arithmetic is checked. -/
def selectWord (least greatest : Int) (items : List α) : Option (List α) :=
  let count := asWord items.length
  if count = 0 then some items
  else do
    let first ← placeWord count false least
    let last ← placeWord count true greatest
    let (first, last) := if last < first then (last, first) else (first, last)
    let lo ← clampWord count first
    let hi ← clampWord count last
    return (items.drop lo).take (← spanWord lo hi)

theorem word?_eq_some {i : Int} (h : IsWord i) : word? i = some i := if_pos h

theorem size?_eq_some {n : Nat} (h : n < 0x10000000000000000) : size? n = some n := by
  simp [size?]
  omega

theorem asWord_eq {size : Nat} (h : size ≤ Integer.greatest) : asWord size = size := by
  unfold Integer.greatest at h
  unfold asWord
  rw [Int.bmod_eq_of_le] <;> omega

theorem placeWord_eq_some {count : Nat} (hpos : 0 < count) (hcount : count ≤ Integer.greatest)
    (isLast : Bool) {bound : Int} (hb : IsWord bound) :
    placeWord count isLast bound =
      some (place count (if isLast then count - 1 else 0) bound) := by
  obtain ⟨hlo, hhi⟩ := hb
  unfold Integer.least at hlo
  unfold Integer.greatest at hcount hhi
  have hword (i : Int) (h : -0x8000000000000000 ≤ i ∧ i ≤ 0x7fffffffffffffff) : word? i = some i :=
    word?_eq_some h
  unfold placeWord place
  by_cases hneg : bound < 0
  · simp [hneg, hword (bound + count) (by omega)]
  · by_cases hzero : bound = 0
    · cases isLast <;> simp [hzero, hword (count - 1) (by omega)]
    · simp [hneg, hzero, hword (bound - 1) (by omega)]

theorem clampWord_eq_some {count : Nat} (hpos : 0 < count) (hcount : count ≤ Integer.greatest)
    (i : Int) : clampWord count i = some (clamp count i) := by
  have htop : IsWord (count - 1) := by
    unfold IsWord Integer.least
    omega
  simp [clampWord, word?_eq_some htop, clamp]
  omega

theorem spanWord_eq_some {lo hi : Nat} (hle : lo ≤ hi) (hhi : hi < Integer.greatest) :
    spanWord lo hi = some (hi - lo + 1) := by
  unfold Integer.greatest at hhi
  have hdistance : size? (hi - lo) = some (hi - lo) := by
    rw [← Int.ofNat_sub hle]
    exact size?_eq_some (by omega)
  have hspan : size? ((hi - lo : Nat) + 1) = some (hi - lo + 1) := by
    rw [← Int.natCast_succ]
    exact size?_eq_some (by omega)
  rw [spanWord, hdistance, Option.bind_some, hspan]

/-- **No result is out of range.** Bounds are 64-bit integers, and a list has no more items than the
greatest of these. -/
theorem selectWord_eq_some {least greatest : Int} (hl : IsWord least) (hg : IsWord greatest)
    {items : List α} (hlength : items.length ≤ Integer.greatest) :
    selectWord least greatest items = some (select least greatest items) := by
  unfold selectWord
  rw [asWord_eq hlength]
  by_cases hne : items = []
  · simp [hne, select]
  have hpos : 0 < items.length := List.length_pos_iff.2 hne
  have hcount : (items.length : Int) ≠ 0 := by omega
  let first := place items.length 0 least
  let last := place items.length (items.length - 1) greatest
  have hswap : (if last < first then (last, first) else (first, last)) =
      (min first last, max first last) := by
    split <;> refine Prod.ext ?_ ?_ <;> simp only <;> omega
  -- the places are in order after that, so their distance is not negative
  have hle : clamp items.length (min first last) ≤ clamp items.length (max first last) :=
    clamp_mono _ (by omega)
  have hlt : clamp items.length (max first last) < items.length := clamp_lt hpos _
  have hspan := spanWord_eq_some hle (by omega)
  rw [if_neg hcount, placeWord_eq_some hpos hlength false hl, placeWord_eq_some hpos hlength true hg]
  show (do
    let (first, last) := if last < first then (last, first) else (first, last)
    let lo ← clampWord items.length first
    let hi ← clampWord items.length last
    return (items.drop lo).take (← spanWord lo hi)) = _
  rw [hswap]
  simp only [clampWord_eq_some hpos hlength, Option.bind_eq_bind, Option.bind_some, hspan]
  rfl

/-- With one more item than that, the count would turn negative, and there would be no greatest
place. -/
theorem selectWord_eq_none (least greatest : Int) {items : List α}
    (hlength : items.length = Integer.greatest + 1) : selectWord least greatest items = none := by
  have hcount : asWord items.length = Integer.least := by
    unfold asWord Integer.least
    rw [hlength, Int.bmod_def]
    rfl
  have htop : word? (Integer.least - 1) = none := if_neg (by decide)
  have hclamp (i : Int) : clampWord Integer.least i = none := by
    simp [clampWord, htop]
  unfold selectWord
  rw [hcount, if_neg (by decide)]
  cases placeWord Integer.least false least with
  | none => rfl
  | some first =>
    cases placeWord Integer.least true greatest with
    | none => rfl
    | some last => simp [hclamp]

/-- The bounds in a path are 64-bit integers. -/
theorem isWord_of_bounds? {t : Text} {least greatest : Int}
    (h : Plan.bounds? t = some (least, greatest)) : IsWord least ∧ IsWord greatest := by
  unfold Plan.bounds? at h
  split at h
  · next a b _ =>
    cases ha : Integer.read? a with
    | none => simp [ha] at h
    | some i =>
      cases hb : Integer.read? b with
      | none => simp [ha, hb] at h
      | some j =>
        simp only [ha, hb, Option.bind_eq_bind, Option.bind_some, Option.pure_def, Option.some.injEq,
          Prod.mk.injEq] at h
        obtain ⟨rfl, rfl⟩ := h
        exact ⟨Integer.bounds_of_read? ha, Integer.bounds_of_read? hb⟩
  · obtain ⟨i, hi, he⟩ := Option.map_eq_some_iff.1 h
    obtain ⟨rfl, rfl⟩ := Prod.mk.inj he
    exact ⟨Integer.bounds_of_read? hi, Integer.bounds_of_read? hi⟩

/-- What is taken out of a list by the bounds in a path is computed without overflow. -/
theorem selectWord_of_bounds? {t : Text} {least greatest : Int}
    (h : Plan.bounds? t = some (least, greatest)) {items : List α}
    (hlength : items.length ≤ Integer.greatest) :
    selectWord least greatest items = some (select least greatest items) :=
  selectWord_eq_some (isWord_of_bounds? h).1 (isWord_of_bounds? h).2 hlength

/-- Only the least 64-bit integer has no opposite among them. -/
theorem IsWord.neg {i : Int} (h : IsWord i) (hne : i ≠ Integer.least) : IsWord (-i) := by
  unfold IsWord Integer.least Integer.greatest at *
  omega

/-- **A slice is a run of neighbours, empty only if there is nothing to take, and the same from either
end.** It is computed without overflow. -/
theorem select_laws (least greatest : Int) (items : List α) :
    select least greatest items <:+: items ∧
    (select least greatest items = [] ↔ items = []) ∧
    (least ≠ 0 → greatest ≠ 0 →
      select (-greatest) (-least) items.reverse = (select least greatest items).reverse ∧
      select least greatest items = select greatest least items) ∧
    (IsWord least → IsWord greatest → items.length ≤ Integer.greatest →
      selectWord least greatest items = some (select least greatest items) ∧
      (least ≠ 0 → greatest ≠ 0 → least ≠ Integer.least → greatest ≠ Integer.least →
        selectWord (-greatest) (-least) items.reverse = some (select least greatest items).reverse ∧
        selectWord greatest least items = some (select least greatest items))) := by
  refine ⟨select_isInfix .., select_eq_nil_iff ..,
    fun hl hg => ⟨select_reverse items hl hg, select_swap items hl hg⟩,
    fun hl hg hlength => ⟨selectWord_eq_some hl hg hlength, fun hl0 hg0 hlmin hgmin => ⟨?_, ?_⟩⟩⟩
  · have hreverse : items.reverse.length ≤ Integer.greatest := by
      rwa [List.length_reverse]
    rw [selectWord_eq_some (hg.neg hgmin) (hl.neg hlmin) hreverse, select_reverse items hl0 hg0]
  · rw [selectWord_eq_some hg hl hlength, select_swap items hl0 hg0]

/-- The last two of three items, from either end, and all of them between the outermost bounds. -/
theorem select_laws_three :
    IsWord 2 ∧ IsWord (-1) ∧ IsWord Integer.least ∧ IsWord Integer.greatest ∧
      (['a', 'b', 'c'].length : Int) ≤ Integer.greatest ∧
      selectWord 2 (-1) ['a', 'b', 'c'] = some ['b', 'c'] ∧
      selectWord 1 (-2) ['c', 'b', 'a'] = some ['c', 'b'] ∧
      selectWord Integer.least Integer.greatest ['a', 'b', 'c'] = some ['a', 'b', 'c'] := by
  have h2 : IsWord 2 := by decide
  have h1 : IsWord (-1) := by decide
  have hleast : IsWord Integer.least := by decide
  have hgreatest : IsWord Integer.greatest := by decide
  have hlength : (['a', 'b', 'c'].length : Int) ≤ Integer.greatest := by decide
  obtain ⟨-, -, -, hword⟩ := select_laws 2 (-1) ['a', 'b', 'c']
  obtain ⟨hselect, hmirror⟩ := hword h2 h1 hlength
  obtain ⟨-, -, -, hall⟩ := select_laws Integer.least Integer.greatest ['a', 'b', 'c']
  exact ⟨h2, h1, hleast, hgreatest, hlength, hselect,
    (hmirror (by decide) (by decide) (by decide) (by decide)).1, (hall hleast hgreatest hlength).1⟩

end TreeQuery.Path
