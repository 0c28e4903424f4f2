import TreeQuery.Text

/-!
# Texts as bytes

An offset counts bytes of the UTF-8 form of a text. Reaching into a text by offsets may fail: a text
has no bytes from its end on, and it can only be cut between two characters (`cutAtByte?`). A cut is
there exactly at the lengths of the leading pieces (`cutAtByte?_eq_some_iff`).

Every final piece of a text begins at a place where the text can be cut (`sliceFrom?_place`). The byte
there tells whether a given ASCII character follows (`byteAt?_place`), since a longer character begins
with a byte beyond ASCII.
-/

namespace TreeQuery.Text

/-- The bytes of the UTF-8 form. -/
def bytes (t : Text) : List UInt8 := t.flatMap String.utf8EncodeChar

@[simp] theorem bytes_nil : bytes [] = [] := rfl

@[simp] theorem bytes_cons (c : Char) (t : Text) :
    bytes (c :: t) = String.utf8EncodeChar c ++ bytes t := rfl

@[simp] theorem bytes_append (s t : Text) : bytes (s ++ t) = bytes s ++ bytes t :=
  List.flatMap_append

theorem length_bytes (t : Text) : (bytes t).length = byteLength t := by
  induction t with
  | nil => rfl
  | cons c t ih => rw [bytes_cons, List.length_append, ih, String.length_utf8EncodeChar]; rfl

/-- The byte at an offset, if there is one. -/
def byteAt? (t : Text) (n : Nat) : Option UInt8 := (bytes t)[n]?

/-- Cuts a text at an offset. There is no cut beyond the end and none inside a character. -/
def cutAtByte? : (n : Nat) → Text → Option (Text × Text)
  | 0, t => some ([], t)
  | _ + 1, [] => none
  | n + 1, c :: t =>
    if c.utf8Size ≤ n + 1 then (cutAtByte? (n + 1 - c.utf8Size) t).map fun (a, b) => (c :: a, b)
    else none

/-- The piece from an offset on. -/
def sliceFrom? (t : Text) (start : Nat) : Option Text := (cutAtByte? start t).map Prod.snd

/-- The piece between two offsets. If they stand the wrong way round, the second cut is missed. -/
def slice? (t : Text) (start stop : Nat) : Option Text :=
  (cutAtByte? stop t).bind fun (lead, _) => lead.sliceFrom? start

/-! ## Cuts -/

theorem cutAtByte?_append (a b : Text) : cutAtByte? a.byteLength (a ++ b) = some (a, b) := by
  induction a with
  | nil => rw [byteLength_nil, cutAtByte?]; rfl
  | cons c a ih =>
    obtain ⟨n, hn⟩ : ∃ n, byteLength (c :: a) = n + 1 := by
      have := c.utf8Size_pos
      exact ⟨byteLength (c :: a) - 1, by rw [byteLength_cons]; omega⟩
    have hrest : n + 1 - c.utf8Size = byteLength a := by
      rw [← hn, byteLength_cons, Nat.add_sub_cancel_left]
    have hle : c.utf8Size ≤ n + 1 := by
      rw [← hn, byteLength_cons]
      exact Nat.le_add_right ..
    rw [hn, List.cons_append, cutAtByte?, if_pos hle, hrest, ih]
    rfl

theorem eq_append_of_cutAtByte? {n : Nat} {t a b : Text} (h : cutAtByte? n t = some (a, b)) :
    t = a ++ b ∧ a.byteLength = n := by
  fun_induction cutAtByte? n t generalizing a b with
  | case1 t =>
    obtain ⟨rfl, rfl⟩ := Prod.mk.inj (Option.some.inj h)
    exact ⟨rfl, rfl⟩
  | case2 => cases h
  | case3 n c t hle ih =>
    obtain ⟨⟨a', b'⟩, hcut, he⟩ := Option.map_eq_some_iff.1 h
    obtain ⟨rfl, rfl⟩ := Prod.mk.inj he
    obtain ⟨rfl, hlength⟩ := ih hcut
    refine ⟨rfl, ?_⟩
    rw [byteLength_cons, hlength]
    omega
  | case4 => cases h

/-- **A text is cut exactly behind its leading pieces.** -/
theorem cutAtByte?_eq_some_iff {n : Nat} {t a b : Text} :
    cutAtByte? n t = some (a, b) ↔ t = a ++ b ∧ a.byteLength = n := by
  constructor
  · exact eq_append_of_cutAtByte?
  · rintro ⟨rfl, rfl⟩
    exact cutAtByte?_append a b

theorem sliceFrom?_append (a b : Text) : (a ++ b).sliceFrom? a.byteLength = some b := by
  rw [sliceFrom?, cutAtByte?_append]
  rfl

theorem sliceFrom?_eq_some_iff {t b : Text} {n : Nat} :
    t.sliceFrom? n = some b ↔ ∃ a, t = a ++ b ∧ a.byteLength = n := by
  simp [sliceFrom?, Option.map_eq_some_iff, cutAtByte?_eq_some_iff]

theorem slice?_append (a b c : Text) :
    (a ++ (b ++ c)).slice? a.byteLength (a ++ b).byteLength = some b := by
  rw [slice?, ← List.append_assoc, cutAtByte?_append]
  exact sliceFrom?_append a b

/-- A slice does not begin behind its end. -/
theorem le_of_slice? {t b : Text} {start stop : Nat} (h : t.slice? start stop = some b) :
    start ≤ stop ∧ stop ≤ t.byteLength := by
  obtain ⟨⟨lead, rest⟩, hcut, hslice⟩ := Option.bind_eq_some_iff.1 h
  obtain ⟨rfl, rfl⟩ := cutAtByte?_eq_some_iff.1 hcut
  obtain ⟨a, rfl, rfl⟩ := sliceFrom?_eq_some_iff.1 hslice
  simp only [byteLength_append]
  omega

/-! ## Final pieces -/

/-- The offset at which a final piece of a text begins. -/
def place (t rest : Text) : Nat := t.byteLength - rest.byteLength

theorem place_append (a b : Text) : place (a ++ b) b = a.byteLength := by
  rw [place, byteLength_append, Nat.add_sub_cancel]

@[simp] theorem place_self (t : Text) : place t t = 0 := Nat.sub_self _

theorem sliceFrom?_place {t rest : Text} (h : rest <:+ t) : t.sliceFrom? (t.place rest) = some rest := by
  obtain ⟨a, rfl⟩ := h
  rw [place_append, sliceFrom?_append]

theorem slice?_place {t s rest : Text} (h : s ++ rest <:+ t) :
    t.slice? (t.place (s ++ rest)) (t.place rest) = some s := by
  obtain ⟨a, rfl⟩ := h
  have hrest : place (a ++ (s ++ rest)) rest = byteLength (a ++ s) := by
    rw [← List.append_assoc, place_append]
  rw [place_append, hrest, slice?_append]

/-- Behind a character of one byte, the offset is one more. -/
theorem place_add_one {t rest : Text} {c : Char} (hc : c.utf8Size = 1) (h : c :: rest <:+ t) :
    t.place (c :: rest) + 1 = t.place rest := by
  obtain ⟨a, rfl⟩ := h
  rw [place_append, ← List.singleton_append, ← List.append_assoc, place_append, byteLength_append,
    byteLength_cons, hc]
  rfl

/-! ## ASCII -/

theorem byteAt?_append (a b : Text) : (a ++ b).byteAt? a.byteLength = b.bytes.head? := by
  rw [byteAt?, bytes_append, ← length_bytes, List.getElem?_append_right (Nat.le_refl _), Nat.sub_self,
    List.head?_eq_getElem?]

/-- A byte that is not ASCII begins each longer character. -/
theorem exists_of_utf8Size_ne_one {c : Char} (h : c.utf8Size ≠ 1) :
    ∃ b more, String.utf8EncodeChar c = b :: more ∧ 128 ≤ b.toNat := by
  have hor (x y : UInt8) (hy : 128 ≤ y.toNat) : 128 ≤ (x ||| y).toNat := by
    rw [UInt8.toNat_or]
    exact Nat.le_trans hy Nat.right_le_or
  rcases Char.utf8Size_eq c with hc | hc | hc | hc
  · exact absurd hc h
  · exact ⟨_, _, String.utf8EncodeChar_eq_cons_cons hc, hor _ _ (by decide)⟩
  · exact ⟨_, _, String.utf8EncodeChar_eq_cons_cons_cons hc, hor _ _ (by decide)⟩
  · exact ⟨_, _, String.utf8EncodeChar_eq_cons_cons_cons_cons hc, hor _ _ (by decide)⟩

theorem toNat_toUInt8_of_utf8Size {c : Char} (h : c.utf8Size = 1) :
    c.toUInt8.toNat = c.toNat ∧ c.toNat < 128 := by
  have hle := UInt32.le_iff_toNat_le.1 (Char.utf8Size_eq_one_iff.1 h)
  have hlt : c.toNat < 128 := Nat.lt_succ_of_le hle
  refine ⟨?_, hlt⟩
  show c.val.toUInt8.toNat = c.val.toNat
  rw [UInt32.toNat_toUInt8]
  exact Nat.mod_eq_of_lt (Nat.lt_trans hlt (by decide))

theorem head?_bytes_eq_iff {c : Char} (hc : c.utf8Size = 1) {t : Text} :
    t.bytes.head? = some c.toUInt8 ↔ t.head? = some c := by
  obtain ⟨hcode, hlt⟩ := toNat_toUInt8_of_utf8Size hc
  cases t with
  | nil => simp
  | cons d t =>
    rw [bytes_cons, List.head?_cons, Option.some.injEq]
    by_cases hd : d.utf8Size = 1
    · rw [String.utf8EncodeChar_eq_singleton hd, List.singleton_append, List.head?_cons,
        Option.some.injEq]
      constructor
      · intro h
        have hcodes := congrArg UInt8.toNat h
        rw [hcode] at hcodes
        exact Char.toNat_inj.1 ((toNat_toUInt8_of_utf8Size hd).1.symm.trans hcodes)
      · rintro rfl
        rfl
    · -- The first byte of a longer character is not that of any ASCII character.
      obtain ⟨b, more, henc, hb⟩ := exists_of_utf8Size_ne_one hd
      rw [henc, List.cons_append, List.head?_cons, Option.some.injEq]
      constructor
      · rintro rfl
        omega
      · rintro rfl
        exact absurd hc hd

/-- **A byte shows an ASCII character.** -/
theorem byteAt?_place {c : Char} (hc : c.utf8Size = 1) {t rest : Text} (h : rest <:+ t) :
    t.byteAt? (t.place rest) = some c.toUInt8 ↔ rest.head? = some c := by
  obtain ⟨a, rfl⟩ := h
  rw [place_append, byteAt?_append, head?_bytes_eq_iff hc]

end TreeQuery.Text
