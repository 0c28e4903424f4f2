import TreeQuery.Json.Printer
import TreeQuery.Json.Reader

/-!
# Reading what was printed

A value that is printed and read again comes back as it was, with what follows it left over
(`reads_value_print`). Two things can be in the way: arrays and objects nested too deeply, and numbers,
which are printed digit by digit as they are held and need not be numerals. `Value.Readable` leaves
both out.

The reader hands on a rest and a proof that it is shorter. `Reads` says what a reading gives and keeps
that proof out of sight, and there is one lemma on it for each way the reader goes on.
-/

namespace TreeQuery.Json

/-- A reading gives `a` and leaves `rest`. -/
def Reads {α : Type} {t : Text} (x : Except Fault (Reading α t)) (a : α) (rest : Text) : Prop :=
  ∃ h, x = .ok ⟨a, rest, h⟩

/-! ## Blanks -/

theorem skipBlanks_of_not_isBlank {c : Char} (hc : isBlank c = false) (t : Text) :
    skipBlanks (c :: t) = c :: t := by
  rw [skipBlanks, List.dropWhile_cons_of_neg (by rw [hc]; exact Bool.false_ne_true)]

theorem skipBlanks_cons {c : Char} (hc : isBlank c = true) (t : Text) :
    skipBlanks (c :: t) = skipBlanks t :=
  List.dropWhile_cons_of_pos hc

theorem skipBlanks_newline (level : Nat) (t : Text) :
    skipBlanks (newline level ++ t) = skipBlanks t := by
  have hspaces (n : Nat) : skipBlanks (List.replicate n ' ' ++ t) = skipBlanks t := by
    induction n with
    | zero => rfl
    | succ n ih =>
      rw [List.replicate_succ, List.cons_append, skipBlanks_cons rfl, ih]
  rw [newline, List.cons_append, skipBlanks_cons rfl, hspaces]

/-! ## Strings -/

section Strings

variable {c d : Char} {s t u rest : Text}

theorem reads_escape_of_escapedChar? (h : escapedChar? d = some c) (s : Text) :
    Reads (escape (d :: s)) c s := by
  unfold escape
  dsimp only
  split
  · next h' =>
    cases h.symm.trans h'
    exact ⟨_, rfl⟩
  · next h' => cases h.symm.trans h'

theorem hexUnit?_control {n : Nat} (h : n < 32) :
    hexUnit? '0' '0' (hexDigit (n / 16)) (hexDigit (n % 16)) = some n := by
  have hall : ∀ n < 32, hexUnit? '0' '0' (hexDigit (n / 16)) (hexDigit (n % 16)) = some n := by decide
  exact hall n h

theorem reads_hexUnit {a b c d : Char} {n : Nat} (h : hexUnit? a b c d = some n) (s : Text) :
    Reads (hexUnit (a :: b :: c :: d :: s)) n s := by
  have hlength : ¬Text.byteLength (a :: b :: c :: d :: s) < 4 := by
    have ha := a.utf8Size_pos
    have hb := b.utf8Size_pos
    have hc := c.utf8Size_pos
    have hd := d.utf8Size_pos
    simp only [Text.byteLength_cons]
    omega
  unfold hexUnit
  rw [if_neg hlength]
  dsimp only
  rw [h]
  exact ⟨_, rfl⟩

/-- A control character is read from its code. -/
theorem reads_escape_control (h : c.toNat < 32) (s : Text) :
    Reads (escape ('u' :: '0' :: '0' :: hexDigit (c.toNat / 16) :: hexDigit (c.toNat % 16) :: s))
      c s := by
  obtain ⟨hlt, hunit⟩ := reads_hexUnit (hexUnit?_control h) s
  have hleading : isLeadingSurrogate c.toNat = false := by
    simp only [isLeadingSurrogate, Bool.and_eq_false_iff, decide_eq_false_iff_not]
    omega
  have htrailing : isTrailingSurrogate c.toNat = false := by
    simp only [isTrailingSurrogate, Bool.and_eq_false_iff, decide_eq_false_iff_not]
    omega
  have hcode : Reads (unicodeEscape
      ('0' :: '0' :: hexDigit (c.toNat / 16) :: hexDigit (c.toNat % 16) :: s)) c s := by
    unfold unicodeEscape
    rw [hunit]
    dsimp only
    rw [htrailing, hleading, if_neg Bool.false_ne_true, Bool.not_false, if_pos rfl, Char.ofNat_toNat]
    exact ⟨hlt, rfl⟩
  obtain ⟨hlt', hcode⟩ := hcode
  unfold escape
  dsimp only
  have hu : escapedChar? 'u' = none := rfl
  rw [hu]
  dsimp only
  rw [if_pos rfl, hcode]
  exact ⟨_, rfl⟩

theorem reads_stringBody_escape (hc : Reads (escape s) c u) (ht : Reads (stringBody u) t rest) :
    Reads (stringBody ('\\' :: s)) (c :: t) rest := by
  obtain ⟨_, hc⟩ := hc
  obtain ⟨_, ht⟩ := ht
  rw [stringBody, hc]
  dsimp only
  rw [ht]
  exact ⟨_, rfl⟩

theorem reads_stringBody_plain (hquote : c ≠ '\x22') (hslash : c ≠ '\\') (hc : ¬c.toNat < 32)
    (ht : Reads (stringBody s) t rest) : Reads (stringBody (c :: s)) (c :: t) rest := by
  obtain ⟨_, ht⟩ := ht
  rw [stringBody]
  · rw [if_neg hc, ht]
    exact ⟨_, rfl⟩
  · exact hquote
  · exact hslash

/-- A character is printed with a letter of its own, with its code or as it is. -/
theorem printChar_cases (c : Char) :
    (∃ d, escapedChar? d = some c ∧ printChar c = ['\\', d]) ∨
      (c.toNat < 32 ∧ printChar c =
        ['\\', 'u', '0', '0', hexDigit (c.toNat / 16), hexDigit (c.toNat % 16)]) ∨
      (c ≠ '\x22' ∧ c ≠ '\\' ∧ ¬c.toNat < 32 ∧ printChar c = [c]) := by
  unfold printChar
  split
  case h_8 hquote hslash _ _ _ _ _ =>
    split
    · next hc => exact .inr (.inl ⟨hc, rfl⟩)
    · next hc => exact .inr (.inr ⟨hquote, hslash, hc, rfl⟩)
  all_goals exact .inl ⟨_, rfl, rfl⟩

/-- A printed character is read as itself. -/
theorem reads_stringBody_printChar (c : Char) (ht : Reads (stringBody s) t rest) :
    Reads (stringBody (printChar c ++ s)) (c :: t) rest := by
  rcases printChar_cases c with ⟨d, hd, hprint⟩ | ⟨hc, hprint⟩ | ⟨hquote, hslash, hc, hprint⟩
  · rw [hprint]
    exact reads_stringBody_escape (reads_escape_of_escapedChar? hd s) ht
  · rw [hprint]
    exact reads_stringBody_escape (reads_escape_control hc s) ht
  · rw [hprint]
    exact reads_stringBody_plain hquote hslash hc ht

/-- **A printed string is read as itself.** -/
theorem reads_stringBody (t rest : Text) :
    Reads (stringBody (t.flatMap printChar ++ '\x22' :: rest)) t rest := by
  induction t with
  | nil =>
    rw [List.flatMap_nil, List.nil_append, stringBody]
    exact ⟨_, rfl⟩
  | cons c t ih =>
    rw [List.flatMap_cons, List.append_assoc]
    exact reads_stringBody_printChar c ih

end Strings

/-! ## Values -/

section Values

variable {depth : Nat} {first : Bool} {c : Char} {key s s' t rest after : Text} {v : Value}
  {vs : List Value} {ms : List (Text × Value)}

theorem word_append (expected rest : Text) : word expected (expected ++ rest) = .ok rest := by
  induction expected with
  | nil => rfl
  | cons e expected ih => rw [List.cons_append, word, if_pos rfl, ih]

theorem reads_upTo (v : Text → Value) (h : rest.length < t.length) :
    Reads (Reading.upTo t v (.ok rest)) (v (t.take (t.length - rest.length))) rest := by
  unfold Reading.upTo
  dsimp only
  rw [dif_pos h]
  exact ⟨h, rfl⟩

/-- The words that are values, each with its first letter apart. -/
inductive IsWord : Char → Text → Value → Prop
  | null : IsWord 'n' "ull".toList .null
  | true : IsWord 't' "rue".toList (.bool true)
  | false : IsWord 'f' "alse".toList (.bool false)

theorem reads_value_word {expected : Text} (hw : IsWord c expected v)
    (h : skipBlanks t = c :: (expected ++ rest)) : Reads (value depth t) v rest := by
  have hlt : rest.length < (c :: (expected ++ rest)).length := by
    rw [List.length_cons, List.length_append]
    omega
  obtain ⟨_, hread⟩ := reads_upTo (fun _ => v) hlt
  rw [value]
  split
  · next ht _ => cases ht.symm.trans h
  · next ht _ =>
    obtain ⟨rfl, rfl⟩ := List.cons.inj (ht.symm.trans h)
    cases hw
    all_goals
      dsimp only
      rw [word_append, hread]
      exact ⟨_, rfl⟩

theorem reads_value_string (h : skipBlanks t = '\x22' :: s) (hs : Reads (stringBody s) s' rest) :
    Reads (value depth t) (.string s') rest := by
  obtain ⟨_, hs⟩ := hs
  rw [value]
  split
  · next ht _ => cases ht.symm.trans h
  · next ht _ =>
    obtain ⟨rfl, rfl⟩ := List.cons.inj (ht.symm.trans h)
    dsimp only
    rw [hs]
    exact ⟨_, rfl⟩

theorem reads_value_array (h : skipBlanks t = '[' :: s)
    (hvs : Reads (elements depth true s) vs rest) :
    Reads (value (depth + 1) t) (.array vs) rest := by
  obtain ⟨_, hvs⟩ := hvs
  rw [value]
  split
  · next ht _ => cases ht.symm.trans h
  · next ht _ =>
    obtain ⟨rfl, rfl⟩ := List.cons.inj (ht.symm.trans h)
    dsimp only
    rw [hvs]
    exact ⟨_, rfl⟩

theorem reads_value_object (h : skipBlanks t = '{' :: s)
    (hms : Reads (members depth true s) ms rest) :
    Reads (value (depth + 1) t) (.object ms) rest := by
  obtain ⟨_, hms⟩ := hms
  rw [value]
  split
  · next ht _ => cases ht.symm.trans h
  · next ht _ =>
    obtain ⟨rfl, rfl⟩ := List.cons.inj (ht.symm.trans h)
    dsimp only
    rw [hms]
    exact ⟨_, rfl⟩

/-! ### Elements -/

theorem reads_elements_close (h : skipBlanks t = ']' :: rest) :
    Reads (elements depth first t) [] rest := by
  rw [elements]
  split
  · next ht _ => cases ht.symm.trans h
  · next ht _ =>
    obtain ⟨-, rfl⟩ := List.cons.inj (ht.symm.trans h)
    exact ⟨_, rfl⟩
  · next hc ht _ => exact absurd (List.cons.inj (ht.symm.trans h)).1 hc

theorem reads_elements_first (h : skipBlanks t = c :: s) (hc : c ≠ ']')
    (hv : Reads (value depth (c :: s)) v rest) (hvs : Reads (elements depth false rest) vs after) :
    Reads (elements depth true t) (v :: vs) after := by
  obtain ⟨_, hv⟩ := hv
  obtain ⟨_, hvs⟩ := hvs
  rw [elements]
  split
  · next ht _ => cases ht.symm.trans h
  · next ht _ => exact absurd (List.cons.inj (ht.symm.trans h)).1.symm hc
  · next ht _ =>
    obtain ⟨rfl, rfl⟩ := List.cons.inj (ht.symm.trans h)
    rw [if_pos rfl, hv]
    dsimp only
    rw [hvs]
    exact ⟨_, rfl⟩

theorem reads_elements_next (h : skipBlanks t = ',' :: s) (hs : skipBlanks s = c :: s')
    (hc : c ≠ ']') (hv : Reads (value depth s) v rest)
    (hvs : Reads (elements depth false rest) vs after) :
    Reads (elements depth false t) (v :: vs) after := by
  obtain ⟨_, hv⟩ := hv
  obtain ⟨_, hvs⟩ := hvs
  rw [elements]
  split
  · next ht _ => cases ht.symm.trans h
  · next ht _ => cases ht.symm.trans h
  · next ht _ =>
    obtain ⟨rfl, rfl⟩ := List.cons.inj (ht.symm.trans h)
    dsimp only
    rw [if_neg Bool.false_ne_true, if_pos rfl, hs]
    split
    · next he => cases he
    · next he => exact absurd (List.cons.inj he).1 hc
    · rw [hv]
      dsimp only
      rw [hvs]
      exact ⟨_, rfl⟩

/-! ### Members -/

theorem reads_members_close (h : skipBlanks t = '}' :: rest) :
    Reads (members depth first t) [] rest := by
  rw [members]
  split
  · next ht _ => cases ht.symm.trans h
  · next ht _ =>
    obtain ⟨-, rfl⟩ := List.cons.inj (ht.symm.trans h)
    exact ⟨_, rfl⟩
  · next hc ht _ => exact absurd (List.cons.inj (ht.symm.trans h)).1 hc

theorem reads_members_first (h : skipBlanks t = '\x22' :: s) (hms : Reads (member depth s) ms rest) :
    Reads (members depth true t) ms rest := by
  obtain ⟨_, hms⟩ := hms
  rw [members]
  split
  · next ht _ => cases ht.symm.trans h
  · next ht _ => cases ht.symm.trans h
  · next ht _ =>
    obtain ⟨rfl, rfl⟩ := List.cons.inj (ht.symm.trans h)
    rw [if_pos rfl, if_pos rfl, hms]
    exact ⟨_, rfl⟩

theorem reads_keyMark (h : skipBlanks t = '\x22' :: s) : Reads (keyMark t) () s := by
  unfold keyMark
  -- what the match depends on is rewritten together with the bound on its length
  generalize length_skipBlanks_le t = hskip
  dsimp only
  revert hskip
  rw [h]
  intro hskip
  exact ⟨_, rfl⟩

theorem reads_members_next (h : skipBlanks t = ',' :: s) (hs : skipBlanks s = '\x22' :: s')
    (hms : Reads (member depth s') ms rest) : Reads (members depth false t) ms rest := by
  obtain ⟨_, hms⟩ := hms
  obtain ⟨_, hkey⟩ := reads_keyMark hs
  rw [members]
  split
  · next ht _ => cases ht.symm.trans h
  · next ht _ => cases ht.symm.trans h
  · next ht _ =>
    obtain ⟨rfl, rfl⟩ := List.cons.inj (ht.symm.trans h)
    dsimp only
    rw [if_neg Bool.false_ne_true, if_pos rfl, hkey]
    dsimp only
    rw [hms]
    exact ⟨_, rfl⟩

theorem reads_member (hkey : Reads (stringBody t) key s) (h : skipBlanks s = ':' :: s')
    (hv : Reads (value depth s') v rest) (hms : Reads (members depth false rest) ms after) :
    Reads (member depth t) ((key, v) :: ms) after := by
  obtain ⟨_, hkey⟩ := hkey
  obtain ⟨_, hv⟩ := hv
  obtain ⟨_, hms⟩ := hms
  rw [member, hkey]
  dsimp only
  split
  · next ht _ => cases ht.symm.trans h
  · next ht _ =>
    obtain ⟨-, rfl⟩ := List.cons.inj (ht.symm.trans h)
    rw [hv]
    dsimp only
    rw [hms]
    exact ⟨_, rfl⟩
  · next hc ht _ => exact absurd (List.cons.inj (ht.symm.trans h)).1 hc

/-! ### Printed values -/

/-- The values without numbers whose arrays and objects are not nested deeper than `depth`. -/
inductive Value.Readable : (depth : Nat) → Value → Prop
  | null {depth : Nat} : Readable depth .null
  | bool {depth : Nat} (b : Bool) : Readable depth (.bool b)
  | string {depth : Nat} (t : Text) : Readable depth (.string t)
  | array {depth : Nat} {vs : List Value} :
    (∀ v ∈ vs, Readable depth v) → Readable (depth + 1) (.array vs)
  | object {depth : Nat} {ms : List (Text × Value)} :
    (∀ m ∈ ms, Readable depth m.2) → Readable (depth + 1) (.object ms)

/-- A printed value does not begin with a blank or with the bracket that closes an array. -/
theorem Value.Readable.exists_print_eq (h : v.Readable depth) (level : Nat) :
    ∃ c s, v.print level = c :: s ∧ isBlank c = false ∧ c ≠ ']' := by
  cases h with
  | null => exact ⟨_, _, rfl, rfl, by decide⟩
  | bool b => cases b <;> exact ⟨_, _, rfl, rfl, by decide⟩
  | string t => exact ⟨_, _, rfl, rfl, by decide⟩
  | @array _ vs _ => cases vs <;> exact ⟨_, _, rfl, rfl, by decide⟩
  | @object _ ms _ => cases ms <;> exact ⟨_, _, rfl, rfl, by decide⟩

theorem Value.Readable.skipBlanks_print (h : v.Readable depth) (level : Nat) (rest : Text) :
    skipBlanks (v.print level ++ rest) = v.print level ++ rest := by
  obtain ⟨c, s, hprint, hc, -⟩ := h.exists_print_eq level
  rw [hprint, List.cons_append, skipBlanks_of_not_isBlank hc]

/-- A value comes back when it is printed on a level and read, with whatever follows it. -/
def ReadsBack (depth level : Nat) (v : Value) : Prop :=
  ∀ t rest, skipBlanks t = v.print level ++ rest → Reads (value depth t) v rest

/-- The elements after the first. -/
theorem reads_printElements {level : Nat} (outer : Nat) (hvs : ∀ v ∈ vs, v.Readable depth)
    (hback : ∀ v ∈ vs, ReadsBack depth level v) (rest : Text) :
    Reads (elements depth false (printElements level vs ++ newline outer ++ ']' :: rest)) vs rest := by
  induction vs with
  | nil =>
    apply reads_elements_close
    rw [printElements, List.nil_append, skipBlanks_newline, skipBlanks_of_not_isBlank rfl]
  | cons v vs ih =>
    obtain ⟨c, s, hprint, -, hc⟩ := (hvs v List.mem_cons_self).exists_print_eq level
    let more := printElements level vs ++ newline outer ++ ']' :: rest
    have hv : skipBlanks (newline level ++ v.print level ++ more) = v.print level ++ more := by
      rw [List.append_assoc, skipBlanks_newline, (hvs v List.mem_cons_self).skipBlanks_print]
    have htext : printElements level (v :: vs) ++ newline outer ++ ']' :: rest =
        ',' :: (newline level ++ v.print level ++ more) := by
      simp [printElements, more]
    rw [htext]
    exact reads_elements_next (skipBlanks_of_not_isBlank rfl _)
      (hv.trans (by rw [hprint, List.cons_append])) hc
      (hback v List.mem_cons_self _ more hv)
      (ih (fun w hw => hvs w (List.mem_cons_of_mem v hw)) fun w hw =>
        hback w (List.mem_cons_of_mem v hw))

/-- A member after the quotation mark of its key. -/
theorem reads_member_print {level : Nat} (hv : v.Readable depth) (hback : ReadsBack depth level v)
    (hms : Reads (members depth false s) ms rest) :
    Reads (member depth (key.flatMap printChar ++ '\x22' :: ':' :: ' ' :: (v.print level ++ s)))
      ((key, v) :: ms) rest := by
  have hvalue : skipBlanks (' ' :: (v.print level ++ s)) = v.print level ++ s := by
    rw [skipBlanks_cons rfl, hv.skipBlanks_print]
  exact reads_member (reads_stringBody key _) (skipBlanks_of_not_isBlank rfl _)
    (hback _ s hvalue) hms

/-- The members after the first. -/
theorem reads_printMembers {level : Nat} (outer : Nat) (hms : ∀ m ∈ ms, m.2.Readable depth)
    (hback : ∀ m ∈ ms, ReadsBack depth level m.2) (rest : Text) :
    Reads (members depth false (printMembers level ms ++ newline outer ++ '}' :: rest)) ms rest := by
  induction ms with
  | nil =>
    apply reads_members_close
    rw [printMembers, List.nil_append, skipBlanks_newline, skipBlanks_of_not_isBlank rfl]
  | cons m ms ih =>
    obtain ⟨key, v⟩ := m
    let more := printMembers level ms ++ newline outer ++ '}' :: rest
    have htext : printMembers level ((key, v) :: ms) ++ newline outer ++ '}' :: rest =
        ',' :: (newline level ++ '\x22' :: (key.flatMap printChar ++
          '\x22' :: ':' :: ' ' :: (v.print level ++ more))) := by
      simp [printMembers, printString, more]
    rw [htext]
    refine reads_members_next (skipBlanks_of_not_isBlank rfl _) ?_
      (reads_member_print (hms _ List.mem_cons_self) (hback _ List.mem_cons_self)
        (ih (fun n hn => hms n (List.mem_cons_of_mem _ hn)) fun n hn =>
          hback n (List.mem_cons_of_mem _ hn)))
    rw [skipBlanks_newline, skipBlanks_of_not_isBlank rfl]

/-- **A printed value is read as itself**, if it has no numbers and is not nested too deeply. -/
theorem reads_value_print (h : v.Readable depth) (level : Nat) : ReadsBack depth level v := by
  induction h generalizing level with
  | null => exact fun t rest ht => reads_value_word .null ht
  | bool b =>
    intro t rest ht
    cases b with
    | true => exact reads_value_word .true ht
    | false => exact reads_value_word .false ht
  | string s =>
    intro t rest ht
    refine reads_value_string (ht.trans ?_) (reads_stringBody s rest)
    simp [Value.print, printString]
  | @array depth vs hvs ih =>
    intro t rest ht
    cases vs with
    | nil => exact reads_value_array ht (reads_elements_close (skipBlanks_of_not_isBlank rfl _))
    | cons v vs =>
      obtain ⟨c, s, hprint, hblank, hc⟩ := (hvs v List.mem_cons_self).exists_print_eq (level + 1)
      let more := printElements (level + 1) vs ++ newline level ++ ']' :: rest
      have htext : (Value.array (v :: vs)).print level ++ rest =
          '[' :: (newline (level + 1) ++ c :: (s ++ more)) := by
        simp [Value.print, hprint, more]
      have hfirst : skipBlanks (c :: (s ++ more)) = v.print (level + 1) ++ more := by
        rw [skipBlanks_of_not_isBlank hblank, hprint, List.cons_append]
      refine reads_value_array (ht.trans htext) (reads_elements_first ?_ hc
        (ih v List.mem_cons_self (level + 1) _ more hfirst)
        (reads_printElements level (fun w hw => hvs w (List.mem_cons_of_mem v hw))
          (fun w hw => ih w (List.mem_cons_of_mem v hw) (level + 1)) rest))
      rw [skipBlanks_newline, skipBlanks_of_not_isBlank hblank]
  | @object depth ms hms ih =>
    intro t rest ht
    cases ms with
    | nil => exact reads_value_object ht (reads_members_close (skipBlanks_of_not_isBlank rfl _))
    | cons m ms =>
      obtain ⟨key, v⟩ := m
      let more := printMembers (level + 1) ms ++ newline level ++ '}' :: rest
      have htext : (Value.object ((key, v) :: ms)).print level ++ rest =
          '{' :: (newline (level + 1) ++ '\x22' :: (key.flatMap printChar ++
            '\x22' :: ':' :: ' ' :: (v.print (level + 1) ++ more))) := by
        simp [Value.print, printString, more]
      refine reads_value_object (ht.trans htext) (reads_members_first ?_
        (reads_member_print (hms _ List.mem_cons_self) (ih _ List.mem_cons_self (level + 1))
          (reads_printMembers level (fun n hn => hms n (List.mem_cons_of_mem _ hn))
            (fun n hn => ih n (List.mem_cons_of_mem _ hn) (level + 1)) rest)))
      rw [skipBlanks_newline, skipBlanks_of_not_isBlank rfl]

end Values

end TreeQuery.Json
