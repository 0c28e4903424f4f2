import TreeQuery.Json.Number
import TreeQuery.Json.Value

/-!
# Reading JSON

The reader goes through the text from left to right and stops at the first fault. Arrays and objects
may be nested to a depth of 127.

## Termination

Each reading hands on a rest that is shorter than the text it was given (`Reading.shorter`), and
the functions on values call one another on such rests only, except that the first element of an
array begins where its elements do; so `elements` and `members` count one more than twice the length
of their text.
-/

namespace TreeQuery.Json

/-- What was read from the front of a text, and the rest of the text. -/
structure Reading (α : Type) (t : Text) where
  value : α
  rest : Text
  shorter : rest.length < t.length

/-- A reading of what is left of a text is a reading of the text. -/
def Reading.widen {α : Type} {s t : Text} (h : s.length ≤ t.length) (r : Reading α s) :
    Reading α t :=
  ⟨r.value, r.rest, Nat.lt_of_lt_of_le r.shorter h⟩

/-- The greatest nesting depth of arrays and objects. -/
def depthLimit : Nat := 127

/-- Whether a character may stand between the parts of a JSON text. -/
def isBlank (c : Char) : Bool := c = ' ' || c = '\n' || c = '\t' || c = '\r'

/-- The text without the blanks at its front. -/
def skipBlanks (t : Text) : Text := t.dropWhile isBlank

theorem length_skipBlanks_le (t : Text) : (skipBlanks t).length ≤ t.length :=
  (List.dropWhile_sublist isBlank).length_le

/-! ## Strings -/

/-- Whether a number is the first half of a surrogate pair. -/
def isLeadingSurrogate (n : Nat) : Bool := 0xD800 ≤ n && n ≤ 0xDBFF

/-- Whether a number is the second half of a surrogate pair. -/
def isTrailingSurrogate (n : Nat) : Bool := 0xDC00 ≤ n && n ≤ 0xDFFF

/-- The value of a hexadecimal digit. -/
def hexDigit? (c : Char) : Option Nat :=
  if c.isDigit then some (c.toNat - '0'.toNat)
  else if 'a' ≤ c ∧ c ≤ 'f' then some (c.toNat - 'a'.toNat + 10)
  else if 'A' ≤ c ∧ c ≤ 'F' then some (c.toNat - 'A'.toNat + 10)
  else none

/-- The number that four hexadecimal digits spell. -/
def hexUnit? (a b c d : Char) : Option Nat := do
  return ((← hexDigit? a) * 16 + (← hexDigit? b)) * 256 + (← hexDigit? c) * 16 + (← hexDigit? d)

/-- Reads four hexadecimal digits. Four bytes are looked at, whatever characters they belong to. -/
def hexUnit (t : Text) : Except Fault (Reading Nat t) :=
  if t.byteLength < 4 then .error (.before .endInString [])
  else
    let invalid : Fault := ⟨.invalidEscape, t.byteLength - 4⟩
    match t with
    | a :: b :: c :: d :: rest =>
      match hexUnit? a b c d with
      | some n => .ok ⟨n, rest, by simp only [List.length_cons]; omega⟩
      | none => .error invalid
    | _ => .error invalid

/-- Reads the character of an escape after `\u`. A character beyond 16 bits takes two escapes. -/
def unicodeEscape (t : Text) : Except Fault (Reading Char t) :=
  match hexUnit t with
  | .error fault => .error fault
  | .ok ⟨first, rest, h⟩ =>
    if isTrailingSurrogate first then .error (.before .loneSurrogate rest)
    else if !isLeadingSurrogate first then .ok ⟨Char.ofNat first, rest, h⟩
    else match rest, h with
      | '\\' :: 'u' :: rest, h =>
        match hexUnit rest with
        | .error fault => .error fault
        | .ok ⟨second, rest, h'⟩ =>
          if isTrailingSurrogate second then
            let code := 0x10000 + (first - 0xD800) * 0x400 + (second - 0xDC00)
            .ok ⟨Char.ofNat code, rest, by simp only [List.length_cons] at h; omega⟩
          else .error (.before .loneSurrogate rest)
      | ['\\'], _ | [], _ => .error (.before .endInString [])
      | '\\' :: rest, _ => .error (.past .unexpectedEndOfEscape rest)
      | rest, _ => .error (.past .unexpectedEndOfEscape rest)

/-- The character that a letter stands for after a backslash. -/
def escapedChar? : Char → Option Char
  | '\x22' => some '\x22'
  | '\\' => some '\\'
  | '/' => some '/'
  | 'b' => some '\x08'
  | 'f' => some '\x0c'
  | 'n' => some '\n'
  | 'r' => some '\r'
  | 't' => some '\t'
  | _ => none

/-- Reads an escape after its backslash. -/
def escape (t : Text) : Except Fault (Reading Char t) :=
  match t with
  | [] => .error (.before .endInString [])
  | c :: rest =>
    match escapedChar? c with
    | some d => .ok ⟨d, rest, by simp⟩
    | none =>
      if c = 'u' then (unicodeEscape rest).map (·.widen (by simp))
      else .error (.past .invalidEscape (c :: rest))

/-- Reads a string after its opening quotation mark. -/
def stringBody (t : Text) : Except Fault (Reading Text t) :=
  match t with
  | [] => .error (.before .endInString [])
  | '\x22' :: rest => .ok ⟨[], rest, by simp⟩
  | '\\' :: rest =>
    match escape rest with
    | .error fault => .error fault
    | .ok ⟨c, rest', h⟩ =>
      (stringBody rest').map fun r =>
        ⟨c :: r.value, r.rest, by have := r.shorter; simp only [List.length_cons]; omega⟩
  | c :: rest =>
    if c.toNat < 32 then .error (.before .controlCharacter rest)
    else (stringBody rest).map fun r =>
      ⟨c :: r.value, r.rest, by have := r.shorter; simp only [List.length_cons]; omega⟩
termination_by t.length
decreasing_by all_goals simp only [List.length_cons]; omega

/-- Reads the quotation mark of a key that must come after a comma. -/
def keyMark (t : Text) : Except Fault (Reading Unit t) :=
  have hskip := length_skipBlanks_le t
  match skipBlanks t, hskip with
  | [], _ => .error (.before .endInValue [])
  | '\x22' :: rest, hskip => .ok ⟨(), rest, hskip⟩
  | '}' :: rest, _ => .error (.before .trailingComma rest)
  | rest, _ => .error (.past .keyMustBeString rest)

/-! ## Values -/

/-- Reads the rest of a word such as `null`, and gives what follows it. -/
def word : (expected : Text) → Text → Except Fault Text
  | [], t => .ok t
  | _ :: _, [] => .error (.before .endInValue [])
  | e :: expected, c :: rest =>
    if c = e then word expected rest else .error (.past .expectedIdent (c :: rest))

/-- The reading of a value whose written form ends where `rest` begins. -/
def Reading.upTo (t : Text) (v : Text → Value) (rest : Except Fault Text) :
    Except Fault (Reading Value t) :=
  match rest with
  | .error fault => .error fault
  | .ok rest =>
    if h : rest.length < t.length then .ok ⟨v (t.take (t.length - rest.length)), rest, h⟩
    else .error (.before .expectedValue t)

mutual

/-- Reads a value that may nest arrays and objects to the given depth. -/
def value (depth : Nat) (t : Text) : Except Fault (Reading Value t) :=
  have hskip := length_skipBlanks_le t
  match skipBlanks t, hskip with
  | [], _ => .error (.before .endInValue [])
  | c :: rest, hskip =>
    have hrest : rest.length < t.length := by simp only [List.length_cons] at hskip; omega
    match c with
    | 'n' => (Reading.upTo _ (fun _ => .null) (word "ull".toList rest)).map (·.widen hskip)
    | 't' => (Reading.upTo _ (fun _ => .bool true) (word "rue".toList rest)).map (·.widen hskip)
    | 'f' => (Reading.upTo _ (fun _ => .bool false) (word "alse".toList rest)).map (·.widen hskip)
    | '-' => (Reading.upTo ('-' :: rest) .number (unsignedNumber rest)).map (·.widen hskip)
    | '\x22' =>
      (stringBody rest).map fun r => ⟨.string r.value, r.rest, Nat.lt_trans r.shorter hrest⟩
    | '[' =>
      match depth with
      | 0 => .error (.before .tooDeep rest)
      | depth + 1 =>
        (elements depth true rest).map fun r =>
          ⟨.array r.value, r.rest, Nat.lt_trans r.shorter hrest⟩
    | '{' =>
      match depth with
      | 0 => .error (.before .tooDeep rest)
      | depth + 1 =>
        (members depth true rest).map fun r =>
          ⟨.object r.value, r.rest, Nat.lt_trans r.shorter hrest⟩
    | c =>
      if c.isDigit then
        (Reading.upTo (c :: rest) .number (unsignedNumber (c :: rest))).map (·.widen hskip)
      else .error (.past .expectedValue (c :: rest))
termination_by 2 * t.length
decreasing_by all_goals omega

/-- Reads the elements of an array up to its closing bracket. -/
def elements (depth : Nat) (first : Bool) (t : Text) : Except Fault (Reading (List Value) t) :=
  have hskip := length_skipBlanks_le t
  match skipBlanks t, hskip with
  | [], _ => .error (.before .endInList [])
  | ']' :: rest, hskip => .ok ⟨[], rest, by simp only [List.length_cons] at hskip; omega⟩
  | c :: rest, hskip =>
    have hrest : rest.length < t.length := by simp only [List.length_cons] at hskip; omega
    if first then
      match value depth (c :: rest) with
      | .error fault => .error fault
      | .ok ⟨v, rest', h⟩ =>
        (elements depth false rest').map fun r =>
          ⟨v :: r.value, r.rest, by have := r.shorter; omega⟩
    else if c = ',' then
      match skipBlanks rest with
      | [] => .error (.before .endInValue [])
      | ']' :: more => .error (.before .trailingComma more)
      | _ =>
        match value depth rest with
        | .error fault => .error fault
        | .ok ⟨v, rest', h⟩ =>
          (elements depth false rest').map fun r =>
            ⟨v :: r.value, r.rest, by have := r.shorter; omega⟩
    else .error (.past .expectedListCommaOrEnd (c :: rest))
termination_by 2 * t.length + 1
decreasing_by all_goals omega

/-- Reads the members of an object up to its closing brace. -/
def members (depth : Nat) (first : Bool) (t : Text) :
    Except Fault (Reading (List (Text × Value)) t) :=
  have hskip := length_skipBlanks_le t
  match skipBlanks t, hskip with
  | [], _ => .error (.before .endInObject [])
  | '}' :: rest, hskip => .ok ⟨[], rest, by simp only [List.length_cons] at hskip; omega⟩
  | c :: rest, hskip =>
    have hrest : rest.length < t.length := by simp only [List.length_cons] at hskip; omega
    if first then
      if c = '\x22' then
        (member depth rest).map fun r => ⟨r.value, r.rest, Nat.lt_trans r.shorter hrest⟩
      else .error (.past .keyMustBeString (c :: rest))
    else if c = ',' then
      match keyMark rest with
      | .error fault => .error fault
      | .ok ⟨_, more, h⟩ =>
        (member depth more).map fun r => ⟨r.value, r.rest, by have := r.shorter; omega⟩
    else .error (.past .expectedObjectCommaOrEnd (c :: rest))
termination_by 2 * t.length + 1
decreasing_by all_goals omega

/-- Reads a member after the quotation mark of its key, and all members after it. -/
def member (depth : Nat) (t : Text) : Except Fault (Reading (List (Text × Value)) t) :=
  match stringBody t with
  | .error fault => .error fault
  | .ok ⟨key, rest, hkey⟩ =>
    have hskip := length_skipBlanks_le rest
    match skipBlanks rest, hskip with
    | [], _ => .error (.before .endInObject [])
    | ':' :: rest', hskip =>
      have hrest : rest'.length < t.length := by simp only [List.length_cons] at hskip; omega
      match value depth rest' with
      | .error fault => .error fault
      | .ok ⟨v, rest'', h⟩ =>
        (members depth false rest'').map fun r =>
          ⟨(key, v) :: r.value, r.rest, by have := r.shorter; omega⟩
    | c :: rest', _ => .error (.past .expectedColon (c :: rest'))
termination_by 2 * t.length
decreasing_by all_goals omega

end

end TreeQuery.Json
