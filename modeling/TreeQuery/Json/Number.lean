import TreeQuery.Integer
import TreeQuery.Json.Fault

/-!
# Numbers in JSON texts

A number must have the form of the JSON grammar, and its magnitude must not exceed that of a binary
floating-point number of 64 bits. The magnitude is judged from at most 64 bits of leading digits
together with a power of ten; both are rounded to 53 bits before they are multiplied.
-/

namespace TreeQuery.Json

/-! ## Magnitude -/

/-- A number rounded to 53 significant bits, a half going to the even neighbour. -/
def roundTo53Bits (n : Nat) : Nat :=
  let excess := n.log2 + 1 - 53
  let unit := 1 <<< excess
  let quotient := n / unit
  let twice := 2 * (n % unit)
  if twice < unit ∨ (twice = unit ∧ quotient % 2 = 0) then quotient * unit
  else (quotient + 1) * unit

/-- Whether `significand * 10 ^ exponent` is too large for 64 bits of floating point. -/
def isOutOfRange (significand : Nat) (exponent : Int) : Bool :=
  match exponent with
  | .negSucc _ => false
  | .ofNat e =>
    significand ≠ 0 &&
      (308 < e || (1 <<< 1024) - (1 <<< 970) ≤
        roundTo53Bits significand * roundTo53Bits (Nat.pow 10 e))

/-- The value of a digit, zero for any other character. -/
def digitValue (c : Char) : Nat := (Integer.digit? c).getD 0

/-- Takes digits in after `n` as long as the number fits into 64 bits, and counts those taken. -/
def takeDigits (n taken : Nat) : Text → Nat × Nat
  | [] => (n, taken)
  | c :: rest =>
    let next := 10 * n + digitValue c
    if next < 0x10000000000000000 then takeDigits next (taken + 1) rest else (n, taken)

/-- The exponent that digits spell after `n`, or what follows the first digit that makes it exceed
31 bits. -/
def exponentOf (n : Nat) : Text → Except Text Nat
  | [] => .ok n
  | c :: rest =>
    let next := 10 * n + digitValue c
    if next < 0x80000000 then exponentOf next rest else .error rest

/-! ## Form -/

/-- Checks an exponent, if there is one, and the magnitude; gives what follows the number. -/
def exponentPart (significand : Nat) (scale : Int) (t : Text) : Except Fault Text :=
  let finish (scale : Int) (rest : Text) : Except Fault Text :=
    if isOutOfRange significand scale then .error (.before .numberOutOfRange rest) else .ok rest
  let exponent (t : Text) : Except Fault Text :=
    let (negative, digits) := match t with
      | '-' :: rest => (true, rest)
      | '+' :: rest => (false, rest)
      | _ => (false, t)
    match digits, digits.span Char.isDigit with
    | [], _ => .error (.before .endInValue [])
    | _, ([], _) => .error (.past .invalidNumber digits)
    | _, (run, rest) =>
      match exponentOf 0 run with
      | .ok e => finish (if negative then scale - e else scale + e) rest
      | .error more =>
        if significand ≠ 0 ∧ !negative then .error (.before .numberOutOfRange (more ++ rest))
        else .ok rest
  match t with
  | 'e' :: rest => exponent rest
  | 'E' :: rest => exponent rest
  | _ => finish scale t

/-- Checks a fraction, if there is one, and what follows it. -/
def fractionPart (significand : Nat) (scale : Int) (t : Text) : Except Fault Text :=
  match t with
  | '.' :: rest =>
    match rest.span Char.isDigit with
    | ([], []) => .error (.before .endInValue [])
    | ([], more) => .error (.past .invalidNumber more)
    | (run, more) =>
      let (significand, taken) := takeDigits significand 0 run
      exponentPart significand (scale - taken) more
  | _ => exponentPart significand scale t

/-- Checks a number without its sign, and gives what follows it. -/
def unsignedNumber (t : Text) : Except Fault Text :=
  match t with
  | [] => .error (.before .endInValue [])
  | '0' :: rest =>
    if rest.head?.any Char.isDigit then .error (.past .invalidNumber rest)
    else fractionPart 0 0 rest
  | c :: _ =>
    if c.isDigit then
      let (run, rest) := t.span Char.isDigit
      let (significand, taken) := takeDigits 0 0 run
      fractionPart significand (run.length - taken : Nat) rest
    else .error (.past .invalidNumber t)

end TreeQuery.Json
