import TreeQuery.Text

/-!
# Faults in JSON texts

A fault lies at a place in a text, which is kept as the number of bytes after it. People count lines
from one and, within a line, the bytes up to the place.
-/

namespace TreeQuery.Json

/-- What is wrong with a JSON text. -/
inductive Cause where
  | endInList
  | endInObject
  | endInString
  | endInValue
  | expectedColon
  | expectedListCommaOrEnd
  | expectedObjectCommaOrEnd
  | expectedIdent
  | expectedValue
  | invalidEscape
  | invalidNumber
  | numberOutOfRange
  | controlCharacter
  | keyMustBeString
  | loneSurrogate
  | trailingComma
  | trailingCharacters
  | unexpectedEndOfEscape
  | tooDeep
  deriving DecidableEq, Repr

/-- The wording of a cause. -/
def Cause.message : Cause → Text
  | endInList => "EOF while parsing a list".toList
  | endInObject => "EOF while parsing an object".toList
  | endInString => "EOF while parsing a string".toList
  | endInValue => "EOF while parsing a value".toList
  | expectedColon => "expected `:`".toList
  | expectedListCommaOrEnd => "expected `,` or `]`".toList
  | expectedObjectCommaOrEnd => "expected `,` or `\x7d`".toList
  | expectedIdent => "expected ident".toList
  | expectedValue => "expected value".toList
  | invalidEscape => "invalid escape".toList
  | invalidNumber => "invalid number".toList
  | numberOutOfRange => "number out of range".toList
  | controlCharacter =>
    "control character (\\u0000-\\u001F) found while parsing a string".toList
  | keyMustBeString => "key must be a string".toList
  | loneSurrogate => "lone leading surrogate in hex escape".toList
  | trailingComma => "trailing comma".toList
  | trailingCharacters => "trailing characters".toList
  | unexpectedEndOfEscape => "unexpected end of hex escape".toList
  | tooDeep => "recursion limit exceeded".toList

/-- A fault, with the number of bytes that follow its place. -/
structure Fault where
  cause : Cause
  remaining : Nat
  deriving DecidableEq, Repr

namespace Fault

/-- A fault before the rest of the text. -/
def before (cause : Cause) (rest : Text) : Fault := ⟨cause, rest.byteLength⟩

/-- A fault after the next byte of the rest, or at its end. -/
def past (cause : Cause) (rest : Text) : Fault := ⟨cause, rest.byteLength - 1⟩

end Fault

/-- The line and the column of the place after `index` bytes. -/
def lineColumn (line column : Nat) : (index : Nat) → Text → Nat × Nat
  | _, [] => (line, column)
  | index, c :: rest =>
    if index < c.utf8Size then (line, column + index)
    else if c = '\n' then lineColumn (line + 1) 0 (index - 1) rest
    else lineColumn line (column + c.utf8Size) (index - c.utf8Size) rest

/-- The line and the column of a fault in a text. -/
def Fault.position (fault : Fault) (t : Text) : Nat × Nat :=
  lineColumn 1 0 (t.byteLength - fault.remaining) t

end TreeQuery.Json
