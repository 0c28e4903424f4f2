import TreeQuery.Json.Value

/-!
# Printing JSON

Arrays and objects are printed with one element or member a line, indented by two spaces a level;
empty ones take no line. In strings only quotation marks, backslashes and control characters are
escaped.
-/

namespace TreeQuery.Json

/-- A hexadecimal digit. -/
def hexDigit (n : Nat) : Char := (Nat.toDigits 16 n).headD '0'

/-- How a character is printed in a string. -/
def printChar (c : Char) : Text :=
  match c with
  | '\x22' => ['\\', '\x22']
  | '\\' => ['\\', '\\']
  | '\x08' => ['\\', 'b']
  | '\t' => ['\\', 't']
  | '\n' => ['\\', 'n']
  | '\x0c' => ['\\', 'f']
  | '\r' => ['\\', 'r']
  | c =>
    if c.toNat < 32 then ['\\', 'u', '0', '0', hexDigit (c.toNat / 16), hexDigit (c.toNat % 16)]
    else [c]

/-- A string between quotation marks. -/
def printString (t : Text) : Text := ['\x22'] ++ t.flatMap printChar ++ ['\x22']

/-- A line break and the indentation of a level. -/
def newline (level : Nat) : Text := '\n' :: List.replicate (2 * level) ' '

mutual

/-- Prints a value inside the given number of arrays and objects. -/
def Value.print (level : Nat) : Value → Text
  | .null => "null".toList
  | .bool true => "true".toList
  | .bool false => "false".toList
  | .number literal => literal
  | .string t => printString t
  | .array [] => "[]".toList
  | .array (v :: vs) =>
    ['['] ++ newline (level + 1) ++ v.print (level + 1) ++ printElements (level + 1) vs ++
      newline level ++ [']']
  | .object [] => ['{', '}']
  | .object ((key, v) :: members) =>
    ['{'] ++ newline (level + 1) ++ printString key ++ ": ".toList ++ v.print (level + 1) ++
      printMembers (level + 1) members ++ newline level ++ ['}']

/-- Prints the elements after the first. -/
def printElements (level : Nat) : List Value → Text
  | [] => []
  | v :: vs => [','] ++ newline level ++ v.print level ++ printElements level vs

/-- Prints the members after the first. -/
def printMembers (level : Nat) : List (Text × Value) → Text
  | [] => []
  | (key, v) :: members =>
    [','] ++ newline level ++ printString key ++ ": ".toList ++ v.print level ++
      printMembers level members

end

end TreeQuery.Json
