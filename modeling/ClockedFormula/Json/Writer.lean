import ClockedFormula.Double.Shortest
import ClockedFormula.Integer
import ClockedFormula.Json
/-!
# Writing a JSON document

Documents are written without blanks.  Doubles have the fewest digits that are read back, and always
a point or a power of ten, so that they are told from integers.
-/

namespace ClockedFormula

namespace Json

/-- Doubles are positional from `1e-5` to below `1e16`, and a power of ten always has a sign. -/
def floatLayout : Double.Layout where
  tie := .halfEven
  positional := some (-5, 16)
  afterWhole := ['.', '0']
  beforePower := ['+']

/-- A double; what is no finite number becomes null. -/
def ofDouble (x : Double) : Json :=
  if x.isFinite then number (floatLayout.write x).toList else null

def ofInt (i : Int) : Json := number (Text.integerChars i)

/-- The characters that stand for one character in a text. -/
def escaped (c : Char) : List Char :=
  match c with
  | '"' => ['\\', '"']
  | '\\' => ['\\', '\\']
  | '\x08' => ['\\', 'b']
  | '\t' => ['\\', 't']
  | '\n' => ['\\', 'n']
  | '\x0c' => ['\\', 'f']
  | '\r' => ['\\', 'r']
  | c =>
    if c.toNat < 0x20 then
      ['\\', 'u', '0', '0', Nat.digitChar (c.toNat / 16), Nat.digitChar (c.toNat % 16)]
    else [c]

/-- A text in quotes. -/
def textChars (s : String) : List Char := '"' :: s.toList.flatMap escaped ++ ['"']

mutual

/-- The characters of a document. -/
def toChars : Json → List Char
  | null => ['n', 'u', 'l', 'l']
  | boolean true => ['t', 'r', 'u', 'e']
  | boolean false => ['f', 'a', 'l', 's', 'e']
  | number literal => literal
  | text content => textChars (content.getD "")
  | array items => '[' :: itemChars items ++ [']']
  | object members => '\x7b' :: memberChars members ++ ['\x7d']

/-- The items of an array, with commas between them. -/
def itemChars : List Json → List Char
  | [] => []
  | [item] => item.toChars
  | item :: items => item.toChars ++ [','] ++ itemChars items

/-- The members of an object, with commas between them. -/
def memberChars : List (Option String × Json) → List Char
  | [] => []
  | [(key, value)] => textChars (key.getD "") ++ [':'] ++ value.toChars
  | (key, value) :: members =>
    textChars (key.getD "") ++ [':'] ++ value.toChars ++ [','] ++ memberChars members

end

def toText (json : Json) : String := String.ofList json.toChars

end Json

end ClockedFormula
