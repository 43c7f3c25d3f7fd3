import ClockedFormula.Text.CombiningMark
import ClockedFormula.Text.Unprintable
/-!
# Quoted text

Text between double quotes, in which every character can be seen.  A quote and a backslash are
escaped by a backslash, the common control characters have letters, and every other character that
could not be seen, or would be drawn on the one before it, is given by its number in base sixteen.
-/

namespace ClockedFormula

namespace Text

/-- Whether a character is given by its number. -/
def isHidden (c : Char) : Bool := unprintable.contains c || combiningMarks.contains c

/-- The characters that stand for one character between quotes. -/
def quotedChar (c : Char) : List Char :=
  match c with
  | '"' => ['\\', '"']
  | '\\' => ['\\', '\\']
  | '\n' => ['\\', 'n']
  | '\r' => ['\\', 'r']
  | '\t' => ['\\', 't']
  | '\x00' => ['\\', '0']
  | c =>
    if isHidden c then
      ['\\', 'u', '\x7b'] ++ Nat.toDigits 16 c.toNat ++ ['\x7d']
    else [c]

/-- Text between quotes, with escapes. -/
def quoted (text : String) : String :=
  String.ofList ('"' :: text.toList.flatMap quotedChar ++ ['"'])

end Text

end ClockedFormula
