import ClockedFormula.Json.Numeral
/-!
# The tokens of a JSON document

A document is first cut into tokens.  Blanks between tokens are spaces, tabs and the two line
characters, and nothing else.  Inside a text no control character may stand for itself, and every
escape has to be complete.
-/

namespace ClockedFormula

namespace Json

/-- A token. -/
inductive Token where
  | openArray
  | closeArray
  | openObject
  | closeObject
  | comma
  | colon
  | null
  | boolean (b : Bool)
  | number (literal : List Char)
  | text (content : Option String)

namespace Token

/-- The characters that may stand between tokens. -/
def isBlank (c : Char) : Bool := c == ' ' || c == '\n' || c == '\t' || c == '\r'

/-- The characters of number literals. -/
def isNumeric (c : Char) : Bool :=
  c.isDigit || c == '-' || c == '+' || c == '.' || c == 'e' || c == 'E'

/-! ## Texts -/

/-- A piece of a text: a character, or half of a surrogate pair from an escape. -/
inductive Piece where
  | char (c : Char)
  | half (unit : Nat)

/-- The value of a digit to base sixteen, in either case. -/
def hexDigit? (c : Char) : Option Nat :=
  if c.isDigit then some (c.toNat - '0'.toNat)
  else if 'a' ≤ c ∧ c ≤ 'f' then some (c.toNat - 'a'.toNat + 10)
  else if 'A' ≤ c ∧ c ≤ 'F' then some (c.toNat - 'A'.toNat + 10)
  else none

/-- The number of four digits to base sixteen. -/
def hexUnit? (a b c d : Char) : Option Nat := do
  let a ← hexDigit? a
  let b ← hexDigit? b
  let c ← hexDigit? c
  let d ← hexDigit? d
  return ((a * 16 + b) * 16 + c) * 16 + d

/-- The characters that a backslash and one letter stand for. -/
def shortEscape? (letter : Char) : Option Char :=
  [('"', '"'), ('\\', '\\'), ('/', '/'), ('b', '\x08'), ('f', '\x0c'), ('n', '\n'), ('r', '\r'),
    ('t', '\t')].lookup letter

/-- The pieces of a text up to its closing quote, and what follows. -/
def pieces? : List Char → Option (List Piece × List Char)
  | [] => none
  | '"' :: rest => some ([], rest)
  | '\\' :: 'u' :: a :: b :: c :: d :: rest => do
    let unit ← hexUnit? a b c d
    let (more, after) ← pieces? rest
    let piece := if 0xD800 ≤ unit ∧ unit < 0xE000 then Piece.half unit else .char (Char.ofNat unit)
    return (piece :: more, after)
  | '\\' :: letter :: rest => do
    let c ← shortEscape? letter
    let (more, after) ← pieces? rest
    return (.char c :: more, after)
  | c :: rest =>
    if c.toNat < 0x20 ∨ c = '\\' then none
    else do
      let (more, after) ← pieces? rest
      return (.char c :: more, after)

/-- The characters of a row of pieces, in which every half has its counterpart behind it. -/
def join? : List Piece → Option (List Char)
  | [] => some []
  | .char c :: rest => (join? rest).map (c :: ·)
  | .half high :: .half low :: rest =>
    if high < 0xDC00 ∧ 0xDC00 ≤ low then
      let c := Char.ofNat (0x10000 + (high - 0xD800) * 0x400 + (low - 0xDC00))
      (join? rest).map (c :: ·)
    else none
  | .half _ :: _ => none

/-! ## Cutting -/

/-- The first token of a text that does not start with a blank, and what follows it. -/
def first? : List Char → Option (Token × List Char)
  | '[' :: rest => some (openArray, rest)
  | ']' :: rest => some (closeArray, rest)
  | '\x7b' :: rest => some (openObject, rest)
  | '\x7d' :: rest => some (closeObject, rest)
  | ',' :: rest => some (comma, rest)
  | ':' :: rest => some (colon, rest)
  | 'n' :: 'u' :: 'l' :: 'l' :: rest => some (null, rest)
  | 't' :: 'r' :: 'u' :: 'e' :: rest => some (boolean true, rest)
  | 'f' :: 'a' :: 'l' :: 's' :: 'e' :: rest => some (boolean false, rest)
  | '"' :: rest => do
    let (content, after) ← pieces? rest
    return (text ((join? content).map String.ofList), after)
  | chars =>
    let literal := chars.takeWhile isNumeric
    if (Numeral.ofLiteral? literal).isSome then
      some (number literal, chars.dropWhile isNumeric)
    else none

/-- The tokens of a text, if it can be cut into tokens. -/
def ofChars? (chars : List Char) : Option (List Token) :=
  match chars with
  | [] => some []
  | c :: rest =>
    if isBlank c then ofChars? rest
    else
      match first? (c :: rest) with
      | none => none
      | some (token, after) =>
        -- A token takes up at least one character.
        if after.length < (c :: rest).length then (ofChars? after).map (token :: ·) else none
termination_by chars.length
decreasing_by
  · simp only [List.length_cons]
    omega
  · omega

end Token

end Json

end ClockedFormula
