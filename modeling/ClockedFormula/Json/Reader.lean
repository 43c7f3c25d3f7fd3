import ClockedFormula.Json
import ClockedFormula.Json.Token
/-!
# Reading a JSON document

Tokens are gathered into a tree from left to right.  Every reading function returns what it read
together with the tokens behind it.  The depth of nesting is bounded by the number of tokens, which is
what the recursion counts down.
-/

namespace ClockedFormula

namespace Json

mutual

/-- Read one document. -/
def read? : (budget : Nat) → List Token → Option (Json × List Token)
  | 0, _ => none
  | _, .null :: rest => some (null, rest)
  | _, .boolean b :: rest => some (boolean b, rest)
  | _, .number literal :: rest => some (number literal, rest)
  | _, .text content :: rest => some (text content, rest)
  | _, .openArray :: .closeArray :: rest => some (array [], rest)
  | budget + 1, .openArray :: rest =>
    (readItems? budget rest).map fun (items, after) => (array items, after)
  | _, .openObject :: .closeObject :: rest => some (object [], rest)
  | budget + 1, .openObject :: rest =>
    (readMembers? budget rest).map fun (members, after) => (object members, after)
  | _, _ => none

/-- Read the items of an array to its end; there is at least one. -/
def readItems? : (budget : Nat) → List Token → Option (List Json × List Token)
  | 0, _ => none
  | budget + 1, tokens =>
    match read? budget tokens with
    | some (item, .closeArray :: rest) => some ([item], rest)
    | some (item, .comma :: rest) =>
      (readItems? budget rest).map fun (items, after) => (item :: items, after)
    | _ => none

/-- Read the members of an object to its end; there is at least one. -/
def readMembers? : (budget : Nat) → List Token → Option (List (Option String × Json) × List Token)
  | 0, _ => none
  | budget + 1, .text key :: .colon :: tokens =>
    match read? budget tokens with
    | some (value, .closeObject :: rest) => some ([(key, value)], rest)
    | some (value, .comma :: rest) =>
      (readMembers? budget rest).map fun (members, after) => ((key, value) :: members, after)
    | _ => none
  | _, _ => none

end

/-- The document that a text holds, with nothing but blanks around it. -/
def ofText? (text : String) : Option Json := do
  let tokens ← Token.ofChars? text.toList
  match read? (tokens.length + 1) tokens with
  | some (json, []) => some json
  | _ => none

end Json

end ClockedFormula
