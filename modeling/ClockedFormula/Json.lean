/-!
# JSON documents

The tree of a JSON document.  A number keeps its literal, because how it may be used depends on how it
was written.  A text has no content when its escapes name half of a surrogate pair alone: such a text
stands for no characters, and does no harm in a part of a document that nobody reads.
-/

namespace ClockedFormula

/-- A JSON document. -/
inductive Json where
  | null
  | boolean (b : Bool)
  | number (literal : List Char)
  | text (content : Option String)
  | array (items : List Json)
  | object (members : List (Option String × Json))

namespace Json

/-- A text that does stand for characters. -/
def ofString (s : String) : Json := text (some s)

/-- An object with the given keys. -/
def ofMembers (members : List (String × Json)) : Json :=
  object (members.map fun (key, value) => (some key, value))

end Json

end ClockedFormula
