import ClockedFormula.Text.CharacterSet
/-!
# White space and trimming

Text that stands for a number or a truth value may be padded on both sides with any character of
Unicode's property `White_Space`.  The zero-width space is not one of them.
-/

namespace ClockedFormula

namespace Text

/-- The Unicode property `White_Space`. -/
def whiteSpace : CharacterSet where
  ranges :=
    [(0x9, 0xD), (0x20, 0x20), (0x85, 0x85), (0xA0, 0xA0), (0x1680, 0x1680), (0x2000, 0x200A),
     (0x2028, 0x2029), (0x202F, 0x202F), (0x205F, 0x205F), (0x3000, 0x3000)]

def isBlank (c : Char) : Bool := whiteSpace.contains c

/-- The characters between the padding on the left and the padding on the right. -/
def trimChars (text : List Char) : List Char :=
  ((text.dropWhile isBlank).reverse.dropWhile isBlank).reverse

/-- Text without its padding on either side. -/
def trim (text : String) : String := String.ofList (trimChars text.toList)

/-- Padding of white space alone leaves nothing. -/
theorem dropWhile_isBlank_append (padding text : List Char)
    (blank : ∀ c ∈ padding, isBlank c = true) :
    (padding ++ text).dropWhile isBlank = text.dropWhile isBlank := by
  induction padding with
  | nil => rfl
  | cons c rest ih =>
    rw [List.cons_append, List.dropWhile_cons_of_pos (blank c List.mem_cons_self)]
    exact ih fun d member => blank d (List.mem_cons_of_mem c member)

end Text

end ClockedFormula
