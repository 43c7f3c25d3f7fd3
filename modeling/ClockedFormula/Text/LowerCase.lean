import ClockedFormula.Text.LowerCaseTable
/-!
# Lower case

The full lower-case form of a text, independent of language.  Two letters need more than a look-up:
the capital I with a dot becomes two characters, and the capital sigma becomes the final small sigma
where it ends a word.
-/

namespace ClockedFormula

namespace Text

/-- The small letter of a capital in one of the runs, and the character itself otherwise. -/
def lowerLetter (c : Char) : Char :=
  if c.toNat < 0x80 then c.toLower else
    match caseRuns.find? fun run =>
        run.first ≤ c.toNat && c.toNat ≤ run.last && (c.toNat - run.first) % run.stride == 0 with
    | some run => Char.ofNat (c.toNat + run.distance).toNat
    | none => c

/-- Whether the nearest character that counts, reading away from a sigma, is a letter with case. -/
def meetsLetter (reading : List Char) : Bool :=
  match reading.dropWhile caseIgnorable.contains with
  | [] => false
  | c :: _ => casedLetters.contains c

/-- Lower case of the characters that are still to come, given those before them from right to
left: a sigma asks both sides whether the word goes on. -/
def lowerCaseAfter (before : List Char) : List Char → List Char
  | [] => []
  | c :: rest =>
    let lower :=
      if c = 'Σ' then [if meetsLetter before && !meetsLetter rest then 'ς' else 'σ']
      else if c = 'İ' then ['i', '\u0307']
      else [lowerLetter c]
    lower ++ lowerCaseAfter (c :: before) rest

/-- The full lower-case form of a text. -/
def lowerCase (text : String) : String := String.ofList (lowerCaseAfter [] text.toList)

/-- Lower case of the letters A to Z alone. -/
def lowerCaseAscii (text : String) : String := String.ofList (text.toList.map Char.toLower)

/-- Equality up to the case of the letters A to Z. -/
def equalIgnoringAsciiCase (left right : String) : Bool :=
  lowerCaseAscii left == lowerCaseAscii right

end Text

end ClockedFormula
