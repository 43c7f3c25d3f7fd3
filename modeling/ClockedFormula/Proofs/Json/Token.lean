import ClockedFormula.Json.Token
import ClockedFormula.Json.Writer
import ClockedFormula.Proofs.Text.Numeral

namespace ClockedFormula

namespace Json

/-!
# Tokens are cut as they are written

A text in quotes is read to the quote that closes it, because every quote and every backslash inside is
written with a backslash before it.  A number has no mark at its end: it is read on as long as numeric
characters follow, so it is found again only where something else follows it.  That is all a token asks of
what stands behind it, and the marks between the parts of a document grant it.
-/

namespace Token

/-! ## Texts -/

/-- Both digits of a control character are read in its escape. -/
theorem hexUnit?_control :
    ∀ unit < 0x20, hexUnit? '0' '0' (Nat.digitChar (unit / 16)) (Nat.digitChar (unit % 16)) = some unit := by
  decide

theorem pieces?_control {c : Char} (control : c.toNat < 0x20) (rest : List Char) :
    pieces? (['\\', 'u', '0', '0', Nat.digitChar (c.toNat / 16), Nat.digitChar (c.toNat % 16)] ++ rest) =
      (pieces? rest).map fun read => (.char c :: read.1, read.2) := by
  have whole : ¬ (0xD800 ≤ c.toNat ∧ c.toNat < 0xE000) := by omega
  simp only [List.cons_append, List.nil_append, pieces?, hexUnit?_control _ control, Option.bind_eq_bind,
    Option.bind_some, if_neg whole, Char.ofNat_toNat]
  cases pieces? rest <;> rfl

theorem pieces?_short {letter c : Char} (other : letter ≠ 'u') (short : shortEscape? letter = some c)
    (rest : List Char) :
    pieces? ('\\' :: letter :: rest) = (pieces? rest).map fun read => (.char c :: read.1, read.2) := by
  rw [pieces?.eq_4 _ _ (by intro a b c d after same; exact absurd same (by simp [other]))]
  rw [short]
  cases pieces? rest <;> rfl

theorem pieces?_plain {c : Char} (quote : c ≠ '"') (backslash : c ≠ '\\') (printed : ¬ c.toNat < 0x20)
    (rest : List Char) :
    pieces? (c :: rest) = (pieces? rest).map fun read => (.char c :: read.1, read.2) := by
  have allowed : ¬ (c.toNat < 0x20 ∨ c = '\\') := by simp [backslash, printed]
  rw [pieces?.eq_5 _ _ quote (fun _ _ _ _ _ same => absurd same backslash)
    (fun _ _ same => absurd same backslash), if_neg allowed]
  cases pieces? rest <;> rfl

/-- What is written for a character is read as the character. -/
theorem pieces?_escaped (c : Char) (rest : List Char) :
    pieces? (escaped c ++ rest) = (pieces? rest).map fun read => (.char c :: read.1, read.2) := by
  unfold escaped
  split
  case h_8 quote backslash _ _ _ _ _ =>
    split
    case isTrue control => exact pieces?_control control rest
    case isFalse printed => exact pieces?_plain quote backslash printed rest
  all_goals exact pieces?_short (by decide) (by decide) rest

theorem pieces?_flatMap_escaped (chars rest : List Char) :
    pieces? (chars.flatMap escaped ++ '"' :: rest) = some (chars.map .char, rest) := by
  induction chars with
  | nil => rfl
  | cons c chars ih =>
    rw [List.flatMap_cons, List.append_assoc, pieces?_escaped, ih]
    rfl

theorem join?_map_char (chars : List Char) : join? (chars.map .char) = some chars := by
  induction chars with
  | nil => rfl
  | cons c chars ih =>
    rw [List.map_cons, join?, ih]
    rfl

theorem first?_textChars (s : String) (rest : List Char) :
    first? (textChars s ++ rest) = some (text (some s), rest) := by
  have opened : textChars s ++ rest = '"' :: (s.toList.flatMap escaped ++ '"' :: rest) := by
    simp [textChars]
  rw [opened, first?, pieces?_flatMap_escaped]
  dsimp only [Option.bind_eq_bind, Option.bind_some]
  rw [join?_map_char, Option.map_some, String.ofList_toList]
  rfl

/-! ## Numbers -/

theorem isNumeric_of_isDigit {c : Char} (digit : c.isDigit = true) : isNumeric c = true := by
  simp [isNumeric, digit]

theorem all_isNumeric_of_all_isDigit {chars : List Char} (digits : chars.all Char.isDigit = true) :
    chars.all isNumeric = true :=
  List.all_eq_true.mpr fun c member => isNumeric_of_isDigit (List.all_eq_true.mp digits c member)

theorem all_isNumeric_of_natural? {chars : List Char} (read : Text.natural? chars ≠ none) :
    chars.all isNumeric = true := by
  unfold Text.natural? at read
  split at read
  case isTrue digits => exact all_isNumeric_of_all_isDigit digits.2
  case isFalse => exact absurd rfl read

theorem all_isNumeric_of_integer? {chars : List Char} (read : Text.integer? chars ≠ none) :
    chars.all isNumeric = true := by
  unfold Text.integer? at read
  split at read
  case h_1 digits =>
    have numeric := all_isNumeric_of_natural? fun none => read (by rw [none]; rfl)
    rw [List.all_cons, numeric]
    rfl
  case h_2 digits =>
    have numeric := all_isNumeric_of_natural? fun none => read (by rw [none]; rfl)
    rw [List.all_cons, numeric]
    rfl
  case h_3 => exact all_isNumeric_of_natural? fun none => read (by rw [none]; rfl)

theorem all_isNumeric_of_power? {chars : List Char} (read : Numeral.power? chars ≠ none) :
    chars.all isNumeric = true := by
  unfold Numeral.power? at read
  split at read
  case h_1 => rfl
  case h_2 mark rest =>
    split at read
    case isTrue marked =>
      have numeric := all_isNumeric_of_integer? fun none => read (by rw [none]; rfl)
      rw [List.all_cons, numeric]
      rcases marked with rfl | rfl <;> rfl
    case isFalse => exact absurd rfl read

/-- A part of digits and what follows them is numeric when the latter is. -/
theorem all_isNumeric_of_dropWhile {chars : List Char}
    (numeric : (chars.dropWhile Char.isDigit).all isNumeric = true) : chars.all isNumeric = true := by
  rw [← List.takeWhile_append_dropWhile (p := Char.isDigit) (l := chars), List.all_append, numeric,
    Bool.and_true]
  exact all_isNumeric_of_all_isDigit List.all_takeWhile

theorem all_isNumeric_of_splitFraction? {chars rest : List Char} {fraction : Option (List Char)}
    (found : Numeral.splitFraction? chars = some (fraction, rest)) (numeric : rest.all isNumeric = true) :
    chars.all isNumeric = true := by
  unfold Numeral.splitFraction? at found
  split at found
  case h_1 behind =>
    dsimp only at found
    split at found
    case isTrue => cases found
    case isFalse =>
      cases found
      rw [List.all_cons, all_isNumeric_of_dropWhile numeric]
      rfl
  case h_2 => cases found; exact numeric

/-- The first character of a number literal. -/
def Leads (c : Char) : Prop := c = '-' ∨ c.isDigit = true

/-- A whole part begins with a digit. -/
theorem leads_of_isWhole {chars : List Char} (whole : Numeral.isWhole (chars.takeWhile Char.isDigit)) :
    ∃ c rest, chars = c :: rest ∧ Leads c := by
  cases chars with
  | nil => cases whole
  | cons c rest =>
    refine ⟨c, rest, rfl, .inr (Decidable.byContradiction fun other => ?_)⟩
    rw [List.takeWhile_cons_of_neg other] at whole
    cases whole

/-- A number literal has numeric characters only, and it begins with a digit or a minus sign. -/
theorem of_isSome_ofLiteral? {literal : List Char} (valid : (Numeral.ofLiteral? literal).isSome) :
    literal.all isNumeric = true ∧ ∃ c rest, literal = c :: rest ∧ Leads c := by
  rcases Option.isSome_iff_exists.mp valid with ⟨numeral, found⟩
  have unsigned {chars : List Char} {rest : List Char} {fraction : Option (List Char)}
      {power : Option Int}
      (behind : Numeral.splitFraction? (chars.dropWhile Char.isDigit) = some (fraction, rest))
      (last : Numeral.power? rest = some power) : chars.all isNumeric = true :=
    all_isNumeric_of_dropWhile (all_isNumeric_of_splitFraction? behind
      (all_isNumeric_of_power? (by simp [last])))
  unfold Numeral.ofLiteral? at found
  split at found
  next negative chars sign =>
  dsimp only at found
  split at found
  case isFalse => cases found
  case isTrue whole =>
    rcases Option.bind_eq_some_iff.mp found with ⟨⟨fraction, rest⟩, behind, found⟩
    rcases Option.bind_eq_some_iff.mp found with ⟨power, last, -⟩
    have numeric := unsigned behind last
    split at sign
    next =>
      cases sign
      exact ⟨by rw [List.all_cons, numeric]; rfl, '-', _, rfl, .inl rfl⟩
    next =>
      cases sign
      exact ⟨numeric, leads_of_isWhole whole⟩

/-- Whether a number literal ends before some characters. -/
def Ends (rest : List Char) : Prop := ∀ c ∈ rest.head?, isNumeric c = false

theorem takeWhile_append_of_ends {literal rest : List Char} (numeric : literal.all isNumeric = true)
    (ends : Ends rest) : (literal ++ rest).takeWhile isNumeric = literal := by
  rw [List.takeWhile_append_of_pos (List.all_eq_true.mp numeric)]
  cases rest with
  | nil => exact List.append_nil literal
  | cons c rest => rw [List.takeWhile_cons_of_neg (by simp [ends c rfl]), List.append_nil]

theorem dropWhile_append_of_ends {literal rest : List Char} (numeric : literal.all isNumeric = true)
    (ends : Ends rest) : (literal ++ rest).dropWhile isNumeric = rest := by
  rw [List.dropWhile_append_of_pos (List.all_eq_true.mp numeric)]
  cases rest with
  | nil => rfl
  | cons c rest => rw [List.dropWhile_cons_of_neg (by simp [ends c rfl])]

/-- What begins like a number can only be a number. -/
theorem first?_of_leads {c : Char} (leads : Leads c) (rest : List Char) :
    first? (c :: rest) =
      if (Numeral.ofLiteral? ((c :: rest).takeWhile isNumeric)).isSome then
        some (number ((c :: rest).takeWhile isNumeric), (c :: rest).dropWhile isNumeric)
      else none := by
  have other {mark : Char} (bare : mark ≠ '-' ∧ mark.isDigit = false) : c ≠ mark := by
    rintro rfl
    rcases leads with same | digit
    · exact bare.1 same
    · rw [bare.2] at digit; cases digit
  unfold first?
  split
  case h_11 => rfl
  all_goals
    next same =>
      cases same
      exact absurd rfl (other (by decide))

theorem first?_number {literal rest : List Char} (valid : (Numeral.ofLiteral? literal).isSome)
    (ends : Ends rest) : first? (literal ++ rest) = some (number literal, rest) := by
  rcases of_isSome_ofLiteral? valid with ⟨numeric, c, others, rfl, leads⟩
  rw [List.cons_append, first?_of_leads leads, ← List.cons_append, takeWhile_append_of_ends numeric ends,
    dropWhile_append_of_ends numeric ends, if_pos valid]

/-! ## Rows of tokens -/

/-- Whether some characters are cut into some tokens before whatever does not carry on a number. -/
def Cut (chars : List Char) (tokens : List Token) : Prop :=
  ∀ rest, Ends rest → ofChars? (chars ++ rest) = (ofChars? rest).map (tokens ++ ·)

theorem ofChars?_nil : ofChars? [] = some [] := by
  rw [ofChars?]

/-- Characters that are one token are cut off as this token. -/
theorem ofChars?_cons {c : Char} (others : List Char) {rest : List Char} {token : Token}
    (printed : isBlank c = false) (first : first? (c :: (others ++ rest)) = some (token, rest)) :
    ofChars? (c :: (others ++ rest)) = (ofChars? rest).map (token :: ·) := by
  have shorter : rest.length < (c :: (others ++ rest)).length := by
    rw [List.length_cons, List.length_append]
    omega
  rw [ofChars?, if_neg (by simp [printed]), first]
  dsimp only
  rw [if_pos shorter]

theorem Cut.one {c : Char} {others : List Char} {token : Token} (printed : isBlank c = false)
    (first : ∀ rest, Ends rest → first? (c :: (others ++ rest)) = some (token, rest)) :
    Cut (c :: others) [token] :=
  fun rest ends => ofChars?_cons others printed (first rest ends)

theorem Cut.nil : Cut [] [] := fun rest _ => by
  rw [List.nil_append]
  exact (congrFun Option.map_id _).symm

theorem Cut.append {chars more : List Char} {tokens others : List Token} (first : Cut chars tokens)
    (second : Cut more others) (between : ∀ rest, Ends rest → Ends (more ++ rest)) :
    Cut (chars ++ more) (tokens ++ others) := by
  intro rest ends
  rw [List.append_assoc, first _ (between rest ends), second rest ends, Option.map_map]
  congr 1
  funext tail
  exact (List.append_assoc tokens others tail).symm

/-- Tokens behind which anything may follow. -/
theorem Cut.mark_append {mark : Char} {token : Token} {more : List Char} {others : List Token}
    (printed : isBlank mark = false) (first : ∀ rest, first? (mark :: rest) = some (token, rest))
    (second : Cut more others) : Cut (mark :: more) (token :: others) := by
  intro rest ends
  have cut : ofChars? (mark :: (more ++ rest)) = (ofChars? (more ++ rest)).map (token :: ·) :=
    ofChars?_cons [] printed (first (more ++ rest))
  rw [List.cons_append, cut, second rest ends, Option.map_map]
  rfl

theorem ends_cons {c : Char} (other : isNumeric c = false) (rest : List Char) : Ends (c :: rest) := by
  intro first found
  cases found
  exact other

theorem cut_number {literal : List Char} (valid : (Numeral.ofLiteral? literal).isSome) :
    Cut literal [number literal] := by
  rcases of_isSome_ofLiteral? valid with ⟨-, c, others, rfl, leads⟩
  have printed : isBlank c = false := by
    cases blank : isBlank c
    · rfl
    · simp only [isBlank, Bool.or_eq_true, beq_iff_eq] at blank
      rcases blank with ((rfl | rfl) | rfl) | rfl <;> exact absurd leads (by unfold Leads; decide)
  exact .one printed fun rest ends => first?_number valid ends

theorem cut_text (s : String) : Cut (textChars s) [text (some s)] :=
  .one rfl fun rest _ => first?_textChars s rest

end Token

end Json

end ClockedFormula
