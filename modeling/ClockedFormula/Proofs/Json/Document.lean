import ClockedFormula.Json.Reader
import ClockedFormula.Proofs.Json.Token

namespace ClockedFormula

namespace Json

/-!
# Documents are read as they are written

A written document is cut into the tokens of its parts in their order, and from these tokens the reader
builds the document again.  The reader counts a budget down with each level and each item; the number of
tokens pays for both.

Reading undoes writing for the documents that can be written: their numbers are literals, and their texts
stand for characters.
-/

/-- Whether a document has a text of its own: every number is a literal, every text stands for characters. -/
inductive Written : Json → Prop
  | null : Written null
  | boolean (b : Bool) : Written (boolean b)
  | number {literal : List Char} (valid : (Numeral.ofLiteral? literal).isSome) : Written (number literal)
  | text (s : String) : Written (ofString s)
  | array {items : List Json} (written : ∀ item ∈ items, Written item) : Written (array items)
  | object {members : List (String × Json)} (written : ∀ member ∈ members, Written member.2) :
    Written (ofMembers members)

/-! ## Tokens of a document -/

mutual

/-- The tokens of a document. -/
def tokens : Json → List Token
  | null => [.null]
  | boolean b => [.boolean b]
  | number literal => [.number literal]
  | text content => [.text content]
  | array items => .openArray :: (itemTokens items ++ [.closeArray])
  | object members => .openObject :: (memberTokens members ++ [.closeObject])

/-- The tokens between the brackets of an array. -/
def itemTokens : List Json → List Token
  | [] => []
  | [item] => item.tokens
  | item :: items => item.tokens ++ .comma :: itemTokens items

/-- The tokens between the braces of an object. -/
def memberTokens : List (Option String × Json) → List Token
  | [] => []
  | [(key, value)] => .text key :: .colon :: value.tokens
  | (key, value) :: members => .text key :: .colon :: (value.tokens ++ .comma :: memberTokens members)

end

open Token (Cut Ends ends_cons)

/-- The members of an object whose keys are all texts. -/
def named (members : List (String × Json)) : List (Option String × Json) :=
  members.map fun (key, value) => (some key, value)

/-! ## Cutting -/

theorem itemChars_cons_cons (item next : Json) (items : List Json) :
    itemChars (item :: next :: items) = item.toChars ++ ',' :: itemChars (next :: items) := by
  simp [itemChars]

theorem itemTokens_cons_cons (item next : Json) (items : List Json) :
    itemTokens (item :: next :: items) = item.tokens ++ .comma :: itemTokens (next :: items) := by
  simp [itemTokens]

theorem memberChars_singleton (key : String) (value : Json) :
    memberChars (named [(key, value)]) = textChars key ++ ':' :: value.toChars := by
  simp [memberChars, named]

theorem memberChars_cons_cons (key : String) (value : Json) (next : String × Json)
    (members : List (String × Json)) :
    memberChars (named ((key, value) :: next :: members)) =
      textChars key ++ ':' :: (value.toChars ++ ',' :: memberChars (named (next :: members))) := by
  simp [memberChars, named]

theorem memberTokens_singleton (key : String) (value : Json) :
    memberTokens (named [(key, value)]) = .text (some key) :: .colon :: value.tokens := by
  simp [memberTokens, named]

theorem memberTokens_cons_cons (key : String) (value : Json) (next : String × Json)
    (members : List (String × Json)) :
    memberTokens (named ((key, value) :: next :: members)) =
      .text (some key) :: .colon ::
        (value.tokens ++ .comma :: memberTokens (named (next :: members))) := by
  simp [memberTokens, named]

theorem cut_items {items : List Json} (each : ∀ item ∈ items, Cut item.toChars item.tokens) :
    Cut (itemChars items) (itemTokens items) := by
  induction items with
  | nil => exact .nil
  | cons item items ih =>
    have first := each item List.mem_cons_self
    have others := ih fun item member => each item (List.mem_cons_of_mem _ member)
    cases items with
    | nil => exact first
    | cons next items =>
      rw [itemChars_cons_cons, itemTokens_cons_cons]
      exact first.append (others.mark_append rfl fun _ => rfl) fun _ _ => ends_cons rfl _

/-- A key with what stands behind it. -/
theorem cut_member {key : String} {more : List Char} {tokens : List Token} (value : Cut more tokens) :
    Cut (textChars key ++ ':' :: more) (.text (some key) :: .colon :: tokens) :=
  (Token.cut_text key).append (value.mark_append rfl fun _ => rfl) fun _ _ => ends_cons rfl _

theorem cut_members {members : List (String × Json)}
    (each : ∀ member ∈ members, Cut member.2.toChars member.2.tokens) :
    Cut (memberChars (named members)) (memberTokens (named members)) := by
  induction members with
  | nil => exact .nil
  | cons member members ih =>
    rcases member with ⟨key, value⟩
    have first := each (key, value) List.mem_cons_self
    have others := ih fun member known => each member (List.mem_cons_of_mem _ known)
    cases members with
    | nil =>
      rw [memberChars_singleton]
      exact cut_member first
    | cons next members =>
      rw [memberChars_cons_cons, memberTokens_cons_cons]
      exact cut_member
        (first.append (others.mark_append rfl fun _ => rfl) fun _ _ => ends_cons rfl _)

/-- A closing mark behind what is cut into tokens. -/
theorem cut_closed {chars : List Char} {tokens : List Token} {mark : Char} {token : Token}
    (inner : Cut chars tokens) (printed : Token.isBlank mark = false)
    (other : Token.isNumeric mark = false)
    (first : ∀ rest, Token.first? (mark :: rest) = some (token, rest)) :
    Cut (chars ++ [mark]) (tokens ++ [token]) :=
  inner.append (Cut.nil.mark_append printed first) fun _ _ => ends_cons other _

/-- The text of a document is cut into the tokens of the document. -/
theorem Written.cut {json : Json} (written : Written json) : Cut json.toChars json.tokens := by
  induction written with
  | null => exact .one rfl fun _ _ => rfl
  | boolean b => cases b <;> exact .one rfl fun _ _ => rfl
  | number valid => exact Token.cut_number valid
  | text s => exact Token.cut_text s
  | array _ ih => exact (cut_closed (cut_items ih) rfl rfl fun _ => rfl).mark_append rfl fun _ => rfl
  | object _ ih => exact (cut_closed (cut_members ih) rfl rfl fun _ => rfl).mark_append rfl fun _ => rfl

/-! ## Reading -/

/-- A document does not begin with a closing token. -/
theorem tokens_eq_cons (json : Json) :
    ∃ first rest, json.tokens = first :: rest ∧ first ≠ .closeArray ∧ first ≠ .closeObject := by
  cases json <;> exact ⟨_, _, rfl, nofun, nofun⟩

/-- Whether a document is read from its tokens with any budget that they cover. -/
def Reads (json : Json) : Prop :=
  ∀ (budget : Nat) (rest : List Token), json.tokens.length ≤ budget →
    read? budget (json.tokens ++ rest) = some (json, rest)

/-- The items of an array are read to the bracket that closes it. -/
theorem readItems?_itemTokens {items : List Json} (each : ∀ item ∈ items, Reads item)
    (present : items ≠ []) (budget : Nat) (rest : List Token)
    (enough : (itemTokens items).length < budget) :
    readItems? budget (itemTokens items ++ .closeArray :: rest) = some (items, rest) := by
  induction items generalizing budget with
  | nil => exact absurd rfl present
  | cons item items ih =>
    obtain ⟨less, rfl⟩ : ∃ less, budget = less + 1 := ⟨budget - 1, by omega⟩
    have first := each item List.mem_cons_self
    cases items with
    | nil =>
      have alone := first less (.closeArray :: rest) (Nat.le_of_lt_succ enough)
      rw [itemTokens, readItems?, alone]
    | cons next items =>
      rw [itemTokens_cons_cons, List.length_append, List.length_cons] at enough
      have begun := first less (.comma :: (itemTokens (next :: items) ++ .closeArray :: rest)) (by omega)
      have others := ih (fun item member => each item (List.mem_cons_of_mem _ member))
        (List.cons_ne_nil _ _) less (by omega)
      rw [itemTokens_cons_cons, List.append_assoc, List.cons_append, readItems?, begun]
      dsimp only
      rw [others]
      rfl

/-- The members of an object are read to the brace that closes it. -/
theorem readMembers?_memberTokens {members : List (String × Json)}
    (each : ∀ member ∈ members, Reads member.2) (present : members ≠ []) (budget : Nat)
    (rest : List Token) (enough : (memberTokens (named members)).length < budget) :
    readMembers? budget (memberTokens (named members) ++ .closeObject :: rest) =
      some (named members, rest) := by
  induction members generalizing budget with
  | nil => exact absurd rfl present
  | cons member members ih =>
    rcases member with ⟨key, value⟩
    obtain ⟨less, rfl⟩ : ∃ less, budget = less + 1 := ⟨budget - 1, by omega⟩
    have first : Reads value := each (key, value) List.mem_cons_self
    cases members with
    | nil =>
      rw [memberTokens_singleton, List.length_cons, List.length_cons] at enough
      have alone := first less (.closeObject :: rest) (by omega)
      rw [memberTokens_singleton, List.cons_append, List.cons_append, readMembers?, alone]
      rfl
    | cons next members =>
      rw [memberTokens_cons_cons, List.length_cons, List.length_cons, List.length_append,
        List.length_cons] at enough
      have begun := first less
        (.comma :: (memberTokens (named (next :: members)) ++ .closeObject :: rest)) (by omega)
      have others := ih (fun member known => each member (List.mem_cons_of_mem _ known))
        (List.cons_ne_nil _ _) less (by omega)
      rw [memberTokens_cons_cons, List.cons_append, List.cons_append, List.append_assoc,
        List.cons_append, readMembers?, begun]
      dsimp only
      rw [others]
      rfl

/-- An array is opened by its bracket, whatever its first token is but the closing one. -/
theorem read?_openArray {first : Token} (other : first ≠ .closeArray) (budget : Nat)
    (rest : List Token) :
    read? (budget + 1) (.openArray :: first :: rest) =
      (readItems? budget (first :: rest)).map fun read => (array read.1, read.2) := by
  cases first <;> first | exact absurd rfl other | rfl

theorem read?_openObject {first : Token} (other : first ≠ .closeObject) (budget : Nat)
    (rest : List Token) :
    read? (budget + 1) (.openObject :: first :: rest) =
      (readMembers? budget (first :: rest)).map fun read => (object read.1, read.2) := by
  cases first <;> first | exact absurd rfl other | rfl

theorem itemTokens_eq_cons {items : List Json} (present : items ≠ []) :
    ∃ first rest, itemTokens items = first :: rest ∧ first ≠ .closeArray := by
  cases items with
  | nil => exact absurd rfl present
  | cons item items =>
    obtain ⟨first, rest, found, other, -⟩ := item.tokens_eq_cons
    cases items with
    | nil => exact ⟨first, rest, found, other⟩
    | cons next items => exact ⟨first, _, by rw [itemTokens_cons_cons, found]; rfl, other⟩

theorem memberTokens_eq_cons {members : List (String × Json)} (present : members ≠ []) :
    ∃ first rest, memberTokens (named members) = first :: rest ∧ first ≠ .closeObject := by
  cases members with
  | nil => exact absurd rfl present
  | cons member members =>
    cases members with
    | nil => exact ⟨_, _, memberTokens_singleton _ _, nofun⟩
    | cons next members => exact ⟨_, _, memberTokens_cons_cons _ _ _ _, nofun⟩

/-- The reader builds a document from its tokens. -/
theorem Written.reads {json : Json} (written : Written json) : Reads json := by
  induction written with
  | null | boolean | number | text =>
    rintro (_ | less) rest enough
    · exact absurd enough (Nat.not_succ_le_zero 0)
    · rfl
  | @array items _ ih =>
    rintro (_ | less) rest enough
    · exact absurd enough (Nat.not_succ_le_zero _)
    · cases items with
      | nil => rfl
      | cons item items =>
        have within : (itemTokens (item :: items)).length < less := by
          rw [tokens, List.length_cons, List.length_append] at enough
          exact Nat.le_of_succ_le_succ enough
        have read := readItems?_itemTokens ih (List.cons_ne_nil _ _) less rest within
        obtain ⟨first, others, found, other⟩ := itemTokens_eq_cons (List.cons_ne_nil item items)
        rw [tokens, List.cons_append, List.append_assoc, List.singleton_append]
        rw [found, List.cons_append] at read ⊢
        rw [read?_openArray other, read]
        rfl
  | @object members _ ih =>
    rintro (_ | less) rest enough
    · exact absurd enough (Nat.not_succ_le_zero _)
    · cases members with
      | nil => rfl
      | cons member members =>
        have within : (memberTokens (named (member :: members))).length < less := by
          rw [ofMembers, tokens, List.length_cons, List.length_append] at enough
          exact Nat.le_of_succ_le_succ enough
        have read := readMembers?_memberTokens ih (List.cons_ne_nil _ _) less rest within
        obtain ⟨first, others, found, other⟩ := memberTokens_eq_cons (List.cons_ne_nil member members)
        change read? (less + 1)
          (.openObject :: (memberTokens (named (member :: members)) ++ [.closeObject]) ++ rest) = _
        rw [List.cons_append, List.append_assoc, List.singleton_append]
        rw [found, List.cons_append] at read ⊢
        rw [read?_openObject other, read]
        rfl

/-- A document that can be written is read back from its text. -/
theorem ofText?_toText {json : Json} (written : Written json) : ofText? json.toText = some json := by
  have cut := written.cut [] (by intro c none; cases none)
  have read := written.reads (json.tokens.length + 1) [] (Nat.le_succ _)
  rw [List.append_nil] at cut read
  rw [ofText?, toText, String.toList_ofList, cut, Token.ofChars?_nil]
  dsimp only [Option.map_some, Option.bind_eq_bind, Option.bind_some]
  rw [List.append_nil, read]

end Json

end ClockedFormula
