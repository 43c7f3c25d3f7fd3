import ClockedFormula.Proofs.Evaluation.Occasion
import ClockedFormula.Proofs.Table.Overlay

namespace ClockedFormula

/-!
# The bindings that a formula sees under a name

A formula that is met under a name sees the bindings around it laid over its own.  What is laid over
what goes by the exact spelling of names, and a name that is bound on both sides keeps the place that it
has among the formula's own bindings.

A formula may match names in any case of their letters.  Then a name can find a binding whose spelling
differs, and the first one counts.  So the bindings around the formula shadow its own bindings of
exactly the same spelling, and no others: the main statement says for which names the binding around the
formula is found, although it matches in any case.
-/

namespace Bindings

/-- Whether a bound name matches a name in any case. -/
def Matches (bound name : String) : Prop :=
  bound = name ∨ Text.lowerCase bound = Text.lowerCase name

/-- Whether a bound name is a name in lower case. -/
def folds (name bound : String) : Bool := Text.lowerCase bound == Text.lowerCase name

/-- The bound name at which a name is found: the name itself, and otherwise, if names match in any case,
the first that is the same in lower case. -/
def key? (bindings : Bindings) (ignoreCase : Bool) (name : String) : Option String :=
  if name ∈ bindings.keys then some name
  else if ignoreCase then bindings.keys.find? (folds name)
  else none

/-- The first entry whose key passes a test is the entry of its key. -/
theorem get?_of_find? {bindings : Bindings} {test : String → Bool}
    {entry : String × Binding Formula}
    (first : bindings.entries.find? (fun entry => test entry.1) = some entry) :
    bindings.get? entry.1 = some entry.2 := by
  rcases List.find?_eq_some_iff_append.mp first with ⟨passes, before, after, entries, others⟩
  have absent : before.lookup entry.1 = none := by
    refine List.lookup_eq_none_iff.mpr fun other member => ?_
    have fails := others other member
    have differs : entry.1 ≠ other.1 := by
      intro same
      rw [← same, passes] at fails
      cases fails
    simpa using differs
  rw [Table.get?, entries, List.lookup_append, absent]
  exact List.lookup_cons_self

theorem find?_eq_key? (bindings : Bindings) (ignoreCase : Bool) (name : String) :
    bindings.find? ignoreCase name = (bindings.key? ignoreCase name).bind bindings.get? := by
  unfold Bindings.find? key?
  by_cases bound : name ∈ bindings.keys
  · rcases Table.mem_keys_iff.mp bound with ⟨binding, found⟩
    rw [if_pos bound, found]
    exact found.symm
  · rw [if_neg bound, Table.get?_eq_none_iff.mpr bound, Option.none_or]
    cases ignoreCase with
    | false => rfl
    | true =>
      have first : bindings.keys.find? (folds name) =
          (bindings.entries.find? fun entry => folds name entry.1).map Prod.fst := List.find?_map
      simp only [if_true]
      rw [first]
      change (bindings.entries.find? fun entry => folds name entry.1).map Prod.snd = _
      cases found : bindings.entries.find? fun entry => folds name entry.1 with
      | none => rfl
      | some entry => exact (get?_of_find? found).symm

theorem mem_of_key? {bindings : Bindings} {ignoreCase : Bool} {name key : String}
    (found : bindings.key? ignoreCase name = some key) :
    key ∈ bindings.keys ∧ Matches key name := by
  unfold key? at found
  by_cases bound : name ∈ bindings.keys
  · rw [if_pos bound] at found
    cases found
    exact ⟨bound, .inl rfl⟩
  · rw [if_neg bound] at found
    cases ignoreCase with
    | false => cases found
    | true =>
      have folded : folds name key = true := List.find?_some found
      exact ⟨List.mem_of_find?_eq_some found, .inr (eq_of_beq folded)⟩

/-- A name that some bound name matches is found. -/
theorem exists_key?_of_matches {bindings : Bindings} {bound name : String}
    (member : bound ∈ bindings.keys) (matched : Matches bound name) :
    ∃ key, bindings.key? true name = some key := by
  unfold key?
  by_cases itself : name ∈ bindings.keys
  · exact ⟨name, if_pos itself⟩
  · rw [if_neg itself, if_pos rfl]
    have folded : folds name bound = true := by
      rcases matched with rfl | same
      · exact absurd member itself
      · exact beq_iff_eq.mpr same
    cases found : bindings.keys.find? (folds name) with
    | some key => exact ⟨key, rfl⟩
    | none => exact absurd folded (List.find?_eq_none.mp found bound member)

/-- The bound name at which a name is found in bindings that are laid over others.  Only an upper name of
exactly its spelling comes before the lower names. -/
theorem key?_overlay (own : Bindings) {upper : Bindings} (distinct : upper.Distinct)
    (ignoreCase : Bool) (name : String) :
    Bindings.key? (own.overlay upper) ignoreCase name =
      if name ∈ upper.keys then some name
      else (own.key? ignoreCase name).or (upper.key? ignoreCase name) := by
  have member : ∀ key, key ∈ (own.overlay upper).keys ↔ key ∈ own.keys ∨ key ∈ upper.keys := by
    intro key
    rw [Table.keys_overlay own distinct, List.mem_append, List.mem_filter]
    by_cases present : key ∈ own.keys <;> simp [present]
  unfold key?
  by_cases above : name ∈ upper.keys
  · rw [if_pos above, if_pos ((member name).mpr (.inr above))]
  · by_cases below : name ∈ own.keys
    · rw [if_neg above, if_pos below, if_pos ((member name).mpr (.inl below))]
      rfl
    · have absent : name ∉ (own.overlay upper).keys := by
        rw [member]
        exact fun either => either.elim below above
      rw [if_neg above, if_neg below, if_neg above, if_neg absent]
      cases ignoreCase with
      | false => rfl
      | true =>
        simp only [if_true]
        rw [Table.keys_overlay own distinct, List.find?_append]
        cases lower : own.keys.find? (folds name) with
        | some key => rfl
        | none =>
          -- No lower name matches, so none of the upper names that match is left out.
          have none := List.find?_eq_none.mp lower
          rw [Option.none_or, Option.none_or, List.find?_filter]
          congr 1
          funext key
          by_cases present : key ∈ own.keys
          · simp [present, none key present]
          · simp [present]

end Bindings

namespace Context

variable {outer : Context} {f : Formula} {name key : String}

/-- Whether the bindings around a formula cover a name, for a formula that matches names in any case:
they bind the name itself, or the spelling under which the formula by itself would find the name, if
there is one. -/
def Covers (outer : Context) (f : Formula) (name : String) : Prop :=
  name ∈ outer.bindings.keys ∨
    ∀ key, Bindings.key? f.bindings true name = some key → key ∈ outer.bindings.keys

/-- What a formula finds under a name is the binding of the spelling at which it finds the name, and
for one spelling the bindings around the formula come first. -/
theorem enter_find?_of_key? (distinct : outer.bindings.Distinct)
    (ignoresCase : f.options.ignoreCase = true)
    (located : Bindings.key? (outer.enter f).bindings true name = some key) :
    (outer.enter f).find? name = (outer.bindings.get? key).or (f.bindings.get? key) := by
  have options : (outer.enter f).options.ignoreCase = true := ignoresCase
  rw [find?, options, Bindings.find?_eq_key?, located]
  exact Table.get?_overlay f.bindings distinct key

theorem enter_key?_of_covers (distinct : outer.bindings.Distinct)
    (matched : ∃ bound ∈ outer.bindings.keys, Bindings.Matches bound name)
    (covers : outer.Covers f name) :
    ∃ key ∈ outer.bindings.keys, Bindings.Matches key name ∧
      Bindings.key? (outer.enter f).bindings true name = some key := by
  have place : Bindings.key? (outer.enter f).bindings true name = _ :=
    Bindings.key?_overlay f.bindings distinct true name
  by_cases itself : name ∈ outer.bindings.keys
  · rw [if_pos itself] at place
    exact ⟨name, itself, .inl rfl, place⟩
  · rw [if_neg itself] at place
    cases own : Bindings.key? f.bindings true name with
    | none =>
      rcases matched with ⟨bound, member, same⟩
      rcases Bindings.exists_key?_of_matches member same with ⟨key, located⟩
      have inside := Bindings.mem_of_key? located
      rw [own, Option.none_or, located] at place
      exact ⟨key, inside.1, inside.2, place⟩
    | some key =>
      rw [own, Option.some_or] at place
      have member : key ∈ outer.bindings.keys := (covers.resolve_left itself) key own
      exact ⟨key, member, (Bindings.mem_of_key? own).2, place⟩

theorem enter_key?_of_not_covers (distinct : outer.bindings.Distinct)
    (missed : ¬ outer.Covers f name) :
    ∃ key, key ∉ outer.bindings.keys ∧ Bindings.key? f.bindings true name = some key ∧
      Bindings.key? (outer.enter f).bindings true name = some key := by
  have place : Bindings.key? (outer.enter f).bindings true name = _ :=
    Bindings.key?_overlay f.bindings distinct true name
  have itself : name ∉ outer.bindings.keys := fun member => missed (.inl member)
  rw [if_neg itself] at place
  cases own : Bindings.key? f.bindings true name with
  | none =>
    refine absurd (.inr fun key found => ?_) missed
    rw [own] at found
    cases found
  | some key =>
    rw [own, Option.some_or] at place
    refine ⟨key, fun member => missed (.inr fun other found => ?_), rfl, place⟩
    rw [own] at found
    cases found
    exact member

/-- Where a name matches a bound name around a formula that matches names in any case, the formula finds
a binding from around it if and only if those bindings cover the name.  Otherwise it finds the binding
that it would find by itself. -/
theorem enter_finds_outer_iff_covers (distinct : outer.bindings.Distinct)
    (ignoresCase : f.options.ignoreCase = true)
    (matched : ∃ bound ∈ outer.bindings.keys, Bindings.Matches bound name) :
    ((∃ key ∈ outer.bindings.keys, Bindings.Matches key name ∧
        Bindings.key? (outer.enter f).bindings true name = some key ∧
        (outer.enter f).find? name = outer.bindings.get? key) ↔ outer.Covers f name) ∧
      (¬ outer.Covers f name →
        (outer.enter f).find? name = Bindings.find? f.bindings true name) := by
  refine ⟨⟨?_, fun covers => ?_⟩, fun missed => ?_⟩
  · rintro ⟨key, member, _, located, _⟩
    refine Classical.byContradiction fun missed => ?_
    rcases enter_key?_of_not_covers distinct missed with ⟨other, absent, _, alsoLocated⟩
    rw [located] at alsoLocated
    cases alsoLocated
    exact absent member
  · rcases enter_key?_of_covers distinct matched covers with ⟨key, member, same, located⟩
    rcases Table.mem_keys_iff.mp member with ⟨binding, bound⟩
    have found := enter_find?_of_key? distinct ignoresCase located
    rw [bound, Option.some_or, ← bound] at found
    exact ⟨key, member, same, located, found⟩
  · rcases enter_key?_of_not_covers distinct missed with ⟨key, absent, own, located⟩
    rw [enter_find?_of_key? distinct ignoresCase located, Table.get?_eq_none_iff.mpr absent,
      Option.none_or, Bindings.find?_eq_key?, own, Option.bind_some]

/-- A formula for a height, which has a height of its own. -/
def measure : Formula where
  expression := .identifier "height"
  options := { Options.default with ignoreCase := true }
  bindings := ⟨[("Height", .value (.integer 100))]⟩
  identifierHandlers := []
  functionHandlers := []
  store := ⟨0⟩

/-- A formula around it, which binds a height in another spelling. -/
def house : Formula where
  expression := .identifier "measure"
  options := .default
  bindings := ⟨[("measure", .formula measure), ("HEIGHT", .value (.integer 2))]⟩
  identifierHandlers := []
  functionHandlers := []
  store := ⟨1⟩

/-- The height around the formula matches the name, and yet the formula goes by its own. -/
theorem measure_finds_own_height :
    Bindings.Matches "HEIGHT" "height" ∧ ¬ (ofFormula house .blank).Covers measure "height" ∧
      ((ofFormula house .blank).enter measure).find? "height" =
        Bindings.find? measure.bindings true "height" ∧
      (house.evaluateAt .blank World.empty).1.value? = some (.integer 100) := by
  have folded : Text.lowerCase "HEIGHT" = Text.lowerCase "height" := by decide +kernel
  have distinct : (ofFormula house .blank).bindings.Distinct := by
    have keys : (ofFormula house .blank).bindings.keys = ["measure", "HEIGHT"] := rfl
    rw [Table.Distinct, keys]
    decide
  have located : Bindings.key? measure.bindings true "height" = some "Height" := by decide +kernel
  have missed : ¬ (ofFormula house .blank).Covers measure "height" := by
    rintro (itself | covers)
    · exact absurd itself (by decide)
    · exact absurd (covers "Height" located) (by decide)
  have matched : ∃ bound ∈ (ofFormula house .blank).bindings.keys,
      Bindings.Matches bound "height" :=
    ⟨"HEIGHT", by decide, .inr folded⟩
  have value : (house.evaluateAt .blank World.empty).1.value? = some (.integer 100) := by
    decide +kernel
  exact ⟨.inr folded, missed, (enter_finds_outer_iff_covers distinct rfl matched).2 missed, value⟩

end Context

end ClockedFormula
