import ClockedFormula.Proofs.Decimal.Text
import ClockedFormula.Proofs.Json.Document
import ClockedFormula.Proofs.Json.Numeral
import ClockedFormula.Saved

namespace ClockedFormula

/-!
# What is saved can be loaded

Values, kinds, clocks and options come back from their saved form.  Two things stand in the way of a plain
equality.  Infinities and not-a-numbers are saved as null, and the reader of number literals is quick rather
than exact, so that a double comes back only if it is read back from its own digits; both are conditions on
the doubles that a saved thing contains, and on nothing else.  And the sign of a decimal zero is written but
not read.

What has been loaded from any text whatsoever contains finite doubles only.
-/

/-- Whether a double is read back from the literal that is written for it. -/
def Double.ReadsBack (x : Double) : Prop :=
  (Json.Numeral.ofLiteral? (Json.floatLayout.write x).toList).bind Json.Numeral.toDouble? = some x

instance (x : Double) : Decidable x.ReadsBack := inferInstanceAs (Decidable (_ = _))

/-! ## Doubles in what is saved -/

def Value.doubles : Value → List Double
  | .float x => [x]
  | _ => []

def Clock.doubles (clock : Clock) : List Double := clock.deltaTime.toList

def Options.doubles (options : Options) : List Double := [options.defaultDeltaTime]

/-- The value, without the sign of a decimal zero. -/
def Value.withoutZeroSign : Value → Value
  | .decimal x => .decimal x.withoutZeroSign
  | v => v

namespace Saved

/-- Whether what is saved is loaded again in its restored form, given that the doubles in it are. -/
structure Restores (α : Type) [Saved α] (doubles : α → List Double) (restored : α → α) : Prop where
  /-- Whatever has finite doubles only is restored from its saved form. -/
  load_save (a : α) (finite : ∀ x ∈ doubles a, x.isFinite = true) (readBack : ∀ x ∈ doubles a, x.ReadsBack) :
    load (save a) = .ok (restored a)
  /-- Whatever has been loaded has finite doubles only, and so it is restored from its saved form. -/
  load_save_of_load (text : String) (a : α) (loaded : load text = .ok a) :
    (∀ x ∈ doubles a, x.isFinite = true) ∧
      ((∀ x ∈ doubles a, x.ReadsBack) → load (save a) = .ok (restored a))

section

variable {α : Type} [Saved α] {doubles : α → List Double} {restored : α → α}

/-- A saved form that can be written is read as what it stands for. -/
theorem load_of_written {a b : α} (written : (toJson a).Written) (read : ofJson? (toJson a) = some b) :
    load (save a) = .ok b := by
  rw [load, load?, save, Json.ofText?_toText written]
  simp only [Option.bind_some, read]

theorem ofJson?_of_load {text : String} {a : α} (loaded : load text = .ok a) :
    ∃ json, ofJson? json = some a := by
  unfold load at loaded
  split at loaded
  next b found =>
    cases loaded
    rcases Option.bind_eq_some_iff.mp found with ⟨json, -, read⟩
    exact ⟨json, read⟩
  next => cases loaded

/-- Restoring has to be shown only for what is saved, and finiteness only for what is read. -/
theorem Restores.mk'
    (written : ∀ a, (∀ x ∈ doubles a, x.isFinite = true) → (∀ x ∈ doubles a, x.ReadsBack) →
      (toJson a).Written ∧ ofJson? (toJson a) = some (restored a))
    (finite : ∀ json a, ofJson? json = some a → ∀ x ∈ doubles a, x.isFinite = true) :
    Restores α doubles restored where
  load_save a within readBack := load_of_written (written a within readBack).1 (written a within readBack).2
  load_save_of_load text a loaded := by
    obtain ⟨json, read⟩ := ofJson?_of_load loaded
    have within := finite json a read
    exact ⟨within, fun readBack =>
      load_of_written (written a within readBack).1 (written a within readBack).2⟩

end

/-! ## Parts -/

theorem written_ofInt (i : Int) : (Json.ofInt i).Written :=
  .number (by rw [Json.Numeral.ofLiteral?_integerChars]; rfl)

theorem int64?_ofInt (i : Int64) : int64? (Json.ofInt i.toInt) = some i :=
  Json.Numeral.toInt64?_integerChars i

theorem uint64?_ofInt (n : UInt64) : uint64? (Json.ofInt n.toNat) = some n :=
  Json.Numeral.toUInt64?_integerChars n

section

variable {x : Double} (finite : x.isFinite = true) (readBack : x.ReadsBack)
include finite readBack

theorem written_ofDouble : (Json.ofDouble x).Written := by
  rw [Json.ofDouble, if_pos finite]
  refine .number (Option.isSome_iff_exists.mpr ?_)
  rcases Option.bind_eq_some_iff.mp readBack with ⟨numeral, valid, -⟩
  exact ⟨numeral, valid⟩

theorem double?_ofDouble : double? (Json.ofDouble x) = some x := by
  rw [Json.ofDouble, if_pos finite]
  exact readBack

theorem optional_double?_ofDouble : optional? double? (Json.ofDouble x) = some (some x) := by
  have read := double?_ofDouble finite readBack
  rw [Json.ofDouble, if_pos finite] at read ⊢
  rw [optional?, read]
  · rfl
  · exact nofun

end

theorem isFinite_of_double? {json : Json} {x : Double} (read : double? json = some x) :
    x.isFinite = true := by
  rcases Option.bind_eq_some_iff.mp read with ⟨numeral, -, found⟩
  exact Json.Numeral.isFinite_of_toDouble? found

/-- A counter that a clock or the options may lack. -/
def counterToJson (count : Option UInt64) : Json := (count.map fun n => Json.ofInt n.toNat).getD .null

theorem written_counterToJson (count : Option UInt64) : (counterToJson count).Written := by
  cases count with
  | none => exact .null
  | some n => exact written_ofInt n.toNat

theorem optional_uint64?_counterToJson (count : Option UInt64) :
    optional? uint64? (counterToJson count) = some count := by
  cases count with
  | none => rfl
  | some n =>
    change (uint64? (Json.ofInt n.toNat)).map some = some (some n)
    rw [uint64?_ofInt]
    rfl

/-! ## Values and kinds -/

theorem written_value (v : Value) (finite : ∀ x ∈ v.doubles, x.isFinite = true)
    (readBack : ∀ x ∈ v.doubles, x.ReadsBack) :
    (toJson v).Written ∧ ofJson? (toJson v) = some v.withoutZeroSign := by
  have only (key : String) {content : Json} (written : content.Written) :
      (Json.ofMembers [(key, content)]).Written :=
    .object fun member known => by rwa [List.mem_singleton.mp known]
  cases v with
  | null => exact ⟨.text nullName, rfl⟩
  | boolean b => exact ⟨only _ (.boolean b), rfl⟩
  | integer i =>
    refine ⟨only _ (written_ofInt i.toInt), ?_⟩
    change (int64? (Json.ofInt i.toInt)).map Value.integer = _
    rw [int64?_ofInt]
    rfl
  | float x =>
    have inside := finite x List.mem_cons_self
    have reads := readBack x List.mem_cons_self
    refine ⟨only _ (written_ofDouble inside reads), ?_⟩
    change (double? (Json.ofDouble x)).map Value.float = _
    rw [double?_ofDouble inside reads]
    rfl
  | decimal x =>
    refine ⟨only _ (.text x.toText), ?_⟩
    change (Decimal.ofText? x.toText).map Value.decimal = _
    rw [Decimal.ofText?_toText]
    rfl
  | text s => exact ⟨only _ (.text s), rfl⟩

/-- A double that is loaded as a value has been read as a double. -/
theorem double?_of_valueOfKind? {kind : Kind} {content : Json} {x : Double}
    (read : valueOfKind? kind content = some (.float x)) : double? content = some x := by
  cases kind with
  | float =>
    rcases Option.map_eq_some_iff.mp read with ⟨loaded, found, same⟩
    cases same
    exact found
  | integer | boolean | text | decimal =>
    rcases Option.map_eq_some_iff.mp read with ⟨loaded, -, same⟩
    cases same

theorem double?_of_value? {json : Json} {x : Double} (read : value? json = some (.float x)) :
    ∃ content, double? content = some x := by
  unfold value? at read
  split at read
  next => split at read <;> cases read
  next =>
    split at read
    next => exact ⟨_, double?_of_valueOfKind? read⟩
    next => split at read <;> cases read
    next => cases read
  next => cases read

theorem value_restores : Restores Value Value.doubles Value.withoutZeroSign :=
  .mk' written_value fun json v read x member => by
    cases v with
    | float y =>
      rw [List.mem_singleton.mp member]
      obtain ⟨content, found⟩ := double?_of_value? read
      exact isFinite_of_double? found
    | null | boolean | integer | decimal | text => cases member

theorem kind_restores : Restores Kind (fun _ => []) id :=
  .mk' (fun kind _ _ => ⟨.text kind.name, Kind.ofName?_name kind⟩) fun _ _ _ _ member => nomatch member

/-! ## Clocks -/

theorem written_clock (clock : Clock) (finite : ∀ x ∈ clock.doubles, x.isFinite = true)
    (readBack : ∀ x ∈ clock.doubles, x.ReadsBack) :
    (toJson clock).Written ∧ ofJson? (toJson clock) = some clock := by
  rcases clock with ⟨time, step, deltaTime⟩
  have lasting : ((deltaTime.map Json.ofDouble).getD .null).Written ∧
      optional? double? ((deltaTime.map Json.ofDouble).getD .null) = some deltaTime := by
    cases deltaTime with
    | none => exact ⟨.null, rfl⟩
    | some x =>
      have inside := finite x List.mem_cons_self
      have reads := readBack x List.mem_cons_self
      exact ⟨written_ofDouble inside reads, optional_double?_ofDouble inside reads⟩
  have entries : entries? clockKeys (toJson (⟨time, step, deltaTime⟩ : Clock)) =
      some [.present (counterToJson time), .present (counterToJson step),
        .present ((deltaTime.map Json.ofDouble).getD .null)] := rfl
  refine ⟨.object ?_, ?_⟩
  · simpa using ⟨written_counterToJson time, written_counterToJson step, lasting.1⟩
  · change clock? _ = _
    rw [clock?, entries]
    simp only [Option.bind_eq_bind, Option.bind_some, field?, optional_uint64?_counterToJson, lasting.2]
    rfl

/-- A double that may be lacking has been read as a double if it is not. -/
theorem isFinite_of_optional_double? {json : Json} {x : Double}
    (read : optional? double? json = some (some x)) : x.isFinite = true := by
  unfold optional? at read
  split at read
  next => cases read
  next =>
    rcases Option.map_eq_some_iff.mp read with ⟨loaded, found, same⟩
    cases same
    exact isFinite_of_double? found

theorem clock_finite (json : Json) (clock : Clock) (read : ofJson? json = some clock) :
    ∀ x ∈ clock.doubles, x.isFinite = true := by
  change clock? json = some clock at read
  rcases Option.bind_eq_some_iff.mp read with ⟨entries, -, found⟩
  split at found
  next time step deltaTime =>
    rcases Option.bind_eq_some_iff.mp found with ⟨shownTime, -, found⟩
    rcases Option.bind_eq_some_iff.mp found with ⟨shownStep, -, found⟩
    rcases Option.bind_eq_some_iff.mp found with ⟨lasting, last, found⟩
    cases found
    intro x member
    cases Option.mem_toList.mp member
    cases deltaTime with
    | absent =>
      simp only [field?] at last
      split at last <;> cases last
    | present part => exact isFinite_of_optional_double? last
    | repeated => cases last
  next => cases found

/-! ## Options -/

theorem written_options (options : Options) (finite : ∀ x ∈ options.doubles, x.isFinite = true)
    (readBack : ∀ x ∈ options.doubles, x.ReadsBack) :
    (toJson options).Written ∧ ofJson? (toJson options) = some options := by
  rcases options with ⟨ignoreCase, roundAwayFromZero, resetOnNewRun, randomSeed, defaultDeltaTime⟩
  have inside := finite defaultDeltaTime List.mem_cons_self
  have reads := readBack defaultDeltaTime List.mem_cons_self
  have entries : entries? optionKeys (toJson (⟨ignoreCase, roundAwayFromZero, resetOnNewRun, randomSeed,
      defaultDeltaTime⟩ : Options)) =
      some [.present (.boolean ignoreCase), .present (.boolean roundAwayFromZero),
        .present (.boolean resetOnNewRun), .present (counterToJson randomSeed),
        .present (Json.ofDouble defaultDeltaTime)] := rfl
  refine ⟨.object ?_, ?_⟩
  · simpa using ⟨.boolean ignoreCase, .boolean roundAwayFromZero, .boolean resetOnNewRun,
      written_counterToJson randomSeed, written_ofDouble inside reads⟩
  · change options? _ = _
    rw [options?, entries]
    simp only [Option.bind_eq_bind, Option.bind_some, field?, optional_uint64?_counterToJson, bool?,
      double?_ofDouble inside reads]
    rfl

theorem options_finite (json : Json) (options : Options) (read : ofJson? json = some options) :
    ∀ x ∈ options.doubles, x.isFinite = true := by
  change options? json = some options at read
  rcases Option.bind_eq_some_iff.mp read with ⟨entries, -, found⟩
  split at found
  next ignoreCase roundAwayFromZero resetOnNewRun randomSeed defaultDeltaTime =>
    rcases Option.bind_eq_some_iff.mp found with ⟨ignores, -, found⟩
    rcases Option.bind_eq_some_iff.mp found with ⟨rounds, -, found⟩
    rcases Option.bind_eq_some_iff.mp found with ⟨resets, -, found⟩
    rcases Option.bind_eq_some_iff.mp found with ⟨seed, -, found⟩
    rcases Option.bind_eq_some_iff.mp found with ⟨lasting, last, found⟩
    cases found
    intro x member
    rw [List.mem_singleton.mp member]
    cases defaultDeltaTime with
    | absent => cases last; rfl
    | present part => exact isFinite_of_double? last
    | repeated => cases last
  next => cases found

theorem clock_restores : Restores Clock Clock.doubles id := .mk' written_clock clock_finite

theorem options_restores : Restores Options Options.doubles id := .mk' written_options options_finite

/-! ## All saved things -/

/-- Values, kinds, clocks and options come back from their saved form, values without the sign of a decimal
zero, and so does everything that has been loaded. -/
theorem saved_forms_restore :
    Restores Value Value.doubles Value.withoutZeroSign ∧ Restores Kind (fun _ => []) id ∧
      Restores Clock Clock.doubles id ∧ Restores Options Options.doubles id :=
  ⟨value_restores, kind_restores, clock_restores, options_restores⟩

/-- A value, the longest-running clock and options with a seed, saved and loaded. -/
theorem saved_forms_restore_at_bounds :
    load (save (Value.float ⟨0x3fe0000000000000⟩)) = .ok (Value.float ⟨0x3fe0000000000000⟩) ∧
      load (save (Clock.mk (some (-1)) (some 0) (some ⟨0x3fb999999999999a⟩))) =
        .ok (Clock.mk (some (-1)) (some 0) (some ⟨0x3fb999999999999a⟩)) ∧
      load (save { Options.default with randomSeed := some (-1) }) =
        .ok { Options.default with randomSeed := some (-1) } := by
  refine ⟨saved_forms_restore.1.load_save _ ?_ ?_, saved_forms_restore.2.2.1.load_save _ ?_ ?_,
    saved_forms_restore.2.2.2.load_save _ ?_ ?_⟩ <;> decide +kernel

/-- A decimal zero comes back without its sign. -/
theorem load_save_negative_zero_ne :
    load (save (Value.decimal ⟨true, 0, 28, by decide, by decide⟩)) ≠
      .ok (Value.decimal ⟨true, 0, 28, by decide, by decide⟩) := by
  rw [value_restores.load_save _ (by decide) (by decide)]
  intro same
  exact absurd (Except.ok.inj same) (by decide)

end Saved

end ClockedFormula
