import ClockedFormula.Clock
import ClockedFormula.Json.Reader
import ClockedFormula.Json.Writer
import ClockedFormula.Options
import ClockedFormula.Value.Conversion
/-!
# Saved values and settings

Values, kinds, clocks and options can be saved as JSON and loaded again.

A value is an object with its kind as the only key, and null is the bare name.  Clocks and options
are objects in which unknown keys are passed over and no known key may occur twice; an array with the
fields in order is accepted as well.  A clock may leave out fields of an object but not of an array;
options may leave out any field, and in an array the last ones.
-/

namespace ClockedFormula

/-- Types with a saved form. -/
class Saved (α : Type) where
  toJson : α → Json
  ofJson? : Json → Option α

namespace Saved

/-! ## Parts of a document -/

def bool? : Json → Option Bool
  | .boolean b => some b
  | _ => none

def numeral? : Json → Option Json.Numeral
  | .number literal => Json.Numeral.ofLiteral? literal
  | _ => none

def int64? (json : Json) : Option Int64 := (numeral? json).bind Json.Numeral.toInt64?

def uint64? (json : Json) : Option UInt64 := (numeral? json).bind Json.Numeral.toUInt64?

def double? (json : Json) : Option Double := (numeral? json).bind Json.Numeral.toDouble?

def string? : Json → Option String
  | .text content => content
  | _ => none

/-- A part that may be null. -/
def optional? {α : Type} (read? : Json → Option α) : Json → Option (Option α)
  | .null => some none
  | json => (read? json).map some

/-- A decimal is saved as text.  An integer literal is taken as it is, and any other number by the
plain text of its double. -/
def decimal? : Json → Option Decimal
  | .text content => content.bind Decimal.ofText?
  | .number literal =>
    (Json.Numeral.ofLiteral? literal).bind fun numeral =>
      match numeral.toInt64?.map Int64.toInt, numeral.toUInt64?.map UInt64.toNat with
      | some i, _ => Decimal.ofInt? i
      | _, some u => Decimal.ofInt? u
      | _, _ => numeral.toDouble?.bind fun x => Decimal.ofText? (Value.plainFloat.write x)
  | _ => none

/-! ## Kinds and values -/

/-- The kind of a name, bare or as the only key of an object with null behind it. -/
def kind? : Json → Option Kind
  | .text content => content.bind Kind.ofName?
  | .object [(some name, .null)] => Kind.ofName? name
  | _ => none

instance : Saved Kind where
  toJson kind := Json.ofString kind.name
  ofJson? := kind?

/-- The name under which null is saved. -/
def nullName : String := "Null"

def valueToJson : Value → Json
  | .null => Json.ofString nullName
  | .boolean b => Json.ofMembers [(Kind.name .boolean, .boolean b)]
  | .integer i => Json.ofMembers [(Kind.name .integer, Json.ofInt i.toInt)]
  | .float x => Json.ofMembers [(Kind.name .float, Json.ofDouble x)]
  | .decimal x => Json.ofMembers [(Kind.name .decimal, Json.ofString x.toText)]
  | .text s => Json.ofMembers [(Kind.name .text, Json.ofString s)]

/-- A value of the kind that a key names. -/
def valueOfKind? (kind : Kind) (content : Json) : Option Value :=
  match kind with
  | .integer => (int64? content).map .integer
  | .float => (double? content).map .float
  | .boolean => (bool? content).map .boolean
  | .text => (string? content).map .text
  | .decimal => (decimal? content).map .decimal

def value? : Json → Option Value
  | .text content => if content = some nullName then some .null else none
  | .object [(some name, content)] =>
    match Kind.ofName? name, content with
    | some kind, content => valueOfKind? kind content
    | none, .null => if name = nullName then some .null else none
    | none, _ => none
  | _ => none

instance : Saved Value where
  toJson := valueToJson
  ofJson? := value?

/-! ## Records -/

/-- What is saved under a key: nothing, one part, or too much. -/
inductive Entry where
  | absent
  | present (json : Json)
  | repeated

/-- The part under a key. -/
def entry (members : List (Option String × Json)) (key : String) : Entry :=
  match members.filter fun member => member.1 == some key with
  | [] => .absent
  | [(_, json)] => .present json
  | _ => .repeated

/-- Read the part under a key, or take the value for a missing one. -/
def field? {α : Type} (read? : Json → Option α) (missing : Option α) : Entry → Option α
  | .absent => missing
  | .present json => read? json
  | .repeated => none

/-- The entries of a record, from an object with readable keys or from an array that is not longer
than the record. -/
def entries? (keys : List String) : Json → Option (List Entry)
  | .object members =>
    if members.all fun member => member.1.isSome then some (keys.map (entry members)) else none
  | .array items =>
    if items.length ≤ keys.length then
      some (items.map .present ++ List.replicate (keys.length - items.length) .absent)
    else none
  | _ => none

def isArray : Json → Bool
  | .array _ => true
  | _ => false

/-! ## Clocks -/

def clockKeys : List String := ["time", "step", "delta_time"]

def clockToJson (clock : Clock) : Json :=
  let counter := fun count : Option UInt64 => (count.map fun n => Json.ofInt n.toNat).getD .null
  Json.ofMembers
    [("time", counter clock.time), ("step", counter clock.step),
      ("delta_time", (clock.deltaTime.map Json.ofDouble).getD .null)]

def clock? (json : Json) : Option Clock := do
  match ← entries? clockKeys json with
  | [time, step, deltaTime] =>
    let missing {α : Type} : Option (Option α) := if isArray json then none else some none
    return {
      time := ← field? (optional? uint64?) missing time
      step := ← field? (optional? uint64?) missing step
      deltaTime := ← field? (optional? double?) missing deltaTime }
  | _ => none

instance : Saved Clock where
  toJson := clockToJson
  ofJson? := clock?

/-! ## Options -/

def optionKeys : List String :=
  ["ignore_case", "round_away_from_zero", "reset_on_new_run", "random_seed", "default_delta_time"]

def optionsToJson (options : Options) : Json :=
  Json.ofMembers
    [("ignore_case", .boolean options.ignoreCase),
      ("round_away_from_zero", .boolean options.roundAwayFromZero),
      ("reset_on_new_run", .boolean options.resetOnNewRun),
      ("random_seed", (options.randomSeed.map fun seed => Json.ofInt seed.toNat).getD .null),
      ("default_delta_time", Json.ofDouble options.defaultDeltaTime)]

def options? (json : Json) : Option Options := do
  match ← entries? optionKeys json with
  | [ignoreCase, roundAwayFromZero, resetOnNewRun, randomSeed, defaultDeltaTime] =>
    return {
      ignoreCase := ← field? bool? (some Options.default.ignoreCase) ignoreCase
      roundAwayFromZero :=
        ← field? bool? (some Options.default.roundAwayFromZero) roundAwayFromZero
      resetOnNewRun := ← field? bool? (some Options.default.resetOnNewRun) resetOnNewRun
      randomSeed := ← field? (optional? uint64?) (some Options.default.randomSeed) randomSeed
      defaultDeltaTime :=
        ← field? double? (some Options.default.defaultDeltaTime) defaultDeltaTime }
  | _ => none

instance : Saved Options where
  toJson := optionsToJson
  ofJson? := options?

/-! ## Loading -/

variable {α : Type} [Saved α]

/-- The saved form as text. -/
def save (a : α) : String := (toJson a).toText

/-- What a text saves. -/
def load? (text : String) : Option α := (Json.ofText? text).bind ofJson?

/-- What a text saves, or the failure to read it. -/
def load (text : String) : Attempt α :=
  match load? text with
  | some a => .ok a
  | none => .error (.config "Failed to parse options")

/-- What a file saves, given the content of the file if there is one. -/
def loadFile (content : Option String) : Attempt α :=
  match content with
  | none => .error (.config "Failed to open options file")
  | some text =>
    match load? text with
    | some a => .ok a
    | none => .error (.config "Failed to parse options file")

end Saved

end ClockedFormula
