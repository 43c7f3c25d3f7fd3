import ClockedFormula.Proofs.Evaluation.Likeness
import ClockedFormula.Proofs.Evaluation.Occasion
import ClockedFormula.Proofs.Formula.Tree
import ClockedFormula.Proofs.Table.Arrangement

namespace ClockedFormula

open Walk

/-!
# Bindings in different orders

A formula that matches names in any case takes the first binding whose name is the same in lower case, and
the bindings around a formula are laid over its own, each at the place that its name already has.  So there
are orders that count: those among names that differ in case only.  If a formula is given bindings no two of
which do so, their own order does not count.  It does not come to count further down either, where they meet
the bindings of other formulas: what is kept from level to level is the order within each class of names.

The list of bound names itself is in a different order, and a handler can see it.  The handlers that are
considered here do not look.  They may still ask whether a name is bound.
-/

/-! ## Handlers -/

namespace Request

/-- The request without the lists of bound names. -/
def withoutNames (request : Request) : Request :=
  { request with
    arguments := request.arguments.map fun view =>
      { view with context := { view.context with names := [] } } }

end Request

/-- Whether a handler does not look at the lists of bound names. -/
def Handler.OverlooksNames (handler : Handler) : Prop :=
  ∀ request : Request, handler.respond request = handler.respond request.withoutNames

/-! ## Equal walks -/

/-- Equality of walks. -/
abbrev Walk.Same : Walk.Relation := fun walk other => walk = other

theorem Walk.Same.congruence (root : StoreId) : Congruence root Walk.Same where
  yields _ := rfl
  stops _ := rfl
  sequences first rest := first ▸ bind_congr rest
  checks := rfl
  cancels _ := rfl
  notes _ := rfl
  counts _ := rfl
  shows _ _ := rfl
  calls same _ _ _ := congrArg _ (funext same)
  records _ _ _ := rfl

theorem Walk.Same.arguments_eq {arguments others : List Argument}
    (agree : Walk.Relation.OfArguments Walk.Same arguments others) (same : SameViews arguments others) :
    arguments = others := by
  induction agree with
  | nil => rfl
  | @cons argument other rest later values _ ih =>
    have parts := List.cons.inj same
    rcases argument with ⟨expression, value⟩
    rcases other with ⟨expressionAlso, valueAlso⟩
    cases parts.1
    cases values
    rw [ih parts.2]

/-! ## Contexts -/

namespace Context

/-- Whether two contexts differ in the arrangement of their bindings only, and nobody sees a difference. -/
structure Rearranged (all : List Formula) (context other : Context) : Prop
    extends SameSetting context other where
  identifierHandlers : context.identifierHandlers = other.identifierHandlers
  functionHandlers : context.functionHandlers = other.functionHandlers
  bindings : context.bindings.SameBy Text.lowerCase other.bindings
  within : context.bindings.Within all
  overlook : ∀ handler ∈ context.identifierHandlers ++ context.functionHandlers, handler.OverlooksNames

namespace Rearranged

variable {all : List Formula} {context other : Context}

theorem find?_eq (rearranged : context.Rearranged all other) (name : String) :
    context.find? name = other.find? name := by
  unfold find? Bindings.find?
  rw [rearranged.bindings.get?_eq, rearranged.options]
  dsimp only
  rw [rearranged.bindings.find?_eq]

/-- A handler that does not look at the list of names does the same in both contexts. -/
theorem respond_eq (rearranged : context.Rearranged all other) {handler : Handler}
    (overlooks : handler.OverlooksNames) (name : String) (arguments : List Argument) (timesAsked : Nat) :
    handler.respond (context.request name arguments timesAsked) =
      handler.respond (other.request name arguments timesAsked) := by
  have finds : (fun name => (context.find? name).map Binding.view) =
      fun name => (other.find? name).map Binding.view := by
    funext name
    rw [rearranged.find?_eq]
  have views : ({ context.view with names := [] } : ArgumentContext) = { other.view with names := [] } := by
    unfold view
    rw [rearranged.clock, rearranged.options, finds]
  have requests : (context.request name arguments timesAsked).withoutNames =
      (other.request name arguments timesAsked).withoutNames := by
    simp only [Request.withoutNames, request, List.map_map, Function.comp_def, views]
  rw [overlooks, requests, ← overlooks]

theorem consult_eq (rearranged : context.Rearranged all other) {handlers : List Handler}
    (overlook : ∀ handler ∈ handlers, handler.OverlooksNames) (name : String)
    (arguments : List Argument) :
    consult context handlers name arguments = consult other handlers name arguments := by
  have asked : ∀ claimed, consult.ask context name arguments handlers claimed =
      consult.ask other name arguments handlers claimed := by
    induction handlers with
    | nil => exact fun claimed => rfl
    | cons handler rest ih =>
      intro claimed
      have known := List.forall_mem_cons.mp overlook
      have others : consult.ask context name arguments rest = consult.ask other name arguments rest :=
        funext (ih known.2)
      simp only [consult.ask_cons_eq, rearranged.respond_eq known.1, rearranged.root, others]
  exact asked none

theorem alike (rearranged : context.Rearranged all other) :
    context.Alike Walk.Same (fun f g => f = g ∧ f ∈ all) other where
  toSameSetting := rearranged.toSameSetting
  finds name := by
    rw [← rearranged.find?_eq]
    cases found : context.find? name with
    | none => exact .none
    | some binding =>
      cases binding with
      | value v => exact .some (.value v)
      | formula f => exact .some (.formula ⟨rfl, rearranged.within.find? found⟩)
  identifiers name := by
    rw [← rearranged.identifierHandlers]
    exact rearranged.consult_eq
      (fun handler member => rearranged.overlook handler (List.mem_append_left _ member)) name []
  functions name := by
    intro arguments others agree same
    rw [← rearranged.functionHandlers, Walk.Same.arguments_eq agree same]
    exact rearranged.consult_eq
      (fun handler member => rearranged.overlook handler (List.mem_append_right _ member)) name others

/-- The same formula, entered from both contexts. -/
theorem enter (rearranged : context.Rearranged all other) {f : Formula} (within : Bindings.Within all f.bindings)
    (overlook : f.OwnHandlers Handler.OverlooksNames) :
    (context.enter f).Rearranged all (other.enter f) where
  options := rfl
  store := rfl
  clock := rearranged.clock
  root := rearranged.root
  identifierHandlers := rfl
  functionHandlers := rfl
  bindings := (Table.SameBy.refl _ _).overlay rearranged.bindings
  within := within.overlay rearranged.within
  overlook := overlook

end Rearranged

end Context

/-- Walks of an expression are the same. -/
theorem walk_rearranged {all : List Formula}
    (overlook : ∀ g ∈ all, g.OwnHandlers Handler.OverlooksNames)
    (closed : ∀ g ∈ all, Bindings.Within all g.bindings) (depth : Nat) {context other : Context}
    (rearranged : context.Rearranged all other) (e : Expr) : walk depth context e = walk depth other e := by
  induction depth generalizing context other e with
  | zero => rfl
  | succ depth ih =>
    refine (Walk.Same.congruence context.root).evaluate_alike rearranged.alike (fun {f g} alike => ?_) e
    obtain ⟨rfl, member⟩ := alike
    exact ih (rearranged.enter (closed f member) (overlook f member)) f.expression

namespace Formula

/-- Give a formula bindings one after the other. -/
def bindEach (f : Formula) (bindings : List (String × Binding Formula)) : Formula :=
  bindings.foldl (fun g binding => g.bind binding.1 binding.2) f

theorem bindEach_eq (f : Formula) (bindings : List (String × Binding Formula)) :
    f.bindEach bindings = { f with bindings := f.bindings.overlay ⟨bindings⟩ } := by
  induction bindings generalizing f with
  | nil =>
    cases f
    rfl
  | cons binding rest ih => exact ih (f.bind binding.1 binding.2)

/-- If no two of the bindings that a formula is given have the same name in lower case, it does not matter in
which order they are given: every evaluation has the same outcome and leaves the same world behind. -/
theorem evaluateTo_bindEach_perm (f : Formula) {bindings others : List (String × Binding Formula)}
    (perm : bindings.Perm others)
    (distinct : (bindings.map fun binding => Text.lowerCase binding.1).Nodup)
    (overlooks : (f.bindEach bindings).AllHandlers Handler.OverlooksNames) (depth : Nat) (clock : Clock) (world : World) :
    (f.bindEach bindings).evaluateTo depth clock world =
      (f.bindEach others).evaluateTo depth clock world := by
  have insideOverlooks := List.forall_mem_cons.mp overlooks
  have closed : ∀ g ∈ (f.bindEach bindings).inner, Bindings.Within (f.bindEach bindings).inner g.bindings :=
    fun g inside => bindings_within_of_mem inside
  have within := (f.bindEach bindings).bindings_within
  have rearranged : (Context.ofFormula (f.bindEach bindings) clock).Rearranged (f.bindEach bindings).inner
      (Context.ofFormula (f.bindEach others) clock) := by
    generalize (f.bindEach bindings).inner = all at within ⊢
    rw [bindEach_eq] at within overlooks ⊢
    rw [bindEach_eq]
    exact {
      options := rfl
      store := rfl
      clock := rfl
      root := rfl
      identifierHandlers := rfl
      functionHandlers := rfl
      bindings := (Table.SameBy.refl _ _).overlay (Table.sameBy_of_perm perm distinct)
      within := within
      overlook := (List.forall_mem_cons.mp overlooks).1 }
  have expressions : (f.bindEach bindings).expression = (f.bindEach others).expression := by
    rw [bindEach_eq, bindEach_eq]
  unfold evaluateTo
  rw [← expressions, walk_rearranged insideOverlooks.2 closed depth rearranged]

/-- A formula for a height that has two heights of its own, in different cases. -/
def sized : Formula where
  expression := .identifier "height"
  options := { Options.default with ignoreCase := true }
  bindings := ⟨[("Height", .value (.integer 100)), ("heighT", .value (.integer 50))]⟩
  identifierHandlers := []
  functionHandlers := []
  store := ⟨1⟩

/-- A handler that looks for the binding of a single name. -/
def surveyor : Handler where
  label := "surveyor"
  respond request :=
    match request.arguments with
    | [] => .done
    | view :: _ => .claim (.boolean (view.context.find? "HEIGHT").isSome) .done

theorem surveyor_overlooksNames : surveyor.OverlooksNames := by
  rintro ⟨name, arguments⟩
  cases arguments <;> rfl

/-- A formula that takes the height if there is one. -/
def survey : Formula :=
  { Formula.ofExpr (.conditional (.call ⟨0⟩ "abs" [.literal (.integer 0)]) (.identifier "measure")
      (.literal .null)) .default ⟨0⟩ with
    functionHandlers := [surveyor] }

/-- The bindings of the formula. -/
def surveyed : List (String × Binding Formula) :=
  [("measure", .formula sized), ("HEIGHT", .value (.integer 2))]

/-- Of the heights inside the first one is taken, whichever way the bindings outside are given. -/
theorem survey_in_both_orders :
    surveyed.Perm surveyed.reverse ∧ (surveyed.map fun binding => Text.lowerCase binding.1).Nodup ∧
      (survey.bindEach surveyed).AllHandlers Handler.OverlooksNames ∧
      (survey.bindEach surveyed).evaluateTo 2 .blank .empty =
        (survey.bindEach surveyed.reverse).evaluateTo 2 .blank .empty ∧
      ((survey.bindEach surveyed).evaluateTo 2 .blank .empty).1.value? = some (.integer 100) := by
  have perm : surveyed.Perm surveyed.reverse := (List.reverse_perm surveyed).symm
  have distinct : (surveyed.map fun binding => Text.lowerCase binding.1).Nodup := by
    change [Text.lowerCase "measure", Text.lowerCase "HEIGHT"].Nodup
    decide +kernel
  have alone : sized.inner = [] := by
    rw [inner_eq_innerOfTable]
    rfl
  have inside : (survey.bindEach surveyed).inner = [sized] := by
    have bound : (survey.bindEach surveyed).bindings = ⟨surveyed⟩ := rfl
    rw [inner_eq_innerOfTable, bound, surveyed, innerOfTable, innerOfEntries, innerOfEntry, innerOfBinding,
      alone]
    rfl
  have overlooks : (survey.bindEach surveyed).AllHandlers Handler.OverlooksNames := by
    rw [AllHandlers, inside]
    refine List.forall_mem_cons.mpr ⟨List.forall_mem_singleton.mpr surveyor_overlooksNames, ?_⟩
    exact List.forall_mem_singleton.mpr fun handler member => absurd member List.not_mem_nil
  have value : ((survey.bindEach surveyed).evaluateTo 2 .blank .empty).1.value? = some (.integer 100) := by
    decide +kernel
  exact ⟨perm, distinct, overlooks,
    evaluateTo_bindEach_perm survey perm distinct overlooks 2 .blank .empty, value⟩

end Formula

end ClockedFormula
