import ClockedFormula.Proofs.Formula.Shadowing
import ClockedFormula.Proofs.Walk.Respelling
import Mathlib.Data.List.Nodup

namespace ClockedFormula

open Walk

/-!
# Evaluations that ignore the case of letters

A formula that matches names in any case looks at them in five places: for a binding, for a reading of the
clock, for a function, and where it asks the two kinds of handlers.  None of them tells two spellings of an
ASCII name apart, provided that no two bindings differ in case only; otherwise the exact spelling would
choose between them.  So an evaluation does not depend on how names are spelled, but for the name that a
failure carries.

Formulas that are met under a name are the same in both evaluations, and may have any handlers.
-/

/-- Whether two expressions are the same but for the case of letters in ASCII names. -/
inductive Expr.Respelled : Expr → Expr → Prop
  | literal (v : Value) : Respelled (.literal v) (.literal v)
  | identifier {first second : String} (names : Text.Respelled first second) :
    Respelled (.identifier first) (.identifier second)
  | unary (op : UnaryOperator) {operand other : Expr} (operands : Respelled operand other) :
    Respelled (.unary op operand) (.unary op other)
  | binary (op : BinaryOperator) {left right leftAlso rightAlso : Expr}
    (lefts : Respelled left leftAlso) (rights : Respelled right rightAlso) :
    Respelled (.binary op left right) (.binary op leftAlso rightAlso)
  | conditional {condition thenBranch elseBranch conditionAlso thenAlso elseAlso : Expr}
    (conditions : Respelled condition conditionAlso) (thens : Respelled thenBranch thenAlso)
    (elses : Respelled elseBranch elseAlso) :
    Respelled (.conditional condition thenBranch elseBranch)
      (.conditional conditionAlso thenAlso elseAlso)
  | call (id : NodeId) {first second : String} (names : Text.Respelled first second)
    {arguments others : List Expr} (parts : List.Forall₂ Respelled arguments others) :
    Respelled (.call id first arguments) (.call id second others)

/-- An expression that is respelled is composed in the same way, of parts that are respelled. -/
theorem Composed.respelled {e other : Expr} {count : Nat} {recipe : Recipe Unit count Value}
    {parts : Fin count → Expr} (composed : Composed e count recipe parts)
    (respelled : e.Respelled other) :
    ∃ others : Fin count → Expr, Composed other count recipe others ∧
      ∀ position, (parts position).Respelled (others position) := by
  cases composed with
  | unary op operand =>
    cases respelled with
    | unary op operands => exact ⟨_, .unary op _, fun _ => operands⟩
  | binary op left right =>
    cases respelled with
    | binary op lefts rights =>
      refine ⟨_, .binary op _ _, fun position => ?_⟩
      match position with
      | 0 => exact lefts
      | 1 => exact rights
  | conditional condition thenBranch elseBranch =>
    cases respelled with
    | conditional conditions thens elses =>
      refine ⟨_, .conditional _ _ _, fun position => ?_⟩
      match position with
      | 0 => exact conditions
      | 1 => exact thens
      | 2 => exact elses

/-! ## Names -/

/-- Whether a context matches names in any case, and no two bindings differ in case only. -/
structure Context.IgnoresCase (context : Context) : Prop where
  ignores : context.options.ignoreCase = true
  distinct : (context.bindings.keys.map Text.lowerCase).Nodup

section Names

variable {context : Context} {first second : String}

/-- If no two bindings differ in case only, an exact match is the only match. -/
theorem Bindings.key?_eq_find? {bindings : Bindings}
    (distinct : (bindings.keys.map Text.lowerCase).Nodup) (name : String) :
    bindings.key? true name = bindings.keys.find? (folds name) := by
  unfold key?
  by_cases bound : name ∈ bindings.keys
  · rw [if_pos bound]
    cases found : bindings.keys.find? (folds name) with
    | none => exact absurd (beq_iff_eq.mpr rfl) (List.find?_eq_none.mp found name bound)
    | some key =>
      have folded : folds name key = true := List.find?_some found
      have same : key = name :=
        List.inj_on_of_nodup_map distinct (List.mem_of_find?_eq_some found) bound (eq_of_beq folded)
      rw [same]
  · rw [if_neg bound, if_pos rfl]

theorem Context.IgnoresCase.find?_eq (ignoring : context.IgnoresCase)
    (names : Text.Respelled first second) : context.find? first = context.find? second := by
  have folds : Bindings.folds first = Bindings.folds second := by
    funext bound
    rw [Bindings.folds, Bindings.folds, names.lowerCase_eq]
  rw [Context.find?, Context.find?, ignoring.ignores, Bindings.find?_eq_key?, Bindings.find?_eq_key?,
    Bindings.key?_eq_find? ignoring.distinct, Bindings.key?_eq_find? ignoring.distinct, folds]

theorem Context.IgnoresCase.foldName_eq (ignoring : context.IgnoresCase)
    (names : Text.Respelled first second) : context.foldName first = context.foldName second := by
  rw [Context.foldName, Context.foldName, if_pos ignoring.ignores, if_pos ignoring.ignores,
    names.lowerCase_eq]

theorem Context.IgnoresCase.endsWith_eq (ignoring : context.IgnoresCase)
    (names : Text.Respelled first second) (ending : String) :
    context.endsWith first ending = context.endsWith second ending := by
  have byLetters : ∀ name, context.endsWith name ending = Text.equalIgnoringAsciiCase
      (String.ofList (name.toList.drop (name.length - ending.length))) ending := by
    intro name
    unfold Context.endsWith
    dsimp only
    rw [ignoring.ignores, Bool.true_and]
    by_cases exactly : String.ofList (name.toList.drop (name.length - ending.length)) = ending
    · rw [exactly, Text.equalIgnoringAsciiCase, beq_self_eq_true, beq_self_eq_true, Bool.true_or]
    · rw [beq_eq_false_iff_ne.mpr exactly, Bool.false_or]
  rw [byLetters, byLetters, Text.equalIgnoringAsciiCase, Text.equalIgnoringAsciiCase, names.length_eq,
    names.drop]

theorem Context.IgnoresCase.clockReading?_eq (ignoring : context.IgnoresCase)
    (names : Text.Respelled first second) :
    context.clockReading? first = context.clockReading? second := by
  unfold Context.clockReading?
  rw [ignoring.endsWith_eq names, ignoring.endsWith_eq names]

theorem Function.resolve_respelled (names : Text.Respelled first second) :
    Attempt.Respelled (Function.resolve first true) (Function.resolve second true) := by
  have found : (fun f : Function => Text.equalIgnoringAsciiCase f.name first) =
      fun f => Text.equalIgnoringAsciiCase f.name second := by
    funext f
    rw [Text.equalIgnoringAsciiCase, Text.equalIgnoringAsciiCase, names.lowerCaseAscii_eq]
  unfold Function.resolve
  rw [found]
  cases Function.all.find? fun f => Text.equalIgnoringAsciiCase f.name second with
  | none => exact .error (.function names none)
  | some f => exact .ok f

end Names

/-! ## Calls and expressions -/

section Evaluations

variable {context : Context} {enter : Context → Formula → Walk Value} {first second : String}

theorem callOperands_respelled (ignores : context.options.ignoreCase = true)
    (names : Text.Respelled first second) {count : Nat} {operands others : Fin count → Walk Value}
    (asks : ∀ position, Walk.Respelled (operands position) (others position)) (id : NodeId) :
    Walk.Respelled (callOperands context id first count operands)
      (callOperands context id second count others) := by
  have memory := World.Respelled.sharesMemory
  have same : Walk.Respelled (callOperands context id first count operands)
      (callOperands context id first count others) :=
    RespelledBy.sequential.callOperands asks context id first (.of_parallel (memory.begins context id))
      (.of_parallel (memory.reads context.store id))
      fun workspace => .of_parallel (memory.writes context.store id workspace)
  have resolved := Function.resolve_respelled names
  rw [← ignores] at resolved
  generalize here : Function.resolve first context.options.ignoreCase = one at resolved
  generalize there : Function.resolve second context.options.ignoreCase = other at resolved
  cases resolved with
  | ok f =>
    have alike : callOperands context id first count others =
        callOperands context id second count others := by
      rw [callOperands, callOperands, here, there]
    rwa [alike] at same
  | error failures =>
    rw [callOperands_unresolved here, callOperands_unresolved there]
    exact .fails failures

theorem evaluateCall_respelled (ignoring : context.IgnoresCase)
    (goByName : ∀ handler ∈ context.functionHandlers, handler.GoesByName)
    (names : Text.Respelled first second) {arguments others : List Argument}
    (agree : RespelledArguments arguments others) (id : NodeId) :
    Walk.Respelled (evaluateCall context id first arguments) (evaluateCall context id second others) := by
  have notes : ∀ v, Walk.Respelled
      (Walk.modifyMemory context.store (fun memory => memory.recordResult id v) >>= fun _ => pure v)
      (Walk.modifyMemory context.store (fun memory => memory.recordResult id v) >>= fun _ => pure v) :=
    fun v => (RespelledBy.of_parallel (World.Respelled.sharesMemory.records context.store id v)).bind
      fun _ _ _ => .yields rfl
  have called : Walk.Respelled (callFunction context id first arguments)
      (callFunction context id second others) := by
    rw [callFunction_eq_callOperands rfl, callFunction_eq_callOperands agree.length_eq.symm]
    refine callOperands_respelled ignoring.ignores names (fun position => ?_) id
    exact agree.get position.isLt (agree.length_eq ▸ position.isLt)
  unfold evaluateCall
  rw [ignoring.foldName_eq names]
  refine (consult_respelled goByName agree _).bind fun claimed also same => ?_
  subst same
  cases claimed with
  | some v => exact notes v
  | none => exact RespelledBy.sequential.sequences called notes

theorem evaluateIdentifier_respelled (ignoring : context.IgnoresCase)
    (enters : ∀ f, Walk.Respelled (enter context f) (enter context f))
    (names : Text.Respelled first second) :
    Walk.Respelled (evaluateIdentifier enter context first)
      (evaluateIdentifier enter context second) := by
  unfold evaluateIdentifier
  rw [ignoring.find?_eq names, ignoring.clockReading?_eq names, ignoring.foldName_eq names]
  cases context.find? second with
  | some binding =>
    cases binding with
    | value v => exact .yields rfl
    | formula f => exact enters f
  | none =>
    cases context.clockReading? second with
    | some v => exact .yields rfl
    | none =>
      -- Without arguments, handlers are asked the very same.
      have consulted : Parallel World.Respelled
          (consult context context.identifierHandlers (context.foldName second) [])
          (consult context context.identifierHandlers (context.foldName second) []) :=
        (World.Respelled.congruence context.root).consult (Parallel.catches _) .nil rfl
          (.inl (World.Respelled.congruence context.root).shows) _
      refine (RespelledBy.of_parallel consulted).bind fun claimed also same => ?_
      subst same
      cases claimed with
      | some v => exact .yields rfl
      | none => exact .fails (.parameter names)

theorem evaluate_respelled (ignoring : context.IgnoresCase)
    (goByName : ∀ handler ∈ context.functionHandlers, handler.GoesByName)
    (enters : ∀ f, Walk.Respelled (enter context f) (enter context f)) {e other : Expr}
    (respelled : e.Respelled other) :
    Walk.Respelled (evaluate enter context e) (evaluate enter context other) := by
  induction e using Expr.induct_composed generalizing other with
  | literal v =>
    cases respelled with
    | literal => exact .yields rfl
  | identifier name =>
    cases respelled with
    | identifier names => exact evaluateIdentifier_respelled ignoring enters names
  | composed e count recipe parts composed ih =>
    rcases composed.respelled respelled with ⟨others, alsoComposed, alike⟩
    rw [composed.evaluate_eq, alsoComposed.evaluate_eq]
    exact RespelledBy.sequential.followPlain (fun position => ih position (alike position)) recipe
  | call id name arguments ih =>
    cases respelled with
    | call id names parts =>
      refine evaluateCall_respelled ignoring goByName names ?_ id
      rw [delay_eq_map, delay_eq_map, RespelledArguments, Walk.Relation.OfArguments,
        List.forall₂_map_left_iff, List.forall₂_map_right_iff]
      rcases List.forall₂_iff_get.mp parts with ⟨length, alike⟩
      exact List.forall₂_iff_get.mpr ⟨length, fun position inside also =>
        ih _ (List.get_mem arguments ⟨position, inside⟩) (alike position inside also)⟩

/-- A walk does not depend on how names are spelled in its expression. -/
theorem walk_respelled (ignoring : context.IgnoresCase)
    (goByName : ∀ handler ∈ context.functionHandlers, handler.GoesByName) (depth : Nat)
    {e other : Expr} (respelled : e.Respelled other) :
    Walk.Respelled (walk depth context e) (walk depth context other) := by
  cases depth with
  | zero => exact .stops .exhausted
  | succ depth =>
    -- What is under a name is the same formula in both walks.
    have inside : ∀ f : Formula, Parallel World.Respelled (walk depth (context.enter f) f.expression)
        (walk depth (context.enter f) f.expression) :=
      fun f => (World.Respelled.congruence (context.enter f).root).walk (Parallel.catches _) rfl depth _
    exact evaluate_respelled ignoring goByName (fun f => .of_parallel (inside f)) respelled

end Evaluations

/-- Whether two evaluations end in the same way but for the spelling of a name in a failure. -/
inductive Outcome.Respelled : Outcome → Outcome → Prop
  | finished {first second : Attempt Value} (results : Attempt.Respelled first second) :
    Respelled (.finished first) (.finished second)
  | unfinished : Respelled .unfinished .unfinished

namespace Formula

/-- A formula with another expression. -/
def withExpression (f : Formula) (e : Expr) : Formula := { f with expression := e }

/-- A formula that matches names in any case comes to the same value however the names in its expression
are spelled, or to the same failure but for the spelling of a name.  It leaves the same stores behind and
asks handlers about the same names in the same order, and what they note is the same but for the spelling of
names in failures. -/
theorem evaluateTo_respelled {f : Formula} (ignores : f.options.ignoreCase = true)
    (distinct : (f.bindings.keys.map Text.lowerCase).Nodup)
    (goByName : ∀ handler ∈ f.functionHandlers, handler.GoesByName) {e : Expr}
    (respelled : f.expression.Respelled e) (depth : Nat) (clock : Clock) (world : World) :
    let one := f.evaluateTo depth clock world
    let other := (f.withExpression e).evaluateTo depth clock world
    one.1.Respelled other.1 ∧ one.2.stores = other.2.stores ∧
      one.2.journal.filterMap Note.asked? = other.2.journal.filterMap Note.asked? ∧
      List.Forall₂ Note.Respelled one.2.journal other.2.journal := by
  have ignoring : (Context.ofFormula f clock).IgnoresCase := ⟨ignores, distinct⟩
  have walks := walk_respelled ignoring goByName depth respelled
  have alike : ∀ {one other : Outcome × World}, one.1.Respelled other.1 → one.2.Respelled other.2 →
      one.1.Respelled other.1 ∧ one.2.stores = other.2.stores ∧
        one.2.journal.filterMap Note.asked? = other.2.journal.filterMap Note.asked? ∧
        List.Forall₂ Note.Respelled one.2.journal other.2.journal :=
    fun outcomes worlds => ⟨outcomes, worlds.stores, worlds.asked_eq, worlds.journal⟩
  have same : walk depth (Context.ofFormula (f.withExpression e) clock) (f.withExpression e).expression =
      walk depth (Context.ofFormula f clock) e := rfl
  unfold evaluateTo
  rw [same]
  rcases walks.cases (.refl world) with ⟨v, other, after, last, here, there, rfl, worlds⟩ |
    ⟨reason, other, after, last, here, there, reasons, worlds⟩
  · rw [here, there]
    exact alike (.finished (.ok v)) worlds
  · rw [here, there]
    cases reasons with
    | failed failures => exact alike (.finished (.error failures)) worlds
    | dropped => exact alike (.finished (.error (.same .cancelled))) worlds
    | exhausted => exact alike .unfinished worlds

/-- A handler that claims nothing, but notes what the first argument comes to. -/
def listener : Handler where
  label := "listener"
  respond _ := .evaluate 0 fun result => .note (.evaluated result) .done

theorem listener_goesByName : listener.GoesByName :=
  fun _ _ _ _ => .evaluate 0 fun _ _ results => .note (.evaluated results) .done

/-- A call of a name that is bound and of one that is not, both in capitals. -/
def shouted : Formula where
  expression := .call ⟨0⟩ "ABS" [.binary .plus (.identifier "HEIGHT") (.identifier "GAP")]
  options := { Options.default with ignoreCase := true }
  bindings := ⟨[("Height", .value (.integer 3)), ("width", .value (.integer 4))]⟩
  identifierHandlers := []
  functionHandlers := [listener]
  store := ⟨0⟩

/-- The same in small letters. -/
def whispered : Expr :=
  .call ⟨0⟩ "abs" [.binary .plus (.identifier "height") (.identifier "gap")]

/-- In capitals as in small letters, the same handler is asked about the same name, and the failure names what
is not defined as it is spelled. -/
theorem shouted_as_whispered :
    shouted.options.ignoreCase = true ∧ (shouted.bindings.keys.map Text.lowerCase).Nodup ∧
      (∀ handler ∈ shouted.functionHandlers, handler.GoesByName) ∧
      shouted.expression.Respelled whispered ∧
      (shouted.evaluateTo 1 .blank .empty).1.Respelled
        ((shouted.withExpression whispered).evaluateTo 1 .blank .empty).1 ∧
      (shouted.evaluateTo 1 .blank .empty).1 = .finished (.error (.parameterNotDefined "GAP")) ∧
      ((shouted.withExpression whispered).evaluateTo 1 .blank .empty).1 =
        .finished (.error (.parameterNotDefined "gap")) ∧
      (shouted.evaluateTo 1 .blank .empty).2.journal.filterMap Note.asked? = [("listener", "abs")] := by
  have distinct : (shouted.bindings.keys.map Text.lowerCase).Nodup := by decide +kernel
  have goByName : ∀ handler ∈ shouted.functionHandlers, handler.GoesByName :=
    List.forall_mem_singleton.mpr listener_goesByName
  have name : ∀ {first second : String}, Text.IsAscii first ∧ Text.IsAscii second ∧
      Text.equalIgnoringAsciiCase first second = true → Text.Respelled first second :=
    fun known => .ascii known.1 known.2.1 known.2.2
  have respelled : shouted.expression.Respelled whispered :=
    .call ⟨0⟩ (name (by decide +kernel)) (.cons (.binary .plus (.identifier (name (by decide +kernel)))
      (.identifier (name (by decide +kernel)))) .nil)
  exact ⟨rfl, distinct, goByName, respelled,
    (evaluateTo_respelled rfl distinct goByName respelled 1 .blank .empty).1, rfl, rfl,
    by decide +kernel⟩

end Formula

end ClockedFormula
