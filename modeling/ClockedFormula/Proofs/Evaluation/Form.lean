import ClockedFormula.Proofs.Evaluation.Respelling
import Mathlib.Data.List.Induction

namespace ClockedFormula

open Walk

/-!
# Calls that operators express

Two of the built-in functions can be said with operators: the choice between two values is the conditional,
and the search for a value among others is a row of comparisons, joined from the left so that the first one
that holds ends it.  The function goes along the row by itself, whereas the operators are nested to the left
and the outermost one is evaluated first.  So they are compared through what both come to, a search along
the walks to the candidates.

As walks the two forms are equal but for one step at the end: a call notes its result, and an operator has
no node to do so.  The value that is searched for is a literal, since the operators would evaluate anything
else once for each comparison.
-/

/-! ## Searching -/

/-- Whether one of several walks comes to a value that equals another one; those behind it are not walked. -/
def Walk.search (needle : Value) : List (Walk Value) → Walk Bool
  | [] => pure false
  | candidate :: rest => do
    if ← Walk.ofAttempt (needle.equals (← candidate)) then pure true else Walk.search needle rest

theorem Walk.search_append (needle : Value) (candidates others : List (Walk Value)) :
    Walk.search needle (candidates ++ others) =
      (Walk.search needle candidates >>= fun found =>
        if found then pure true else Walk.search needle others) := by
  induction candidates with
  | nil => rfl
  | cons candidate rest ih =>
    simp only [List.cons_append, Walk.search, LawfulMonad.bind_assoc]
    refine bind_congr fun v => bind_congr fun found => ?_
    cases found with
    | true => rfl
    | false => exact ih

/-- The function that searches goes along the walks to its candidates. -/
theorem MathFunction.followPlain_isAmong {count : Nat} (operands : Fin count → Walk Value) (needle : Value)
    (positions : List (Fin count)) :
    (isAmong needle positions).followPlain operands =
      (Walk.search needle (positions.map operands) >>= fun found => pure (.boolean found)) := by
  induction positions with
  | nil => rfl
  | cons position rest ih =>
    have asked : (isAmong needle (position :: rest)).followPlain operands =
        operands position >>= fun v =>
          ((Recipe.ofAttempt (needle.equals v)).bind fun found =>
            if found then .answer (.boolean true) else isAmong needle rest).followPlain operands := rfl
    rw [asked, List.map_cons, Walk.search, LawfulMonad.bind_assoc]
    refine bind_congr fun v => ?_
    cases needle.equals v with
    | error e => rfl
    | ok found =>
      cases found with
      | true => rfl
      | false => exact ih

/-! ## Operators -/

section Operators

variable {enter : Context → Formula → Walk Value} {context : Context}

/-- Comparing with a literal is searching in a single place. -/
theorem evaluate_equal_literal (needle : Value) (candidate : Expr) :
    evaluate enter context (.binary .equal (.literal needle) candidate) =
      (Walk.search needle [evaluate enter context candidate] >>= fun found => pure (.boolean found)) := by
  have compared : evaluate enter context (.binary .equal (.literal needle) candidate) =
      evaluate enter context candidate >>= fun v =>
        (Recipe.ofAttempt (BinaryOperator.holdsFor (· == .eq) needle v)).followPlain
          (operandsOfTwo (evaluate enter context (.literal needle)) (evaluate enter context candidate)) := by
    rw [evaluate_binary]
    rfl
  rw [compared, Walk.search, LawfulMonad.bind_assoc]
  refine bind_congr fun v => ?_
  unfold BinaryOperator.holdsFor Value.equals
  cases needle.compare v with
  | error e => rfl
  | ok order => cases order <;> rfl

/-- Of two walks to truth values that are joined, the second one is walked if the first one is false. -/
theorem evaluate_or_of_truth {left right : Expr} {first second : Walk Bool}
    (leftTruth : evaluate enter context left = first >>= fun found => pure (.boolean found))
    (rightTruth : evaluate enter context right = second >>= fun found => pure (.boolean found)) :
    evaluate enter context (.binary .or left right) =
      (first >>= fun found => if found then pure true else second) >>= fun found =>
        pure (.boolean found) := by
  have recipe : BinaryOperator.or.recipe = (.ask 0 fun v => (Recipe.ofAttempt v.toBool).bind fun found =>
      if found = true then .answer (.boolean true) else .ask 1 fun w =>
        (Recipe.ofAttempt w.toBool).bind fun also => .answer (.boolean also) :
      Recipe Unit 2 Value) := rfl
  have joined : evaluate enter context (.binary .or left right) =
      evaluate enter context left >>= fun v => Walk.ofAttempt v.toBool >>= fun found =>
        if found then pure (.boolean true) else
          evaluate enter context right >>= fun w => Walk.ofAttempt w.toBool >>= fun also =>
            pure (.boolean also) := by
    rw [evaluate_binary, recipe]
    refine bind_congr fun v => ?_
    beta_reduce
    cases v.toBool with
    | error e => rfl
    | ok found =>
      cases found with
      | true => rfl
      | false =>
        refine bind_congr fun w => ?_
        beta_reduce
        cases w.toBool <;> rfl
  rw [joined, leftTruth, rightTruth]
  simp only [LawfulMonad.bind_assoc, LawfulMonad.pure_bind]
  refine bind_congr fun found => ?_
  cases found <;> rfl

/-- A value compared with others, one after the other, joined from the left. -/
def Expr.equalsOneOf (needle : Value) (first : Expr) (rest : List Expr) : Expr :=
  rest.foldl (fun row candidate => .binary .or row (.binary .equal (.literal needle) candidate))
    (.binary .equal (.literal needle) first)

theorem evaluate_equalsOneOf (needle : Value) (first : Expr) (rest : List Expr) :
    evaluate enter context (.equalsOneOf needle first rest) =
      (Walk.search needle ((first :: rest).map (evaluate enter context)) >>= fun found =>
        pure (.boolean found)) := by
  -- The operator on the outside is the one of the last candidate.
  induction rest using List.reverseRec with
  | nil => exact evaluate_equal_literal needle first
  | append_singleton rest last ih =>
    have row : Expr.equalsOneOf needle first (rest ++ [last]) =
        .binary .or (.equalsOneOf needle first rest) (.binary .equal (.literal needle) last) :=
      List.foldl_concat _ _ _ _
    rw [row, evaluate_or_of_truth ih (evaluate_equal_literal needle last), ← Walk.search_append,
      ← List.cons_append, List.map_append, List.map_singleton]

/-! ## Calls -/

/-- Note a result in the node of a call, on the way to it. -/
def Walk.noting (store : StoreId) (id : NodeId) (walk : Walk Value) : Walk Value := do
  let v ← walk
  Walk.modifyMemory store fun memory => memory.recordResult id v
  return v

/-- A call without handlers notes what the built-in function comes to. -/
theorem evaluate_call_eq_noting (noHandlers : context.functionHandlers = []) (id : NodeId) (name : String)
    (arguments : List Expr) :
    evaluate enter context (.call id name arguments) =
      Walk.noting context.store id (callOperands context id name arguments.length fun position =>
        evaluate enter context (arguments.get position)) := by
  rw [evaluate, evaluateCall, noHandlers, callFunction_delay]
  rfl

/-- The calls that operators express, with their expressions. -/
inductive Expr.Restates : String → List Expr → Expr → Prop
  | choose (condition thenBranch elseBranch : Expr) :
    Restates "if" [condition, thenBranch, elseBranch] (.conditional condition thenBranch elseBranch)
  | member (needle : Value) (first : Expr) (rest : List Expr) :
    Restates "in" (.literal needle :: first :: rest) (.equalsOneOf needle first rest)

theorem Function.resolve_choose (ignoreCase : Bool) :
    Function.resolve "if" ignoreCase = .ok (.math .choose) := by
  cases ignoreCase <;> decide +kernel

theorem Function.resolve_member (ignoreCase : Bool) :
    Function.resolve "in" ignoreCase = .ok (.math .member) := by
  cases ignoreCase <;> decide +kernel

/-- A call that operators express is their walk, and notes its result. -/
theorem evaluate_call_of_restates (noHandlers : context.functionHandlers = []) {name : String}
    {arguments : List Expr} {operators : Expr} (restates : Expr.Restates name arguments operators)
    (id : NodeId) :
    evaluate enter context (.call id name arguments) =
      Walk.noting context.store id (evaluate enter context operators) := by
  rw [evaluate_call_eq_noting noHandlers]
  congr 1
  cases restates with
  | choose condition thenBranch elseBranch =>
    rw [callOperands_math (Function.resolve_choose _), evaluate, get_eq_operandsOfThree]
    exact congrArg (fun operands => choose.followPlain operands) (map_operandsOfThree _ _ _ _)
  | member needle first rest =>
    rw [callOperands_math (Function.resolve_member _), evaluate_equalsOneOf]
    change (MathFunction.isAmong needle (List.finRange (rest.length + 2)).tail).followPlain _ = _
    have candidates : (List.finRange (rest.length + 2)).tail.map
        (fun position => evaluate enter context ((.literal needle :: first :: rest : List Expr).get position)) =
          (first :: rest).map (evaluate enter context) := by
      have all := List.map_get_finRange (.literal needle :: first :: rest : List Expr)
      have mapped := congrArg (List.map (evaluate enter context)) (congrArg List.tail all)
      rw [← List.map_tail, List.map_map] at mapped
      exact mapped
    rw [MathFunction.followPlain_isAmong, candidates]

theorem walk_call_of_restates (noHandlers : context.functionHandlers = []) {name : String}
    {arguments : List Expr} {operators : Expr} (restates : Expr.Restates name arguments operators)
    (id : NodeId) (depth : Nat) :
    walk depth context (.call id name arguments) =
      Walk.noting context.store id (walk depth context operators) := by
  cases depth with
  | zero => rfl
  | succ depth => exact evaluate_call_of_restates noHandlers restates id

end Operators

/-- The world in which the value of an evaluation, if there is one, is noted in the node of a call. -/
def World.noteOutcome (world : World) (store : StoreId) (id : NodeId) : Outcome → World
  | .finished (.ok v) => world.setNode store id { world.node store id with lastValue := some v }
  | .finished (.error _) => world
  | .unfinished => world

namespace Formula

/-- A formula without function handlers that is a call of the choice or of the search comes to the same
result as the operators that express it.  It leaves the same world behind, so that handlers have been asked
about the same identifiers and all memories and random numbers are the same, but for the value that is noted
in the node of the call. -/
theorem evaluateTo_call_of_restates {f : Formula} (noHandlers : f.functionHandlers = []) {name : String}
    {arguments : List Expr} {operators : Expr} (restates : Expr.Restates name arguments operators)
    (id : NodeId) (depth : Nat) (clock : Clock) (world : World) :
    (f.withExpression (.call id name arguments)).evaluateTo depth clock world =
      let form := (f.withExpression operators).evaluateTo depth clock world
      (form.1, form.2.noteOutcome f.store id form.1) := by
  have called : walk depth (Context.ofFormula (f.withExpression (.call id name arguments)) clock)
      (f.withExpression (.call id name arguments)).expression =
      Walk.noting f.store id (walk depth (Context.ofFormula (f.withExpression operators) clock)
        (f.withExpression operators).expression) :=
    walk_call_of_restates noHandlers restates id depth
  unfold evaluateTo
  rw [called]
  unfold Walk.noting
  cases known : walk depth (Context.ofFormula (f.withExpression operators) clock)
      (f.withExpression operators).expression world with
  | ok v after =>
    rw [Walk.bind_ok known, Walk.bind_ok (recordResult_eq f.store id v after)]
    rfl
  | error reason after =>
    rw [Walk.bind_error known]
    cases reason <;> rfl

/-- A formula whose host knows the sizes that are in stock. -/
def stocked : Formula :=
  { Formula.ofExpr (.identifier "small") .default ⟨0⟩ with
    identifierHandlers := [⟨"sizes", fun request =>
      if request.name = "small" then .claim (.integer 2) .done else .claim (.text "3") .done⟩] }

/-- The search asks about the second size, finds it as text, and does not come to the third one. -/
theorem stocked_search_as_operators :
    stocked.functionHandlers = [] ∧
      Expr.Restates "in" [.literal (.integer 3), .identifier "small", .identifier "large",
        .identifier "huge"] (.equalsOneOf (.integer 3) (.identifier "small")
          [.identifier "large", .identifier "huge"]) ∧
      (stocked.withExpression (.call ⟨0⟩ "in" [.literal (.integer 3), .identifier "small",
          .identifier "large", .identifier "huge"])).evaluateTo 1 .blank .empty =
        (let form := (stocked.withExpression (.equalsOneOf (.integer 3) (.identifier "small")
            [.identifier "large", .identifier "huge"])).evaluateTo 1 .blank .empty
        (form.1, form.2.noteOutcome ⟨0⟩ ⟨0⟩ form.1)) ∧
      (stocked.withExpression (.equalsOneOf (.integer 3) (.identifier "small")
          [.identifier "large", .identifier "huge"])).evaluateTo 1 .blank .empty =
        (.finished (.ok (.boolean true)),
          { World.empty with journal := [.asked "sizes" "small", .asked "sizes" "large"] }) :=
  ⟨rfl, .member _ _ _, evaluateTo_call_of_restates rfl (.member _ _ _) ⟨0⟩ 1 .blank .empty, by rfl⟩

end Formula

end ClockedFormula
