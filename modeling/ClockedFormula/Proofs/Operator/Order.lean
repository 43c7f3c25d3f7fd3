import ClockedFormula.Proofs.Recipe.Order

namespace ClockedFormula

open Recipe Walk

/-!
# The order in which operators ask for their operands

Operators look at their operands again and again, but they ask for each of them at most once, the left one
before the right one.  So it makes no difference that the values of operands are remembered while an operator
between two expressions is at work: none is asked for that is known already, and none is missing when it has
been asked for.
-/

/-! ## Rows of operands -/

section Rows

variable {σ : Type}

theorem choose_asksAlong : (choose : Recipe σ 3 Value).AsksAlong (List.finRange 3) := by
  refine .convert_bind [1, 2] (by decide) fun holds => ?_
  cases holds with
  | true => exact ⟨[], by decide, fun _ => trivial⟩
  | false => exact ⟨[], by decide, fun _ => trivial⟩

theorem UnaryOperator.recipe_asksAlong (op : UnaryOperator) :
    (op.recipe : Recipe σ 1 Value).AsksAlong (List.finRange 1) :=
  ⟨[], by decide, fun v => .ofAttempt (op.apply v)⟩

namespace BinaryOperator

theorem combine_asksAlong (operation : Value → Value → Attempt Value) :
    (combine operation : Recipe σ 2 Value).AsksAlong (List.finRange 2) :=
  ⟨[1], by decide, fun left => ⟨[], by decide, fun right => .ofAttempt (operation left right)⟩⟩

theorem combineBits_asksAlong (operation : UInt16 → UInt16 → Int) :
    (combineBits operation : Recipe σ 2 Value).AsksAlong (List.finRange 2) :=
  .convert_bind [1] (by decide) fun left => .convert_bind [] (by decide) fun right => trivial

theorem shortCircuit_asksAlong (deciding : Bool) :
    (shortCircuit deciding : Recipe σ 2 Value).AsksAlong (List.finRange 2) := by
  refine .convert_bind [1] (by decide) fun left => ?_
  by_cases decides : left = deciding
  · rw [if_pos decides]
    exact trivial
  · rw [if_neg decides]
    exact .convert_bind [] (by decide) fun right => trivial

theorem recipe_asksAlong (op : BinaryOperator) :
    (op.recipe : Recipe σ 2 Value).AsksAlong (List.finRange 2) := by
  cases op with
  | and | or => exact shortCircuit_asksAlong _
  | bitwiseAnd | bitwiseOr | bitwiseXor | leftShift | rightShift => exact combineBits_asksAlong _
  | equal | notEqual | less | lessOrEqual | greater | greaterOrEqual | plus | minus | times | divide | modulo =>
    exact combine_asksAlong _

end BinaryOperator

end Rows

/-! ## Operands that are remembered -/

section Memos

variable {α : Type} {count : Nat} {operands : Fin count → Walk Value} {memo : Memo count}
  {position : Fin count}

/-- An operand that is asked for the first time is evaluated, and its value is known then. -/
theorem Memo.fill_bind (unknown : memo position = none) (next : Memo count → Walk α) :
    memo.fill operands position >>= next =
      operands position >>= fun v =>
        next fun other => if other = position then some v else memo other := by
  unfold Memo.fill
  rw [unknown]
  dsimp only
  rw [LawfulMonad.bind_assoc]
  rfl

theorem Memo.value_of_some {v : Value} (known : memo position = some v) :
    memo.value position = pure v := by
  unfold Memo.value
  rw [known]

/-- Where nothing is asked for twice, operands need not be remembered. -/
theorem Recipe.AsksAlong.followOnce_eq {recipe : Recipe Unit count α} {row : List (Fin count)}
    (along : recipe.AsksAlong row) (distinct : row.Nodup) (unknown : ∀ position ∈ row, memo position = none) :
    recipe.followOnce operands memo = recipe.followPlain operands := by
  induction recipe generalizing row memo with
  | answer a => rfl
  | fail e => rfl
  | ask position next ih =>
    obtain ⟨rest, sublist, later⟩ := along
    have parts := List.nodup_cons.mp (distinct.sublist sublist)
    rw [followOnce, Memo.fill_bind (unknown position (sublist.subset List.mem_cons_self))]
    refine bind_congr fun v => ?_
    rw [Memo.value_of_some (if_pos rfl), LawfulMonad.pure_bind]
    refine ih v (later v) parts.2 fun other member => ?_
    have apart : other ≠ position := fun same => parts.1 (same ▸ member)
    rw [if_neg apart]
    exact unknown other (sublist.subset (List.mem_cons_of_mem position member))
  | readState next ih => exact ih () (along ()) distinct unknown
  | writeState written next ih => exact ih along distinct unknown

/-- An operator comes to the same whether the values of its operands are remembered or not. -/
theorem BinaryOperator.followOnce_eq (op : BinaryOperator) (operands : Fin 2 → Walk Value) :
    (op.recipe.followOnce operands fun _ => none) = op.recipe.followPlain operands :=
  op.recipe_asksAlong.followOnce_eq (List.nodup_finRange 2) fun _ _ => rfl

end Memos

theorem evaluate_binary (enter : Context → Formula → Walk Value) (context : Context) (op : BinaryOperator)
    (left right : Expr) :
    evaluate enter context (.binary op left right) =
      op.recipe.followPlain
        (operandsOfTwo (evaluate enter context left) (evaluate enter context right)) := by
  rw [evaluate, op.followOnce_eq]

end ClockedFormula
