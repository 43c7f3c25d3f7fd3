import ClockedFormula.Proofs.Expr.Application
import ClockedFormula.Session

namespace ClockedFormula

/-!
# Identities of calls

Numbering a draft gives every call an identity that no other call has.  A draft can bring in
expressions that were numbered before, and these may share calls with one another; but then they share
whole calls.  So all expressions that come of numbering are consistent, and the formulas of a session
are consistent, too.

The proof looks at the calls of an expression only.  Some of them come from earlier expressions; the
identities of the others are from the range that was given out meanwhile.
-/

namespace Numbering

variable {α β : Type}

theorem bind_eq_some {numbering : Numbering α} {next : α → Numbering β} {first last : Nat} {b : β}
    (done : (numbering >>= next) first = some (b, last)) :
    ∃ a middle, numbering first = some (a, middle) ∧ next a middle = some (b, last) := by
  rcases Option.bind_eq_some_iff.mp done with ⟨⟨a, middle⟩, numbered, rest⟩
  exact ⟨a, middle, numbered, rest⟩

/-- Whether calls have no identities but those below a bound. -/
def Below (calls : List Application) (bound : Nat) : Prop :=
  ∀ call ∈ calls, call.id.number < bound

theorem Below.mono {calls : List Application} {bound larger : Nat} (below : Below calls bound)
    (le : bound ≤ larger) : Below calls larger := by
  intro call member
  exact Nat.lt_of_lt_of_le (below call member) le

/-- Whether each identity below a bound stands for one call, and no other identities occur. -/
structure Sound (calls : List Application) (next : Nat) : Prop where
  below : Below calls next
  single : ∀ one ∈ calls, ∀ other ∈ calls, one.id = other.id → one = other

theorem Sound.mono {calls : List Application} {first next : Nat} (sound : Sound calls first)
    (le : first ≤ next) : Sound calls next :=
  ⟨sound.below.mono le, sound.single⟩

/-- Whether calls are earlier ones, or have identities from a range, each of which stands for one
call. -/
structure Fresh (earlier : List Application) (first next : Nat) (calls : List Application) :
    Prop where
  le : first ≤ next
  origin : ∀ call ∈ calls, call ∈ earlier ∨ first ≤ call.id.number ∧ call.id.number < next
  single : ∀ one ∈ calls, ∀ other ∈ calls, first ≤ one.id.number → one.id = other.id → one = other

namespace Fresh

variable {earlier calls later : List Application} {first middle next : Nat}

theorem nil (earlier : List Application) (first : Nat) : Fresh earlier first first [] :=
  ⟨Nat.le_refl first, fun _ => nofun, fun _ => nofun⟩

/-- A call that is not earlier than a range has its identity from the range. -/
theorem range (below : Below earlier first)
    (fresh : Fresh earlier middle next calls) {call : Application} (member : call ∈ calls)
    (above : first ≤ call.id.number) : middle ≤ call.id.number ∧ call.id.number < next := by
  rcases fresh.origin call member with before | within
  · exact absurd (below call before) (Nat.not_lt.mpr above)
  · exact within

theorem append (below : Below earlier first)
    (here : Fresh earlier first middle calls) (there : Fresh earlier middle next later) :
    Fresh earlier first next (calls ++ later) := by
  refine ⟨Nat.le_trans here.le there.le, ?_, ?_⟩
  · intro call member
    rcases List.mem_append.mp member with early | late
    · rcases here.origin call early with before | within
      · exact .inl before
      · exact .inr ⟨within.1, Nat.lt_of_lt_of_le within.2 there.le⟩
    · rcases there.origin call late with before | within
      · exact .inl before
      · exact .inr ⟨Nat.le_trans here.le within.1, within.2⟩
  · intro one inOne other inOther above same
    have alsoAbove : first ≤ other.id.number := same ▸ above
    have number : one.id.number = other.id.number := congrArg NodeId.number same
    rcases List.mem_append.mp inOne with early | late <;>
      rcases List.mem_append.mp inOther with alsoEarly | alsoLate
    · exact here.single one early other alsoEarly above same
    · have low := here.range below early above
      have high := there.range below alsoLate alsoAbove
      omega
    · have high := there.range below late above
      have low := here.range below alsoEarly alsoAbove
      omega
    · exact there.single one late other alsoLate (there.range below late above).1 same

/-- A call gets the first identity, before the calls in its arguments. -/
theorem cons (below : Below earlier first) (name : String)
    (arguments : List Expr) (fresh : Fresh earlier (first + 1) next calls) :
    Fresh earlier first next (⟨⟨first⟩, name, arguments⟩ :: calls) := by
  have one : Fresh earlier first (first + 1) [⟨⟨first⟩, name, arguments⟩] := by
    refine ⟨Nat.le_succ first, ?_, ?_⟩
    · intro call member
      rw [List.mem_singleton.mp member]
      exact .inr ⟨Nat.le_refl first, Nat.lt_succ_self first⟩
    · intro one inOne other inOther _ _
      rw [List.mem_singleton.mp inOne, List.mem_singleton.mp inOther]
  exact one.append below fresh

/-- Calls of an earlier expression. -/
theorem of_subset (below : Below earlier first) (subset : calls ⊆ earlier) :
    Fresh earlier first first calls :=
  ⟨Nat.le_refl first, fun _ member => .inl (subset member), fun one member _ _ above _ =>
    absurd (below one (subset member)) (Nat.not_lt.mpr above)⟩

/-- New calls do not clash with earlier ones. -/
theorem sound (fresh : Fresh earlier first next calls) (sound : Sound earlier first) :
    Sound (calls ++ earlier) next := by
  have known : ∀ call ∈ calls ++ earlier, call.id.number < first → call ∈ earlier := by
    intro call member low
    rcases List.mem_append.mp member with new | before
    · rcases fresh.origin call new with before | within
      · exact before
      · exact absurd low (Nat.not_lt.mpr within.1)
    · exact before
  have new : ∀ call ∈ calls ++ earlier, first ≤ call.id.number → call ∈ calls := by
    intro call member high
    rcases List.mem_append.mp member with new | before
    · exact new
    · exact absurd (sound.below call before) (Nat.not_lt.mpr high)
  constructor
  · intro call member
    rcases Nat.lt_or_ge call.id.number first with low | high
    · exact Nat.lt_of_lt_of_le low fresh.le
    · exact (fresh.range sound.below (new call member high) high).2
  · intro one inOne other inOther same
    rcases Nat.lt_or_ge one.id.number first with low | high
    · exact sound.single one (known one inOne low) other
        (known other inOther (same ▸ low)) same
    · exact fresh.single one (new one inOne high) other (new other inOther (same ▸ high)) high same

end Fresh

end Numbering

namespace Draft

open ClockedFormula.Numbering

/-- The calls of the expressions to which drafts can refer. -/
def earlier (known : List (String × Expr)) : List Application :=
  Expr.applicationsOfAll (known.map Prod.snd)

section Numbers

variable {known : List (String × Expr)} {bound : Nat}

theorem applications_subset_earlier {name : String} {e : Expr} (found : known.lookup name = some e) :
    e.applications ⊆ earlier known := by
  intro application member
  have present : (name, e) ∈ known := by
    induction known with
    | nil => cases found
    | cons entry rest ih =>
      rcases entry with ⟨other, known⟩
      rw [List.lookup_cons] at found
      cases same : name == other with
      | true =>
        rw [same] at found
        cases found
        rw [beq_iff_eq.mp same]
        exact List.mem_cons_self
      | false =>
        rw [same] at found
        exact List.mem_cons_of_mem _ (ih found)
  exact Expr.mem_applicationsOfAll.mpr ⟨e, List.mem_map_of_mem present, member⟩

mutual

/-- The calls of a draft that is numbered are fresh. -/
theorem number_fresh (below : Below (earlier known) bound) :
    ∀ (draft : Draft) {first next : Nat} {e : Expr}, bound ≤ first →
      draft.number known first = some (e, next) → Fresh (earlier known) first next e.applications
  | .literal v, first, next, e, above, numbered => by
    cases numbered
    exact .nil _ _
  | .identifier name, first, next, e, above, numbered => by
    cases numbered
    exact .nil _ _
  | .unary op operand, first, next, e, above, numbered => by
    rcases bind_eq_some numbered with ⟨part, middle, done, rest⟩
    cases rest
    have whole : Fresh (earlier known) first next part.applications :=
      number_fresh below operand above done
    exact whole
  | .binary op left right, first, next, e, above, numbered => by
    rcases bind_eq_some numbered with ⟨leftPart, middle, inLeft, rest⟩
    rcases bind_eq_some rest with ⟨rightPart, last, inRight, done⟩
    cases done
    have begins := number_fresh below left above inLeft
    have goes := number_fresh below right (Nat.le_trans above begins.le) inRight
    exact begins.append (below.mono above) goes
  | .conditional condition thenBranch elseBranch, first, next, e, above, numbered => by
    rcases bind_eq_some numbered with ⟨conditionPart, second, inCondition, rest⟩
    rcases bind_eq_some rest with ⟨thenPart, third, inThen, rest⟩
    rcases bind_eq_some rest with ⟨elsePart, last, inElse, done⟩
    cases done
    have begins := number_fresh below condition above inCondition
    have goes := begins.append (below.mono above)
      (number_fresh below thenBranch (Nat.le_trans above begins.le) inThen)
    have ends := number_fresh below elseBranch (Nat.le_trans above goes.le) inElse
    exact goes.append (below.mono above) ends
  | .call name arguments, first, next, e, above, numbered => by
    rcases bind_eq_some numbered with ⟨id, middle, given, rest⟩
    rcases bind_eq_some rest with ⟨parts, last, inside, done⟩
    cases given
    cases done
    have within := numberAll_fresh below arguments (Nat.le_succ_of_le above) inside
    exact within.cons (below.mono above) name parts
  | .shared name, first, next, e, above, numbered => by
    rcases Option.map_eq_some_iff.mp numbered with ⟨found, lookup, same⟩
    cases same
    exact .of_subset (below.mono above) (applications_subset_earlier lookup)

theorem numberAll_fresh (below : Below (earlier known) bound) :
    ∀ (drafts : List Draft) {first next : Nat} {es : List Expr}, bound ≤ first →
      numberAll known drafts first = some (es, next) →
        Fresh (earlier known) first next (Expr.applicationsOfAll es)
  | [], first, next, es, above, numbered => by
    cases numbered
    exact .nil _ _
  | draft :: rest, first, next, es, above, numbered => by
    rcases bind_eq_some numbered with ⟨e, middle, here, remaining⟩
    rcases bind_eq_some remaining with ⟨others, last, there, done⟩
    cases done
    have begins := number_fresh below draft above here
    have goes := numberAll_fresh below rest (Nat.le_trans above begins.le) there
    exact begins.append (below.mono above) goes

end

end Numbers

/-! ## Expressions and formulas that come of numbering -/

variable {known : List (String × Expr)} {first next : Nat}

/-- An expression that is numbered after others is sound together with them. -/
theorem number_sound {draft : Draft} {e : Expr} (sound : Sound (earlier known) first)
    (numbered : draft.number known first = some (e, next)) :
    Sound (e.applications ++ earlier known) next :=
  (number_fresh sound.below draft (Nat.le_refl first) numbered).sound sound

theorem number_consistent {draft : Draft} {e : Expr} (sound : Sound (earlier known) first)
    (numbered : draft.number known first = some (e, next)) : e.Consistent := by
  intro one inOne other inOther
  have whole := number_sound sound numbered
  apply whole.single
  · exact List.mem_append_left _ inOne
  · exact List.mem_append_left _ inOther

theorem numberNamed_sound {drafts : List (String × Draft)} {all : List (String × Expr)}
    (sound : Sound (earlier known) first)
    (numbered : numberNamed known drafts first = some (all, next)) :
    Sound (earlier all) next := by
  induction drafts generalizing known first with
  | nil =>
    cases numbered
    exact sound
  | cons entry rest ih =>
    rcases entry with ⟨name, draft⟩
    rcases bind_eq_some numbered with ⟨e, middle, here, remaining⟩
    have extended : Sound (earlier ((name, e) :: known)) middle := number_sound sound here
    exact ih extended remaining

end Draft

namespace Session

open ClockedFormula.Numbering Draft

/-- What is true of a formula is true after names are bound in it, if it stays true with every binding to a
value or to a formula of the session. -/
theorem bindAll?_preserves {session : Session} {motive : Formula → Prop} {f bound : Formula}
    {bindings : List (String × BindingDraft)} (holds : motive f)
    (binds : ∀ {g name draft binding}, motive g → session.binding? draft = some binding →
      motive (g.bind name binding))
    (done : session.bindAll? f bindings = some bound) : motive bound := by
  induction bindings generalizing f with
  | nil =>
    cases done
    exact holds
  | cons entry rest ih =>
    rcases entry with ⟨name, draft⟩
    rcases Option.bind_eq_some_iff.mp done with ⟨binding, found, remaining⟩
    exact ih (binds holds found) remaining

/-- Binding names does not touch the expression. -/
theorem bindAll?_expression {session : Session} {f bound : Formula}
    {bindings : List (String × BindingDraft)} (done : session.bindAll? f bindings = some bound) :
    bound.expression = f.expression := by
  refine bindAll?_preserves (motive := fun g => g.expression = f.expression) rfl ?binds done
  exact fun kept _ => kept

theorem define?_formulas {session defined : Session} {expression : Expr} {draft : FormulaDraft}
    (done : session.define? expression draft = some defined) :
    ∃ f, defined.formulas = session.formulas ++ [f] ∧ f.expression = expression := by
  rcases Option.bind_eq_some_iff.mp done with ⟨bound, complete, rest⟩
  cases rest
  exact ⟨_, rfl, bindAll?_expression complete⟩

/-- A formula is numbered and defined before those that come after it. -/
theorem defineAll_cons_eq_some {known : List (String × Expr)} {draft : FormulaDraft}
    {rest : List FormulaDraft} {session defined : Session} {first next : Nat}
    (done : defineAll known session (draft :: rest) first = some (defined, next)) :
    ∃ expression middle extended, draft.expression.number known first = some (expression, middle) ∧
      session.define? expression draft = some extended ∧
      defineAll known extended rest middle = some (defined, next) := by
  rcases bind_eq_some done with ⟨expression, middle, numbered, remaining⟩
  rcases bind_eq_some remaining with ⟨extended, last, added, remaining⟩
  rcases Option.bind_eq_some_iff.mp added with ⟨whole, adding, same⟩
  cases same
  exact ⟨expression, middle, extended, numbered, adding, remaining⟩

theorem defineAll_consistent {known : List (String × Expr)} {drafts : List FormulaDraft}
    {session defined : Session} {first next : Nat} (sound : Sound (earlier known) first)
    (consistent : ∀ f ∈ session.formulas, f.expression.Consistent)
    (done : defineAll known session drafts first = some (defined, next)) :
    ∀ f ∈ defined.formulas, f.expression.Consistent := by
  induction drafts generalizing session first with
  | nil =>
    cases done
    exact consistent
  | cons draft rest ih =>
    rcases defineAll_cons_eq_some done with
      ⟨expression, middle, extended, numbered, adding, remaining⟩
    have later := (number_fresh sound.below draft.expression (Nat.le_refl first) numbered).le
    refine ih (sound.mono later) (fun f member => ?_) remaining
    rcases define?_formulas adding with ⟨new, formulas, itself⟩
    rw [formulas] at member
    rcases List.mem_append.mp member with before | added
    · exact consistent f before
    · rw [List.mem_singleton.mp added, itself]
      exact number_consistent sound numbered

/-- All formulas of a session are consistent when it starts. -/
theorem start?_consistent {shared : List (String × Draft)} {drafts : List FormulaDraft}
    {session : Session} (started : start? shared drafts = some session) :
    ∀ f ∈ session.formulas, f.expression.Consistent := by
  rcases Option.map_eq_some_iff.mp started with ⟨⟨started, last⟩, numbered, rfl⟩
  rcases bind_eq_some numbered with ⟨known, first, named, defined⟩
  have nothing : Sound (earlier []) 0 := ⟨fun _ => nofun, fun _ => nofun⟩
  have none : ∀ f ∈ empty.formulas, f.expression.Consistent :=
    fun _ member => absurd member List.not_mem_nil
  exact defineAll_consistent (numberNamed_sound nothing named) none defined

end Session

end ClockedFormula
