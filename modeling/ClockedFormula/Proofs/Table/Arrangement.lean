import ClockedFormula.Proofs.Table.Overlay
import Mathlib.Data.List.Nodup

namespace ClockedFormula

namespace Table

/-!
# Tables in different arrangements

The order of a whole table can be seen in its list of keys.  A look-up sees less of it: one that takes the
first key of a class sees only how the keys of that class stand to each other.  Two tables may therefore be
exchanged if each class of keys has the same entries in the same order in both, and how the classes are
mingled does not matter.

This is kept when tables are laid over one another.  It does not follow from a common set of entries: a key
that is set again keeps its first place, and classes may have several keys below while they have one key
above.
-/

variable {κ ν : Type}

/-- The entries whose keys are kept. -/
def restrict (table : Table κ ν) (keeps : κ → Bool) : Table κ ν :=
  ⟨table.entries.filter fun entry => keeps entry.1⟩

section Operations

variable [DecidableEq κ] (keeps : κ → Bool)

theorem filter_write (key : κ) (value : ν) (entries : List (κ × ν)) :
    (write key value entries).filter (fun entry => keeps entry.1) =
      if keeps key then write key value (entries.filter fun entry => keeps entry.1)
      else entries.filter fun entry => keeps entry.1 := by
  induction entries with
  | nil => cases kept : keeps key <;> simp [write, kept]
  | cons entry rest ih =>
    rcases entry with ⟨other, old⟩
    by_cases itself : other = key
    · subst itself
      cases kept : keeps other <;> simp [write, kept]
    · rw [write, if_neg itself, List.filter_cons, List.filter_cons, ih]
      cases keeps other <;> cases keeps key <;> simp [write, itself]

theorem restrict_insert (table : Table κ ν) (key : κ) (value : ν) :
    (table.insert key value).restrict keeps =
      if keeps key then (table.restrict keeps).insert key value else table.restrict keeps := by
  unfold restrict insert
  dsimp only
  rw [filter_write]
  cases keeps key <;> rfl

/-- Laying over concerns each part of the tables by itself. -/
theorem restrict_overlay (table upper : Table κ ν) :
    (table.overlay upper).restrict keeps = (table.restrict keeps).overlay (upper.restrict keeps) := by
  rcases upper with ⟨entries⟩
  induction entries generalizing table with
  | nil => rfl
  | cons entry rest ih =>
    rcases entry with ⟨key, value⟩
    have head : (⟨(key, value) :: rest⟩ : Table κ ν).restrict keeps =
        if keeps key then ⟨(key, value) :: (restrict ⟨rest⟩ keeps).entries⟩ else restrict ⟨rest⟩ keeps := by
      unfold restrict
      rw [List.filter_cons]
      cases keeps key <;> rfl
    rw [overlay_cons, ih, restrict_insert, head]
    cases keeps key <;> rfl

theorem get?_restrict {key : κ} (kept : keeps key = true) (table : Table κ ν) :
    (table.restrict keeps).get? key = table.get? key := by
  rcases table with ⟨entries⟩
  unfold restrict get?
  dsimp only
  induction entries with
  | nil => rfl
  | cons entry rest ih =>
    rcases entry with ⟨other, value⟩
    by_cases itself : key = other
    · subst itself
      rw [List.filter_cons_of_pos (by exact kept), List.lookup_cons_self, List.lookup_cons_self]
    · have differs : (key == other) = false := by simp [itself]
      rw [List.filter_cons, List.lookup_cons, differs, ← ih]
      cases keeps other with
      | true => rw [if_pos rfl, List.lookup_cons, differs]
      | false => rw [if_neg Bool.false_ne_true]

end Operations

/-! ## Classes of keys -/

variable {μ : Type} [DecidableEq μ] {fold : κ → μ} {table other upper also : Table κ ν}

/-- Whether each class of keys has the same entries in the same order in both tables. -/
def SameBy (fold : κ → μ) (table other : Table κ ν) : Prop :=
  ∀ folded, table.restrict (fold · == folded) = other.restrict (fold · == folded)

namespace SameBy

theorem refl (fold : κ → μ) (table : Table κ ν) : SameBy fold table table := fun _ => rfl

/-- The first entry of a class is the same. -/
theorem find?_eq (same : SameBy fold table other) (folded : μ) :
    table.entries.find? (fun entry => fold entry.1 == folded) =
      other.entries.find? fun entry => fold entry.1 == folded := by
  rw [← List.head?_filter, ← List.head?_filter]
  exact congrArg (fun part => part.entries.head?) (same folded)

variable [DecidableEq κ]

theorem get?_eq (same : SameBy fold table other) (key : κ) : table.get? key = other.get? key := by
  have kept : (fold key == fold key) = true := beq_self_eq_true _
  rw [← get?_restrict (fold · == fold key) kept table, same (fold key),
    get?_restrict (fold · == fold key) kept other]

theorem overlay (same : SameBy fold table other) (above : SameBy fold upper also) :
    SameBy fold (table.overlay upper) (other.overlay also) := by
  intro folded
  rw [restrict_overlay, restrict_overlay, same folded, above folded]

end SameBy

/-- If no two keys are of one class, the order of the table is of no account. -/
theorem sameBy_of_perm {entries others : List (κ × ν)} (perm : entries.Perm others)
    (distinct : (entries.map fun entry => fold entry.1).Nodup) :
    SameBy fold ⟨entries⟩ (⟨others⟩ : Table κ ν) := by
  intro folded
  have parts : (entries.filter fun entry => fold entry.1 == folded).Perm
      (others.filter fun entry => fold entry.1 == folded) := perm.filter _
  have few : ((entries.filter fun entry => fold entry.1 == folded).map fun entry => fold entry.1).Nodup :=
    distinct.sublist (List.filter_sublist.map _)
  have ofClass : ∀ entry ∈ entries.filter (fun entry => fold entry.1 == folded), fold entry.1 = folded :=
    fun entry member => beq_iff_eq.mp (List.mem_filter.mp member).2
  unfold restrict
  generalize entries.filter (fun entry => fold entry.1 == folded) = part at parts few ofClass ⊢
  congr 1
  match part with
  | [] => exact parts.nil_eq
  | [entry] => exact (List.singleton_perm.mp parts).symm ▸ rfl
  | first :: second :: rest =>
    have same : fold first.1 = fold second.1 :=
      (ofClass first List.mem_cons_self).trans
        (ofClass second (List.mem_cons_of_mem _ List.mem_cons_self)).symm
    exact absurd (List.mem_cons.mpr (.inl same)) (List.nodup_cons.mp few).1

end Table

end ClockedFormula
