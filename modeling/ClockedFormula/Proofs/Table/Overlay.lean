import ClockedFormula.Table

namespace ClockedFormula

/-!
# Tables over tables

A table that is laid over another one changes the entries whose keys are exactly its own, each in its
place, and adds the others at the end.  So a look-up in the result asks the upper table first, while
the order of the keys is that of the lower table first.

No operation brings a key in twice.  `Table.Distinct` is the invariant, and the statements about an
upper table rest on it: of two entries with one key a look-up finds the first, but the last one is
written last.
-/

namespace Table

variable {κ ν : Type} [DecidableEq κ]

/-- Whether no key has two entries. -/
def Distinct (table : Table κ ν) : Prop := table.keys.Nodup

theorem mem_keys_iff {table : Table κ ν} {key : κ} :
    key ∈ table.keys ↔ ∃ value, table.get? key = some value := by
  rw [keys, get?]
  induction table.entries with
  | nil => simp
  | cons entry rest ih =>
    rcases entry with ⟨other, value⟩
    by_cases same : key = other
    · simp [same]
    · have differs : (key == other) = false := by simp [same]
      simp [List.lookup_cons, differs, same, ← ih]

theorem get?_eq_none_iff {table : Table κ ν} {key : κ} : table.get? key = none ↔ key ∉ table.keys := by
  rw [mem_keys_iff]
  cases table.get? key <;> simp

/-! ## Single entries -/

theorem keys_write (key : κ) (value : ν) (entries : List (κ × ν)) :
    (write key value entries).map Prod.fst =
      if key ∈ entries.map Prod.fst then entries.map Prod.fst else entries.map Prod.fst ++ [key] := by
  induction entries with
  | nil => rfl
  | cons entry rest ih =>
    rcases entry with ⟨other, old⟩
    by_cases same : other = key
    · simp [write, same]
    · have differs : ¬ key = other := Ne.symm same
      by_cases later : key ∈ rest.map Prod.fst
      · simp only [if_pos later] at ih
        simp [write, same, ih, later]
      · simp only [if_neg later] at ih
        have absent : key ∉ other :: rest.map Prod.fst := by simp [differs, later]
        rw [List.map_cons, if_neg absent]
        simp [write, same, ih]

theorem keys_insert (table : Table κ ν) (key : κ) (value : ν) :
    (table.insert key value).keys =
      if key ∈ table.keys then table.keys else table.keys ++ [key] :=
  keys_write key value table.entries

namespace Distinct

theorem insert {table : Table κ ν} (distinct : table.Distinct) (key : κ) (value : ν) :
    (table.insert key value).Distinct := by
  rw [Distinct, keys_insert]
  by_cases present : key ∈ table.keys
  · rw [if_pos present]
    exact distinct
  · have single : [key].Nodup := List.nodup_cons.mpr ⟨List.not_mem_nil, List.nodup_nil⟩
    rw [if_neg present]
    refine List.nodup_append.mpr ⟨distinct, single, ?_⟩
    intro other member last itself equal
    rw [List.mem_singleton.mp itself] at equal
    exact present (equal ▸ member)

theorem erase {table : Table κ ν} (distinct : table.Distinct) (key : κ) :
    (table.erase key).Distinct := by
  have kept : (table.erase key).keys.Sublist table.keys := List.filter_sublist.map Prod.fst
  exact distinct.sublist kept

end Distinct

/-! ## Whole tables -/

/-- The induction behind all statements about an upper table: its entries are set one by one. -/
theorem overlay_cons (table : Table κ ν) (key : κ) (value : ν) (rest : List (κ × ν)) :
    table.overlay ⟨(key, value) :: rest⟩ = (table.insert key value).overlay ⟨rest⟩ := rfl

theorem mem_write {key : κ} {value : ν} {entry : κ × ν} {entries : List (κ × ν)}
    (member : entry ∈ write key value entries) : entry ∈ entries ∨ entry = (key, value) := by
  induction entries with
  | nil => exact .inr (List.mem_singleton.mp member)
  | cons present rest ih =>
    rcases present with ⟨other, old⟩
    by_cases same : other = key
    · rw [write, if_pos same] at member
      rcases List.mem_cons.mp member with itself | later
      · exact .inr itself
      · exact .inl (List.mem_cons_of_mem _ later)
    · rw [write, if_neg same] at member
      rcases List.mem_cons.mp member with itself | later
      · exact .inl (List.mem_cons.mpr (.inl itself))
      · exact (ih later).imp_left (List.mem_cons_of_mem _)

/-- An entry of tables that are laid over one another is an entry of one of them. -/
theorem mem_overlay {table upper : Table κ ν} {entry : κ × ν}
    (member : entry ∈ (table.overlay upper).entries) :
    entry ∈ table.entries ∨ entry ∈ upper.entries := by
  rcases upper with ⟨entries⟩
  induction entries generalizing table with
  | nil => exact .inl member
  | cons head rest ih =>
    rw [overlay_cons] at member
    rcases ih member with below | above
    · exact (mem_write below).imp_right fun itself => List.mem_cons.mpr (.inl itself)
    · exact .inr (List.mem_cons_of_mem _ above)

theorem get?_overlay (table : Table κ ν) {upper : Table κ ν} (distinct : upper.Distinct) (key : κ) :
    (table.overlay upper).get? key = (upper.get? key).or (table.get? key) := by
  rcases upper with ⟨entries⟩
  induction entries generalizing table with
  | nil => rfl
  | cons entry rest ih =>
    rcases entry with ⟨other, value⟩
    have apart := List.nodup_cons.mp distinct
    rw [overlay_cons, ih (table.insert other value) apart.2]
    by_cases same : key = other
    · subst same
      have absent : (⟨rest⟩ : Table κ ν).get? key = none := get?_eq_none_iff.mpr apart.1
      have found : (⟨(key, value) :: rest⟩ : Table κ ν).get? key = some value :=
        List.lookup_cons_self
      rw [absent, found, get?_insert_self]
      rfl
    · have differs : (key == other) = false := by simp [same]
      have passed : (⟨(other, value) :: rest⟩ : Table κ ν).get? key =
          (⟨rest⟩ : Table κ ν).get? key := by
        simp only [get?, List.lookup_cons, differs]
      rw [passed, get?_insert_of_ne table same]

/-- The keys of the lower table come first, and those that only the upper one has come after them. -/
theorem keys_overlay (table : Table κ ν) {upper : Table κ ν} (distinct : upper.Distinct) :
    (table.overlay upper).keys =
      table.keys ++ upper.keys.filter fun key => key ∉ table.keys := by
  rcases upper with ⟨entries⟩
  induction entries generalizing table with
  | nil => exact (List.append_nil table.keys).symm
  | cons entry rest ih =>
    rcases entry with ⟨key, value⟩
    have apart := List.nodup_cons.mp distinct
    rw [overlay_cons, ih (table.insert key value) apart.2, keys_insert]
    change _ = table.keys ++ (key :: rest.map Prod.fst).filter _
    by_cases present : key ∈ table.keys
    · rw [if_pos present, List.filter_cons_of_neg (by simpa using present)]
      rfl
    · -- From here on the key is there, but the rest does not bring it in again.
      have same : (rest.map Prod.fst).filter (fun other => other ∉ table.keys ++ [key]) =
          (rest.map Prod.fst).filter fun other => other ∉ table.keys := by
        apply List.filter_congr
        intro other member
        have differs : other ≠ key := fun equal => apart.1 (equal ▸ member)
        simp [differs]
      rw [if_neg present, List.filter_cons_of_pos (by simpa using present), List.append_assoc,
        List.singleton_append]
      exact congrArg (fun later => table.keys ++ key :: later) same

theorem Distinct.overlay {table upper : Table κ ν} (distinct : table.Distinct)
    (upperDistinct : upper.Distinct) : (table.overlay upper).Distinct := by
  rw [Distinct, keys_overlay table upperDistinct]
  refine List.nodup_append.mpr ⟨distinct, upperDistinct.sublist List.filter_sublist, ?_⟩
  intro key member other later equal
  have absent := (List.mem_filter.mp later).2
  rw [← equal] at absent
  simp [member] at absent

end Table

end ClockedFormula
