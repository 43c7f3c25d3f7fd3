/-!
# Tables in order of insertion

A table holds one entry for each of its keys, in the order in which the keys first came in.  Writing to
a key that is present changes the entry in its place.  The main statements say what each operation does
to a look-up.
-/

namespace ClockedFormula

/-- Entries in the order in which their keys were inserted. -/
structure Table (κ ν : Type) where
  entries : List (κ × ν)

namespace Table

variable {κ ν : Type} [DecidableEq κ]

def empty : Table κ ν := ⟨[]⟩

instance : Inhabited (Table κ ν) := ⟨empty⟩

def keys (table : Table κ ν) : List κ := table.entries.map Prod.fst

def size (table : Table κ ν) : Nat := table.entries.length

/-- The entry of a key. -/
def get? (table : Table κ ν) (key : κ) : Option ν := table.entries.lookup key

/-- Write an entry into a list, in the place of its key or at the end. -/
def write (key : κ) (value : ν) : List (κ × ν) → List (κ × ν)
  | [] => [(key, value)]
  | (other, old) :: rest =>
    if other = key then (key, value) :: rest else (other, old) :: write key value rest

/-- Set the entry of a key; a new key comes last. -/
def insert (table : Table κ ν) (key : κ) (value : ν) : Table κ ν :=
  ⟨write key value table.entries⟩

/-- Remove the entry of a key; the others keep their order. -/
def erase (table : Table κ ν) (key : κ) : Table κ ν :=
  ⟨table.entries.filter fun entry => entry.1 ≠ key⟩

/-- Change every entry that is there. -/
def mapValues (table : Table κ ν) (change : ν → ν) : Table κ ν :=
  ⟨table.entries.map fun (key, value) => (key, change value)⟩

/-- Set all entries of another table, in its order. -/
def overlay (table other : Table κ ν) : Table κ ν :=
  other.entries.foldl (fun result entry => result.insert entry.1 entry.2) table

@[simp]
theorem get?_empty (key : κ) : (empty : Table κ ν).get? key = none := rfl

theorem lookup_write_self (key : κ) (value : ν) (entries : List (κ × ν)) :
    (write key value entries).lookup key = some value := by
  induction entries with
  | nil => simp [write]
  | cons entry rest ih =>
    rcases entry with ⟨other, old⟩
    by_cases same : other = key
    · simp [write, same]
    · have differs : (key == other) = false := by simp [Ne.symm same]
      simp [write, same, List.lookup_cons, differs, ih]

theorem lookup_write_of_ne {key other : κ} (distinct : other ≠ key) (value : ν)
    (entries : List (κ × ν)) :
    (write key value entries).lookup other = entries.lookup other := by
  induction entries with
  | nil =>
    have differs : (other == key) = false := by simp [distinct]
    simp [write, List.lookup_cons, differs]
  | cons entry rest ih =>
    rcases entry with ⟨present, old⟩
    by_cases same : present = key
    · have differs : (other == key) = false := by simp [distinct]
      simp [write, same, List.lookup_cons, differs]
    · simp [write, same, List.lookup_cons, ih]

@[simp]
theorem get?_insert_self (table : Table κ ν) (key : κ) (value : ν) :
    (table.insert key value).get? key = some value :=
  lookup_write_self key value table.entries

theorem get?_insert_of_ne (table : Table κ ν) {key other : κ} (distinct : other ≠ key)
    (value : ν) : (table.insert key value).get? other = table.get? other :=
  lookup_write_of_ne distinct value table.entries

theorem mem_of_get?_eq_some {table : Table κ ν} {key : κ} {value : ν}
    (found : table.get? key = some value) : (key, value) ∈ table.entries := by
  rcases List.lookup_eq_some_iff.mp found with ⟨before, after, entries, _⟩
  rw [entries]
  exact List.mem_append_right before List.mem_cons_self

theorem get?_mapValues (table : Table κ ν) (change : ν → ν) (key : κ) :
    (table.mapValues change).get? key = (table.get? key).map change := by
  rcases table with ⟨entries⟩
  induction entries with
  | nil => rfl
  | cons entry rest ih =>
    rcases entry with ⟨other, value⟩
    by_cases same : (key == other) = true
    · simp [mapValues, get?, List.lookup_cons, same]
    · have differs : (key == other) = false := by simpa using same
      simpa [mapValues, get?, List.lookup_cons, differs] using ih

end Table

end ClockedFormula
