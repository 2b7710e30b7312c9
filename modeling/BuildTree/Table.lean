/-!
# Tables in order of insertion

A table is a list of keys with their values. A new key goes to the end, a key that is there keeps its place and
takes the new value. Keys are texts unless it is said what else they are.
-/

namespace BuildTree

/-- Keys with their values, in order of insertion. -/
abbrev Table (α : Type) (κ : Type := String) :=
  List (κ × α)

namespace Table
variable {α κ : Type}

def keys (table : Table α κ) : List κ :=
  table.map (·.1)

def values (table : Table α κ) : List α :=
  table.map (·.2)

variable [DecidableEq κ]

def get? : Table α κ → κ → Option α
  | [], _ => none
  | (k, v) :: rest, key => if k = key then some v else get? rest key

def has (table : Table α κ) (key : κ) : Bool :=
  (table.get? key).isSome

def insert (key : κ) (value : α) : Table α κ → Table α κ
  | [] => [(key, value)]
  | (k, v) :: rest => if k = key then (k, value) :: rest else (k, v) :: insert key value rest

/-- The table with all entries of another one put in, one after the other. -/
def insertAll (table entries : Table α κ) : Table α κ :=
  entries.foldl (fun t entry => t.insert entry.1 entry.2) table

/-- The table that gives one value to each of several keys. -/
def insertKeys (keys : List κ) (value : α) (table : Table α κ) : Table α κ :=
  keys.foldl (fun t key => t.insert key value) table

@[simp] theorem get?_insert_self (table : Table α κ) (key : κ) (value : α) :
    (table.insert key value).get? key = some value := by
  induction table with
  | nil => simp [insert, get?]
  | cons entry rest ih =>
    obtain ⟨k, v⟩ := entry
    by_cases h : k = key
    · simp [insert, get?, h]
    · simpa [insert, get?, h] using ih

@[simp] theorem get?_insert_of_ne (table : Table α κ) {key other : κ} (value : α)
    (h : other ≠ key) : (table.insert key value).get? other = table.get? other := by
  have hne : key ≠ other := Ne.symm h
  induction table with
  | nil => simp [insert, get?, hne]
  | cons entry rest ih =>
    obtain ⟨k, v⟩ := entry
    by_cases hk : k = key
    · simp [insert, get?, hk, hne]
    · by_cases ho : k = other
      · simp [insert, get?, ho, h]
      · simpa [insert, get?, hk, ho] using ih

end Table
end BuildTree
