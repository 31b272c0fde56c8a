/-
  Flowgraph/Fields.lean
  =====================
  **Fields by name** — a list of named values kept in the order of their names, with at most
  one value a name.  Names are ordered by their characters' code points.

  `get?_insert` and `get?_erase` say what each operation does to the look-up; they hold of any
  list, also of one whose names are not in order.
-/
namespace Flowgraph

/-- Named values, in the order of their names. -/
abbrev Fields (α : Type) := List (String × α)

namespace Fields

variable {α : Type}

def get? (key : String) : Fields α → Option α
  | [] => none
  | (k, v) :: rest => if k = key then some v else get? key rest

/-- Puts a value under a name, in place of an earlier one. -/
def insert (key : String) (value : α) : Fields α → Fields α
  | [] => [(key, value)]
  | (k, v) :: rest =>
    if k = key then (key, value) :: rest
    else if key < k then (key, value) :: (k, v) :: rest
    else (k, v) :: insert key value rest

def erase (key : String) : Fields α → Fields α
  | [] => []
  | (k, v) :: rest => if k = key then erase key rest else (k, v) :: erase key rest

def contains (key : String) (fields : Fields α) : Bool := (fields.get? key).isSome

/-- The names, in order. -/
def keys (fields : Fields α) : List String := fields.map (·.1)

/-- The fields of a list in any order; of two with one name the later counts. -/
def ofList (entries : List (String × α)) : Fields α :=
  entries.foldl (fun fields entry => insert entry.1 entry.2 fields) []

/-! ### What a look-up finds -/

@[simp] theorem get?_nil (key : String) : get? key ([] : Fields α) = none := rfl

theorem get?_insert (key key' : String) (value : α) (fields : Fields α) :
    get? key' (insert key value fields) = if key = key' then some value else get? key' fields := by
  induction fields with
  | nil => rfl
  | cons f rest ih =>
    obtain ⟨k, v⟩ := f
    by_cases hk : k = key
    · subst hk
      simp only [insert, get?, ↓reduceIte]
      split <;> rfl
    · by_cases hlt : key < k
      · simp only [insert, get?, hk, hlt, ↓reduceIte]
      · simp only [insert, get?, hk, hlt, ↓reduceIte, ih]
        by_cases hk' : k = key'
        · rw [if_pos hk', if_neg (fun h : key = key' => hk (hk'.trans h.symm)), if_pos hk']
        · rw [if_neg hk', if_neg hk']

@[simp] theorem get?_insert_self (key : String) (value : α) (fields : Fields α) :
    get? key (insert key value fields) = some value := by
  rw [get?_insert, if_pos rfl]

theorem get?_insert_of_ne {key key' : String} (h : key ≠ key') (value : α) (fields : Fields α) :
    get? key' (insert key value fields) = get? key' fields := by
  rw [get?_insert, if_neg h]

/-- Of two values put in under one name the later counts. -/
theorem insert_insert (key : String) (value value' : α) (fields : Fields α) :
    insert key value' (insert key value fields) = insert key value' fields := by
  induction fields with
  | nil => simp only [insert, ↓reduceIte]
  | cons f rest ih =>
    obtain ⟨k, v⟩ := f
    by_cases hk : k = key
    · simp only [insert, hk, ↓reduceIte]
    · by_cases hlt : key < k
      · simp only [insert, hk, hlt, ↓reduceIte]
      · simp only [insert, hk, hlt, ↓reduceIte, ih]

theorem get?_erase (key key' : String) (fields : Fields α) :
    get? key' (erase key fields) = if key = key' then none else get? key' fields := by
  induction fields with
  | nil => simp only [erase, get?_nil, ite_self]
  | cons f rest ih =>
    obtain ⟨k, v⟩ := f
    by_cases hk : k = key
    · subst hk
      simp only [erase, get?, ↓reduceIte, ih]
      split <;> rfl
    · simp only [erase, get?, hk, ↓reduceIte, ih]
      by_cases hk' : k = key'
      · rw [if_pos hk', if_neg (fun h : key = key' => hk (hk'.trans h.symm)), if_pos hk']
      · rw [if_neg hk', if_neg hk']

end Fields

end Flowgraph
