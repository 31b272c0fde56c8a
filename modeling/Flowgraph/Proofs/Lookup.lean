/-
  Flowgraph/Proofs/Lookup.lean
  ============================
  **Looking up by name** — what is found under a name in a list of named values, when the first
  of that name counts.  If the names are distinct, it is the value of that name.
-/
import Mathlib.Data.List.Nodup
import Flowgraph.Fields

namespace Flowgraph

variable {α : Type} {entries : List (String × α)} {name : String}

theorem find?_map_isSome_iff :
    ((entries.find? fun entry => entry.1 = name).map (·.2)).isSome = true ↔
      name ∈ entries.map (·.1) := by
  simp

theorem find?_map_eq_none_iff :
    (entries.find? fun entry => entry.1 = name).map (·.2) = none ↔
      name ∉ entries.map (·.1) := by
  rw [← find?_map_isSome_iff, Option.not_isSome_iff_eq_none]

/-- If the names are distinct, a value is found exactly if it stands there under the name. -/
theorem find?_map_eq_some_iff (h : (entries.map (·.1)).Nodup) {value : α} :
    (entries.find? fun entry => entry.1 = name).map (·.2) = some value ↔
      (name, value) ∈ entries := by
  induction entries with
  | nil => simp
  | cons entry rest ih =>
    obtain ⟨name', value'⟩ := entry
    simp only [List.map_cons, List.nodup_cons] at h
    by_cases hname : name' = name
    · subst hname
      have hnot : (name', value) ∉ rest := fun hmem => h.1 (List.mem_map.2 ⟨_, hmem, rfl⟩)
      simp [hnot, eq_comm]
    · simpa [List.find?_cons, hname, Ne.symm hname] using ih h.2

/-- An entry at the end is found only if there is none of its name before it. -/
theorem find?_map_concat (entries : List (String × α)) (last : String × α) (name : String) :
    ((entries ++ [last]).find? fun entry => entry.1 = name).map (·.2) =
      ((entries.find? fun entry => entry.1 = name).map (·.2)).or
        (if last.1 = name then some last.2 else none) := by
  rw [List.find?_append, Option.map_or]
  by_cases h : last.1 = name
  · simp [h]
  · simp [h]

theorem Fields.mem_of_get?_foldl {fields : Fields α} {value : α}
    (h : get? name (entries.foldl (fun fields e => insert e.1 e.2 fields) fields) = some value) :
    (name, value) ∈ entries ∨ get? name fields = some value := by
  induction entries generalizing fields with
  | nil => exact .inr h
  | cons entry rest ih =>
    rcases ih h with hrest | hfields
    · exact .inl (List.mem_cons_of_mem _ hrest)
    · rw [get?_insert] at hfields
      split at hfields
      · next hname =>
        cases hfields
        exact .inl (hname ▸ List.mem_cons_self)
      · exact .inr hfields

/-- What is found among fields that were put in one by one was put in. -/
theorem Fields.mem_of_get?_ofList {value : α} (h : get? name (ofList entries) = some value) :
    (name, value) ∈ entries := by
  rcases mem_of_get?_foldl h with hentries | hnil
  · exact hentries
  · cases hnil

end Flowgraph
