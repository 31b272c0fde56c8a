/-
  Flowgraph/Proofs/Fields.lean
  ============================
  **Fields in order** — fields that are put in one by one stand in the order of their names
  (`Fields.ordered_ofList`).  If no name is put in twice they are all there (`ofList_perm`), and
  of the lists in order that hold them there is only one (`ofList_eq_of_perm`).
-/
import Mathlib.Data.List.Perm.Basic
import Mathlib.Data.String.Basic
import Flowgraph.Fields

namespace Flowgraph.Fields

variable {α : Type} {fields entries : Fields α} {key name : String} {value : α}

/-- The names stand in order, each once. -/
def Ordered (fields : Fields α) : Prop := fields.keys.Pairwise (· < ·)

theorem perm_of_count_eq (h : ∀ (_ : DecidableEq (String × α)) f, fields.count f = entries.count f) :
    fields.Perm entries := by
  classical
  -- not the equality test that the values may come with, which need not be lawful
  let eq : BEq (String × α) := instBEqOfDecidableEq
  exact List.perm_iff_count.2 fun f => h inferInstance f

theorem keys_cons (f : String × α) (fields : Fields α) :
    keys (f :: fields) = f.1 :: fields.keys := rfl

theorem keys_append (fields fields' : Fields α) :
    keys (fields ++ fields') = fields.keys ++ fields'.keys :=
  List.map_append

theorem keys_toList_sublist {β : Type} {write : β → α} {x : Option β} :
    (keys (x.map fun x => (name, write x)).toList).Sublist [name] := by
  cases x with
  | none => exact List.nil_sublist _
  | some x => exact .refl _

theorem mem_keys_insert :
    name ∈ (fields.insert key value).keys ↔ name = key ∨ name ∈ fields.keys := by
  induction fields with
  | nil => simp [insert, keys]
  | cons f rest ih =>
    obtain ⟨k, v⟩ := f
    simp only [keys, insert] at ih ⊢
    split
    · next hk => simp [hk]
    · split
      · simp
      · simp [ih, or_left_comm]

theorem Ordered.insert (h : fields.Ordered) (key : String) (value : α) :
    (fields.insert key value).Ordered := by
  induction fields with
  | nil => exact List.pairwise_singleton _ _
  | cons f rest ih =>
    obtain ⟨k, v⟩ := f
    obtain ⟨hfirst, hrest⟩ := List.pairwise_cons.1 h
    unfold Fields.insert
    by_cases hk : k = key
    · rw [if_pos hk, ← hk]
      exact h
    · rw [if_neg hk]
      by_cases hlt : key < k
      · rw [if_pos hlt]
        refine List.pairwise_cons.2 ⟨fun name hname => ?_, h⟩
        rcases List.mem_cons.1 hname with rfl | hname
        · exact hlt
        · exact hlt.trans (hfirst name hname)
      · rw [if_neg hlt]
        refine List.pairwise_cons.2 ⟨fun name hname => ?_, ih hrest⟩
        rcases mem_keys_insert.1 hname with rfl | hname
        · exact lt_of_le_of_ne (not_lt.1 hlt) hk
        · exact hfirst name hname

theorem insert_perm (hnew : key ∉ fields.keys) :
    (fields.insert key value).Perm ((key, value) :: fields) := by
  induction fields with
  | nil => exact .refl _
  | cons f rest ih =>
    obtain ⟨k, v⟩ := f
    simp only [keys, List.map_cons, List.mem_cons, not_or] at hnew
    unfold insert
    rw [if_neg (Ne.symm hnew.1)]
    by_cases hlt : key < k
    · rw [if_pos hlt]
    · rw [if_neg hlt]
      exact ((ih hnew.2).cons (k, v)).trans (.swap _ _ _)

/-! ### Putting in one by one -/

theorem Ordered.foldl_insert (h : fields.Ordered) (entries : List (String × α)) :
    Ordered (entries.foldl (fun fields e => Fields.insert e.1 e.2 fields) fields) := by
  induction entries generalizing fields with
  | nil => exact h
  | cons e rest ih => exact ih (h.insert e.1 e.2)

theorem ordered_ofList (entries : List (String × α)) : (ofList entries).Ordered := by
  have hnil : Ordered ([] : Fields α) := List.Pairwise.nil
  exact hnil.foldl_insert entries

theorem foldl_insert_perm (hnodup : (entries.keys ++ fields.keys).Nodup) :
    (entries.foldl (fun fields e => insert e.1 e.2 fields) fields).Perm (entries ++ fields) := by
  induction entries generalizing fields with
  | nil => exact .refl _
  | cons e rest ih =>
    have hnew : e.1 ∉ fields.keys := fun hmem =>
      (List.nodup_cons.1 hnodup).1 (List.mem_append_right _ hmem)
    have hinsert : (insert e.1 e.2 fields).Perm (e :: fields) := insert_perm hnew
    have hkeys : (keys rest ++ keys (insert e.1 e.2 fields)).Perm (e.1 :: keys rest ++ fields.keys) :=
      ((hinsert.map _).append_left _).trans List.perm_middle
    have hrest := ih (hkeys.nodup_iff.2 hnodup)
    exact hrest.trans ((hinsert.append_left rest).trans List.perm_middle)

theorem ofList_perm (hnodup : entries.keys.Nodup) : (ofList entries).Perm entries := by
  have hperm : (ofList entries).Perm (entries ++ []) :=
    foldl_insert_perm (by simpa [keys] using hnodup)
  rwa [List.append_nil] at hperm

/-- Fields that are put in one by one are those fields in order. -/
theorem ofList_eq_of_perm (h : fields.Ordered) (hperm : fields.Perm entries) :
    ofList entries = fields := by
  have hnodup : entries.keys.Nodup := (hperm.map _).nodup_iff.1 (h.imp ne_of_lt)
  have hordered := ordered_ofList entries
  unfold Ordered keys at h hordered
  rw [List.pairwise_map] at h hordered
  refine List.Perm.eq_of_pairwise ?_ hordered h ((ofList_perm hnodup).trans hperm.symm)
  intro f f' _ _ hlt hgt
  exact absurd (hlt.trans hgt) (lt_irrefl f.1)

end Flowgraph.Fields
