/-
  Flowgraph/Proofs/RouteTable.lean
  ================================
  **Looking up and adding routes** — in a table whose conditions are distinct, a look-up finds a
  node exactly if the table has that route (`get?_eq_some_iff`), and a route is refused exactly if
  its condition has one already (`insert?_eq_some_iff`).

  A table that starts empty and is added to, call by call, has the first route of each condition
  in the order of the calls, and the calls tell which these are (`collects_insertAll`).
-/
import Flowgraph.Proofs.Firsts
import Flowgraph.Proofs.Lookup
import Flowgraph.RouteTable

namespace Flowgraph.RouteTable

theorem get?_isSome_iff {t : RouteTable} {condition : String} :
    (t.get? condition).isSome = true ↔ condition ∈ t.conditions :=
  find?_map_isSome_iff

/-- A look-up finds the node of a route, and of no other if the conditions are distinct. -/
theorem get?_eq_some_iff {t : RouteTable} (h : t.conditions.Nodup) {condition target : String} :
    t.get? condition = some target ↔ (condition, target) ∈ t.routes :=
  find?_map_eq_some_iff h

/-- A route is added at the end, and only if its condition has none. -/
theorem insert?_eq_some_iff {t t' : RouteTable} {condition target : String} :
    t.insert? condition target = some t' ↔
      condition ∉ t.conditions ∧ t' = ⟨t.routes ++ [(condition, target)]⟩ := by
  unfold insert?
  split
  · next h => simp [get?_isSome_iff.1 h]
  · next h => simp [get?_isSome_iff.not.1 h, eq_comm]

/-! ### One call -/

variable {t : RouteTable}

/-- A call adds its route, unless the condition has one. -/
theorem insert_eq (t : RouteTable) (condition target : String) :
    t.insert condition target =
      if condition ∈ t.conditions then (false, t)
      else (true, ⟨t.routes ++ [(condition, target)]⟩) := by
  unfold insert
  by_cases h : condition ∈ t.conditions
  · have hnone : t.insert? condition target = none := by
      apply Option.eq_none_iff_forall_ne_some.2
      intro t' ht'
      exact (insert?_eq_some_iff.1 ht').1 h
    rw [hnone, if_pos h]
  · rw [insert?_eq_some_iff.2 ⟨h, rfl⟩, if_neg h]

/-! ### Call after call -/

/-- Adds routes, the first of them first, and tells of each whether it was added. -/
def insertAll (t : RouteTable) : List (String × String) → List Bool × RouteTable
  | [] => ([], t)
  | call :: rest =>
    let (added, t') := t.insert call.1 call.2
    let (later, t'') := t'.insertAll rest
    (added :: later, t'')

theorem insertAll_concat (t : RouteTable) (calls : List (String × String))
    (call : String × String) :
    t.insertAll (calls ++ [call]) =
      ((t.insertAll calls).1 ++ [((t.insertAll calls).2.insert call.1 call.2).1],
        ((t.insertAll calls).2.insert call.1 call.2).2) := by
  induction calls generalizing t with
  | nil => rfl
  | cons first rest ih => simp only [List.cons_append, insertAll, ih]

/-- What a call is told does not depend on the calls after it. -/
theorem getElem?_insertAll (t : RouteTable) (calls : List (String × String))
    (call : String × String) (after : List (String × String)) :
    (t.insertAll (calls ++ call :: after)).1[calls.length]? =
      some ((t.insertAll calls).2.insert call.1 call.2).1 := by
  induction calls generalizing t with
  | nil => rfl
  | cons first rest ih => simp only [List.cons_append, insertAll, List.length_cons,
      List.getElem?_cons_succ, ih]

/-- The table has the first route of each condition, in the order of the calls, and as many routes
    as there were calls that were told so. -/
structure Collects (calls : List (String × String)) (told : List Bool) (t : RouteTable) :
    Prop where
  conditions_firsts : Firsts (calls.map (·.1)) t.conditions
  get?_eq : ∀ condition, t.get? condition = (calls.find? (·.1 = condition)).map (·.2)
  length_told : told.length = calls.length
  size_eq : t.size = told.count true

variable {calls : List (String × String)} {told : List Bool}

theorem collects_nil : Collects [] [] .empty := ⟨.nil, fun _ => rfl, rfl, rfl⟩

theorem Collects.insert_eq (h : Collects calls told t) (call : String × String) :
    t.insert call.1 call.2 =
      if call.1 ∈ calls.map (·.1) then (false, t) else (true, ⟨t.routes ++ [call]⟩) := by
  simp only [RouteTable.insert_eq, h.conditions_firsts.mem_iff]

theorem Collects.insert (h : Collects calls told t) (call : String × String) :
    Collects (calls ++ [call]) (told ++ [(t.insert call.1 call.2).1])
      (t.insert call.1 call.2).2 := by
  rw [h.insert_eq call]
  by_cases hcall : call.1 ∈ calls.map (·.1)
  · rw [if_pos hcall]
    constructor
    · rw [List.map_append]
      exact h.conditions_firsts.again hcall
    · intro condition
      rw [find?_map_concat, ← h.get?_eq]
      by_cases hcondition : call.1 = condition
      · rw [Option.or_of_isSome]
        rw [get?_isSome_iff, ← hcondition]
        exact (h.conditions_firsts.mem_iff _).2 hcall
      · rw [if_neg hcondition, Option.or_none]
    · simp [h.length_told]
    · simp [h.size_eq]
  · rw [if_neg hcall]
    constructor
    · rw [List.map_append, conditions, List.map_append]
      exact h.conditions_firsts.fresh hcall
    · intro condition
      rw [find?_map_concat, ← h.get?_eq]
      exact find?_map_concat t.routes call condition
    · simp [h.length_told]
    · simp [← h.size_eq, size]

theorem collects_insertAll (calls : List (String × String)) :
    Collects calls (empty.insertAll calls).1 (empty.insertAll calls).2 := by
  induction calls using List.reverseRecOn with
  | nil => exact collects_nil
  | append_singleton calls call ih =>
    rw [insertAll_concat]
    exact ih.insert call

/-- After any calls the table has the first route of each condition, the next call is refused and
    changes nothing exactly if its condition has come before, and it is told so whatever calls
    follow. -/
theorem insertAll_spec (calls : List (String × String)) :
    let told := (empty.insertAll calls).1
    let t := (empty.insertAll calls).2
    Collects calls told t ∧
    (∀ call, t.insert call.1 call.2 =
      if call.1 ∈ calls.map (·.1) then (false, t) else (true, ⟨t.routes ++ [call]⟩)) ∧
    ∀ call after, (empty.insertAll (calls ++ call :: after)).1[calls.length]? =
      some (decide (call.1 ∉ calls.map (·.1))) := by
  intro told t
  have hcollects := collects_insertAll calls
  refine ⟨hcollects, hcollects.insert_eq, ?_⟩
  intro call after
  rw [getElem?_insertAll, hcollects.insert_eq call]
  by_cases hcall : call.1 ∈ calls.map (·.1)
  · simp [hcall]
  · simp [hcall]

end Flowgraph.RouteTable
