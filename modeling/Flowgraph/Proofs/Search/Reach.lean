/-
  Flowgraph/Proofs/Search/Reach.lean
  ==================================
  **The search for what can be reached is right** — `reachableFrom` gives an id exactly if the
  links lead to it in some number of steps (`mem_reachableFrom_iff`), and does so in a number of
  turns that the links out of these ids bound (`reachableFrom_spec`).

  What is gone through and what waits in the queue can all be reached (`reach_of_mem_flood`).
  Conversely what an id gone through leads to is itself gone through or waits, so in the end,
  when nothing waits, the ids gone through are closed under the links (`leads_mem_flood`).

  An id may wait in the queue more than once.  The search ends nevertheless, since it goes through
  an id once only: what joins the queue then are links that no other turn puts into it
  (`Front.effort_turn`).
-/
import Mathlib.Logic.Relation
import Flowgraph.Graph.Search

namespace Flowgraph.Links

open Relation

variable {links : Links}

/-- What the search gives was gone through before, or can be reached from the queue. -/
theorem reach_of_mem_flood {queue seen : List String} {b : String}
    (hb : b ∈ links.flood queue seen) :
    b ∈ seen ∨ ∃ a ∈ queue, ReflTransGen links.Leads a b := by
  fun_induction links.flood queue seen with
  | case1 seen => exact Or.inl hb
  | case2 seen id queue hid ih =>
    rcases ih hb with h | ⟨a, ha, hab⟩
    · exact Or.inl h
    · exact Or.inr ⟨a, List.mem_cons_of_mem _ ha, hab⟩
  | case3 seen id queue hid ih =>
    rcases ih hb with h | ⟨a, ha, hab⟩
    · rcases List.mem_cons.1 h with rfl | h
      · exact Or.inr ⟨b, List.mem_cons_self, ReflTransGen.refl⟩
      · exact Or.inl h
    · rcases List.mem_append.1 ha with ha | ha
      · exact Or.inr ⟨a, List.mem_cons_of_mem _ ha, hab⟩
      · have hlead : links.Leads id a := mem_successors.1 (List.mem_filter.1 ha).1
        exact Or.inr ⟨id, List.mem_cons_self, hab.head hlead⟩

/-- The search gives all that was gone through before and all of the queue. -/
theorem mem_flood {queue seen : List String} {a : String} (ha : a ∈ seen ∨ a ∈ queue) :
    a ∈ links.flood queue seen := by
  fun_induction links.flood queue seen with
  | case1 seen => exact ha.resolve_right List.not_mem_nil
  | case2 seen id queue hid ih =>
    refine ih ?_
    rcases ha with ha | ha
    · exact Or.inl ha
    · rcases List.mem_cons.1 ha with rfl | ha
      · exact Or.inl hid
      · exact Or.inr ha
  | case3 seen id queue hid ih =>
    refine ih ?_
    rcases ha with ha | ha
    · exact Or.inl (List.mem_cons_of_mem _ ha)
    · rcases List.mem_cons.1 ha with rfl | ha
      · exact Or.inl List.mem_cons_self
      · exact Or.inr (List.mem_append_left _ ha)

/-- The ids that the search gives are closed under the links, if those gone through before lead
    only to one another and into the queue. -/
theorem leads_mem_flood {queue seen : List String}
    (hclosed : ∀ a ∈ seen, ∀ b, links.Leads a b → b ∈ seen ∨ b ∈ queue) {a b : String}
    (ha : a ∈ links.flood queue seen) (hab : links.Leads a b) : b ∈ links.flood queue seen := by
  fun_induction links.flood queue seen with
  | case1 seen => exact (hclosed a ha b hab).resolve_right List.not_mem_nil
  | case2 seen id queue hid ih =>
    refine ih (fun a ha b hab => ?_) ha
    rcases hclosed a ha b hab with h | h
    · exact Or.inl h
    · rcases List.mem_cons.1 h with rfl | h
      · exact Or.inl hid
      · exact Or.inr h
  | case3 seen id queue hid ih =>
    refine ih (fun a ha b hab => ?_) ha
    rcases List.mem_cons.1 ha with rfl | ha
    · -- what `a` itself leads to joins the queue, unless it has been gone through
      by_cases hb : b ∈ a :: seen
      · exact Or.inl hb
      · refine Or.inr (List.mem_append_right _ (List.mem_filter.2 ⟨mem_successors.2 hab, ?_⟩))
        exact decide_eq_true hb
    · rcases hclosed a ha b hab with h | h
      · exact Or.inl (List.mem_cons_of_mem _ h)
      · rcases List.mem_cons.1 h with rfl | h
        · exact Or.inl List.mem_cons_self
        · exact Or.inr (List.mem_append_left _ h)

theorem nodup_flood {queue seen : List String} (h : seen.Nodup) :
    (links.flood queue seen).Nodup := by
  fun_induction links.flood queue seen with
  | case1 seen => exact h
  | case2 seen id queue hid ih => exact ih h
  | case3 seen id queue hid ih => exact ih (List.nodup_cons.2 ⟨hid, h⟩)

/-- The ids given are those that the links lead to from the start. -/
theorem mem_reachableFrom_iff {start b : String} :
    b ∈ links.reachableFrom start ↔ ReflTransGen links.Leads start b := by
  constructor
  · intro hb
    rcases reach_of_mem_flood hb with h | ⟨a, ha, hab⟩
    · cases h
    · rwa [List.mem_singleton.1 ha] at hab
  · intro hab
    induction hab with
    | refl => exact mem_flood (Or.inr List.mem_cons_self)
    | tail _ hstep ih => exact leads_mem_flood (by simp) ih hstep

/-! ### Turn by turn -/

theorem openLinks_mem_add_notMem (links : Links) (seen : List String) :
    links.openLinks (· ∈ seen) + links.openLinks (· ∉ seen) = links.length := by
  rw [List.length_eq_countP_add_countP fun link : String × String => decide (link.1 ∈ seen)]
  simp only [openLinks, decide_eq_true_eq]

/-- A search that has come some way. -/
structure Front where
  queue : List String
  seen : List String

namespace Front

/-- Takes the first id out of the queue, and goes through it unless that has been done. -/
def step (links : Links) (f : Front) : Option Front :=
  match f.queue with
  | [] => none
  | id :: queue =>
    if id ∈ f.seen then some ⟨queue, f.seen⟩
    else some ⟨queue ++ (links.successors id).filter (· ∉ id :: f.seen), id :: f.seen⟩

/-- The search comes from the one to the other in that many turns. -/
inductive Takes (links : Links) : Nat → Front → Front → Prop
  | done (f : Front) : Takes links 0 f f
  | turn {turns : Nat} {f f' f'' : Front} (step : f.step links = some f')
    (rest : Takes links turns f' f'') : Takes links (turns + 1) f f''

/-- The ids in the queue, and those that may still join it. -/
def effort (links : Links) (f : Front) : Nat :=
  links.openLinks (· ∉ f.seen) + f.queue.length

variable {f f' : Front} {turns : Nat}

/-- A turn takes an id out of the queue, and what joins the queue is no longer to join it. -/
theorem effort_turn (h : f.step links = some f') : f'.effort links < f.effort links := by
  obtain ⟨queue, seen⟩ := f
  cases queue with
  | nil => cases h
  | cons id queue =>
    simp only [step] at h
    split at h
    · cases h
      simp only [effort, List.length_cons]
      omega
    · next hid =>
      cases h
      have hopen := links.openLinks_notMem_cons hid
      have hjoin := (links.successors id).length_filter_le (· ∉ id :: seen)
      simp only [effort, List.length_append, List.length_cons]
      omega

theorem Takes.turns_le (h : Takes links turns f f') : turns + f'.effort links ≤ f.effort links := by
  induction h with
  | done f => exact Nat.le_of_eq (Nat.zero_add _)
  | turn hstep _ ih =>
    have := effort_turn hstep
    omega

/-- The search goes on until the queue is empty. -/
theorem exists_takes (links : Links) (queue seen : List String) :
    ∃ turns, Takes links turns ⟨queue, seen⟩ ⟨[], links.flood queue seen⟩ := by
  fun_induction links.flood queue seen with
  | case1 seen => exact ⟨0, .done _⟩
  | case2 seen id queue hid ih =>
    obtain ⟨turns, htakes⟩ := ih
    exact ⟨turns + 1, .turn (if_pos hid) htakes⟩
  | case3 seen id queue hid ih =>
    obtain ⟨turns, htakes⟩ := ih
    exact ⟨turns + 1, .turn (if_neg hid) htakes⟩

end Front

/-- The search ends, after one turn for the start and at most one for each link out of an id that
    can be reached, and gives the ids that can be reached, each once. -/
theorem reachableFrom_spec (links : Links) (start : String) :
    (∃ turns ≤ 1 + links.openLinks (· ∈ links.reachableFrom start),
      Front.Takes links turns ⟨[start], []⟩ ⟨[], links.reachableFrom start⟩) ∧
    (links.reachableFrom start).Nodup ∧
    ∀ id, id ∈ links.reachableFrom start ↔ ReflTransGen links.Leads start id := by
  refine ⟨?_, nodup_flood List.nodup_nil, fun id => mem_reachableFrom_iff⟩
  obtain ⟨turns, htakes⟩ := Front.exists_takes links [start] []
  refine ⟨turns, ?_, htakes⟩
  have hturns : turns + links.openLinks (· ∉ links.reachableFrom start) ≤
      links.openLinks (· ∉ ([] : List String)) + 1 := htakes.turns_le
  have hbefore := links.openLinks_mem_add_notMem []
  have hafter := links.openLinks_mem_add_notMem (links.reachableFrom start)
  have hnone : links.openLinks (· ∈ ([] : List String)) = 0 := by simp [openLinks]
  omega

end Flowgraph.Links
