/-
  Flowgraph/Proofs/Graph/Walk.lean
  ================================
  **Walks** — a walk goes from id to id along declared edges; it is given by its edges, so
  parallel edges make different walks.

  A walk is what the links of a graph lead along (`exists_walk_iff`).  In a graph without closed
  walks no walk comes to an id twice (`Acyclic.visits_nodup`), so none is as long as there are
  ids (`Acyclic.length_lt`).
-/
import Mathlib.Data.List.Nodup
import Mathlib.Logic.Relation
import Flowgraph.Graph.Build

namespace Flowgraph.Graph

open Relation

/-- A walk from an id to an id along declared edges. -/
inductive Walk (g : Graph) : String → List Edge → String → Prop
  | nil (id : String) : Walk g id [] id
  | cons {a b : String} {e : Edge} {rest : List Edge} :
      e ∈ g.edges → e.source = a → Walk g e.target rest b → Walk g a (e :: rest) b

/-- No walk but the empty one ends where it began. -/
def Acyclic (g : Graph) : Prop := ∀ id walk, g.Walk id walk id → walk = []

variable {g : Graph}

/-! ### Joining walks -/

namespace Walk

theorem single {e : Edge} (he : e ∈ g.edges) : g.Walk e.source [e] e.target :=
  .cons he rfl (.nil _)

theorem append {a b c : String} {walk walk' : List Edge} (h : g.Walk a walk b)
    (h' : g.Walk b walk' c) : g.Walk a (walk ++ walk') c := by
  induction h with
  | nil id => exact h'
  | cons he ha _ ih => exact .cons he ha (ih h')

theorem snoc {a : String} {walk : List Edge} {e : Edge} (h : g.Walk a walk e.source)
    (he : e ∈ g.edges) : g.Walk a (walk ++ [e]) e.target :=
  h.append (single he)

/-- A walk that is not empty ends with an edge. -/
theorem exists_last {a b : String} {walk : List Edge} (h : g.Walk a walk b) (hne : walk ≠ []) :
    ∃ front e, e ∈ g.edges ∧ walk = front ++ [e] ∧ g.Walk a front e.source ∧ e.target = b := by
  induction h with
  | nil id => exact absurd rfl hne
  | cons he ha hrest ih =>
    rename_i e rest
    cases rest with
    | nil =>
      cases hrest
      exact ⟨[], e, he, rfl, ha ▸ .nil _, rfl⟩
    | cons e' rest =>
      obtain ⟨front, last, hlast, heq, hfront, hb⟩ := ih (List.cons_ne_nil _ _)
      exact ⟨e :: front, last, hlast, by rw [heq, List.cons_append], .cons he ha hfront, hb⟩

theorem mem_edges {a b : String} {walk : List Edge} (h : g.Walk a walk b) {e : Edge}
    (he : e ∈ walk) : e ∈ g.edges := by
  induction h with
  | nil id => exact absurd he List.not_mem_nil
  | cons hedge _ _ ih =>
    rcases List.mem_cons.1 he with rfl | he
    · exact hedge
    · exact ih he

/-- Every edge of a walk is reached by a part of it. -/
theorem exists_front {a b : String} {walk : List Edge} (h : g.Walk a walk b) {e : Edge}
    (he : e ∈ walk) : ∃ front, g.Walk a (front ++ [e]) e.target := by
  induction h with
  | nil id => exact absurd he List.not_mem_nil
  | cons hedge ha hrest ih =>
    rename_i e' rest
    rcases List.mem_cons.1 he with rfl | he
    · exact ⟨[], .cons hedge ha (.nil _)⟩
    · obtain ⟨front, hfront⟩ := ih he
      exact ⟨e' :: front, .cons hedge ha hfront⟩

end Walk

/-! ### Walks and links -/

theorem leads_iff {a b : String} :
    g.links.Leads a b ↔ ∃ e ∈ g.edges, e.source = a ∧ e.target = b := by
  simp [Links.Leads, links]

theorem Walk.reach {a b : String} {walk : List Edge} (h : g.Walk a walk b) :
    ReflTransGen g.links.Leads a b := by
  induction h with
  | nil id => exact .refl
  | cons he ha _ ih => exact .head (leads_iff.2 ⟨_, he, ha, rfl⟩) ih

/-- The links lead from an id to another exactly if a walk does. -/
theorem exists_walk_iff {a b : String} :
    (∃ walk, g.Walk a walk b) ↔ ReflTransGen g.links.Leads a b := by
  constructor
  · rintro ⟨walk, h⟩
    exact h.reach
  · intro h
    induction h with
    | refl => exact ⟨[], .nil a⟩
    | tail _ hstep ih =>
      obtain ⟨walk, h⟩ := ih
      obtain ⟨e, he, rfl, rfl⟩ := leads_iff.1 hstep
      exact ⟨walk ++ [e], h.snoc he⟩

/-- There is no closed walk exactly if the links lead from no id back to it. -/
theorem acyclic_iff : g.Acyclic ↔ ∀ id, ¬ TransGen g.links.Leads id id := by
  constructor
  · intro hacyclic id hcycle
    obtain ⟨b, hstep, hback⟩ := TransGen.head'_iff.1 hcycle
    obtain ⟨e, he, rfl, rfl⟩ := leads_iff.1 hstep
    obtain ⟨walk, hwalk⟩ := exists_walk_iff.2 hback
    cases hacyclic _ _ (Walk.cons he rfl hwalk)
  · intro hacyclic id walk hwalk
    cases hwalk with
    | nil => rfl
    | cons he ha hrest =>
      exact absurd (TransGen.head' (leads_iff.2 ⟨_, he, ha, rfl⟩) hrest.reach) (hacyclic id)

/-! ### The ids on a walk -/

/-- The ids that a walk comes to, that where it begins first. -/
def visits (a : String) (walk : List Edge) : List String := a :: walk.map (·.target)

/-- A walk comes to the sources of its edges, and last to where it ends. -/
theorem Walk.visits_eq {a b : String} {walk : List Edge} (h : g.Walk a walk b) :
    visits a walk = walk.map (·.source) ++ [b] := by
  induction h with
  | nil id => rfl
  | cons _ ha _ ih =>
    rw [visits] at ih
    rw [visits, List.map_cons, List.map_cons, List.cons_append, ← ih, ha]

theorem Walk.mem_visits {a b : String} {walk : List Edge} (h : g.Walk a walk b) :
    b ∈ visits a walk := by
  simp [h.visits_eq]

/-- Ids that a walk comes to one after the other are joined by an edge. -/
theorem Walk.exists_edge_of_visits_eq {a b x y : String} {walk : List Edge}
    {before after : List String} (h : g.Walk a walk b)
    (hvisits : visits a walk = before ++ x :: y :: after) :
    ∃ e ∈ g.edges, e.source = x ∧ e.target = y := by
  induction h generalizing before with
  | nil id =>
    have hlength := congrArg List.length hvisits
    simp only [visits, List.map_nil, List.length_append, List.length_cons, List.length_nil]
      at hlength
    omega
  | cons he ha hrest ih =>
    cases before with
    | nil =>
      obtain ⟨rfl, htail⟩ := List.cons.inj hvisits
      exact ⟨_, he, ha, (List.cons.inj htail).1⟩
    | cons id before => exact ih (List.cons.inj hvisits).2

/-- A walk leads to each id that it comes to. -/
theorem Walk.reach_visits {a b c : String} {walk : List Edge} (h : g.Walk a walk b)
    (hc : c ∈ visits a walk) : ∃ front, g.Walk a front c := by
  rcases List.mem_cons.1 hc with rfl | hc
  · exact ⟨[], .nil _⟩
  · obtain ⟨e, he, rfl⟩ := List.mem_map.1 hc
    obtain ⟨front, hfront⟩ := h.exists_front he
    exact ⟨front ++ [e], hfront⟩

/-- The ids of a walk are declared if that where it begins is, and the edges join declared
    ids. -/
theorem Walk.visits_subset {a b : String} {walk : List Edge} (h : g.Walk a walk b)
    (ha : a ∈ g.ids) (hedges : ∀ e ∈ g.edges, e.target ∈ g.ids) :
    visits a walk ⊆ g.ids := by
  induction h with
  | nil id => simpa [visits] using ha
  | cons he _ _ ih => exact List.cons_subset.2 ⟨ha, ih (hedges _ he)⟩

/-- Without closed walks, no walk comes to an id twice. -/
theorem Acyclic.visits_nodup (hacyclic : g.Acyclic) {a b : String} {walk : List Edge}
    (h : g.Walk a walk b) : (visits a walk).Nodup := by
  induction h with
  | nil id => exact List.nodup_singleton _
  | cons he ha hrest ih =>
    refine List.nodup_cons.2 ⟨fun hmem => ?_, ih⟩
    obtain ⟨front, hfront⟩ := hrest.reach_visits hmem
    cases hacyclic _ _ (Walk.cons he ha hfront)

theorem Acyclic.notMem_sources (hacyclic : g.Acyclic) {a b : String} {walk : List Edge}
    (h : g.Walk a walk b) : b ∉ walk.map (·.source) := by
  intro hmem
  have hnodup := hacyclic.visits_nodup h
  rw [h.visits_eq, List.nodup_append] at hnodup
  exact hnodup.2.2 _ hmem _ (List.mem_singleton_self _) rfl

/-- Without closed walks, only the last edge of a walk leads to where it ends. -/
theorem Acyclic.target_ne_of_mem_front (hacyclic : g.Acyclic) {a : String} {front : List Edge}
    {e : Edge} (h : g.Walk a (front ++ [e]) e.target) :
    ∀ e' ∈ front, e'.target ≠ e.target := by
  intro e' he' htarget
  have hnodup := hacyclic.visits_nodup h
  rw [visits, List.map_append, List.nodup_cons, List.nodup_append] at hnodup
  exact hnodup.2.2.2 _ (List.mem_map_of_mem he') _ (by simp) htarget

/-- Without closed walks, a walk has fewer edges than there are ids. -/
theorem Acyclic.length_lt (hacyclic : g.Acyclic) {a b : String} {walk : List Edge}
    (h : g.Walk a walk b) (ha : a ∈ g.ids) (hedges : ∀ e ∈ g.edges, e.target ∈ g.ids) :
    walk.length < g.nodes.length := by
  have hlength := (hacyclic.visits_nodup h).length_le_of_subset (h.visits_subset ha hedges)
  rw [visits, ids, List.length_cons, List.length_map, List.length_map] at hlength
  exact hlength

end Flowgraph.Graph
