/-
  Flowgraph/Proofs/Graph/Shape.lean
  =================================
  **The shape of a graph** — the ids and the kinds of its nodes, its edges, its start and its
  finish.  No check looks at more: of two graphs of one shape both are sound or neither is
  (`Sound.of_sameShape`), whatever their nodes do and under whatever policies.
-/
import Flowgraph.Proofs.Graph.Sound

namespace Flowgraph.Graph

structure SameShape (g g' : Graph) : Prop where
  nodes_eq : g'.nodes.map (fun n => (n.id, n.isRouter)) = g.nodes.map fun n => (n.id, n.isRouter)
  edges_eq : g'.edges = g.edges
  start_eq : g'.start = g.start
  finish_eq : g'.finish = g.finish

variable {g g' : Graph}

namespace SameShape

theorem ids_eq (h : g.SameShape g') : g'.ids = g.ids := by
  have hids := congrArg (List.map Prod.fst) h.nodes_eq
  simpa [ids, Function.comp_def] using hids

/-- A node of the one graph has one of the same id and kind in the other. -/
theorem exists_node (h : g.SameShape g') {n' : Node} (hn' : n' ∈ g'.nodes) :
    ∃ n ∈ g.nodes, n.id = n'.id ∧ n.isRouter = n'.isRouter := by
  have hmem : (n'.id, n'.isRouter) ∈ g'.nodes.map fun n => (n.id, n.isRouter) :=
    List.mem_map.2 ⟨n', hn', rfl⟩
  rw [h.nodes_eq, List.mem_map] at hmem
  obtain ⟨n, hn, heq⟩ := hmem
  exact ⟨n, hn, Prod.mk.inj heq⟩

theorem outgoing_eq (h : g.SameShape g') (id : String) : g'.outgoing id = g.outgoing id := by
  rw [outgoing, outgoing, h.edges_eq]

theorem walk_iff (h : g.SameShape g') {a b : String} {walk : List Edge} :
    g'.Walk a walk b ↔ g.Walk a walk b := by
  constructor
  · intro hwalk
    induction hwalk with
    | nil id => exact .nil id
    | cons he ha _ ih => exact .cons (h.edges_eq ▸ he) ha ih
  · intro hwalk
    induction hwalk with
    | nil id => exact .nil id
    | cons he ha _ ih => exact .cons (h.edges_eq ▸ he) ha ih

end SameShape

theorem Sound.of_sameShape (hg : g.Sound) (h : g.SameShape g') : g'.Sound := by
  constructor
  case ids_nodup => exact h.ids_eq ▸ hg.ids_nodup
  case start_mem => rw [h.start_eq, h.ids_eq]; exact hg.start_mem
  case finish_mem => rw [h.finish_eq, h.ids_eq]; exact hg.finish_mem
  case ends_mem => rw [h.edges_eq, h.ids_eq]; exact hg.ends_mem
  case condition_iff =>
    intro e he n' hn' hid
    rw [h.edges_eq] at he
    obtain ⟨n, hn, hid', hkind⟩ := h.exists_node hn'
    rw [← hkind]
    exact hg.condition_iff e he n hn (hid'.trans hid)
  case acyclic =>
    intro id walk hwalk
    exact hg.acyclic id walk (h.walk_iff.1 hwalk)
  case reachable =>
    intro id hid
    rw [h.ids_eq] at hid
    obtain ⟨walk, hwalk⟩ := hg.reachable id hid
    exact ⟨walk, h.start_eq ▸ h.walk_iff.2 hwalk⟩
  case finish_ordinary =>
    intro n' hn' hid
    obtain ⟨n, hn, hid', hkind⟩ := h.exists_node hn'
    rw [← hkind]
    exact hg.finish_ordinary n hn (hid'.trans (hid.trans h.finish_eq))
  case finish_last => rw [h.edges_eq, h.finish_eq]; exact hg.finish_last
  case ordinary_single =>
    intro n' hn' hordinary hid
    obtain ⟨n, hn, hid', hkind⟩ := h.exists_node hn'
    rw [h.outgoing_eq, ← hid']
    rw [h.finish_eq, ← hid'] at hid
    exact hg.ordinary_single n hn (hkind.trans hordinary) hid
  case router_branches =>
    intro n' hn' hrouter
    obtain ⟨n, hn, hid', hkind⟩ := h.exists_node hn'
    rw [h.outgoing_eq, ← hid']
    exact hg.router_branches n hn (hkind.trans hrouter)

/-- If a plan is made of a graph, one is made of every graph of its shape. -/
theorem SameShape.exists_build {policy : RetryPolicy} {p : Plan} (h : g.SameShape g')
    (hp : g.build policy = .ok p) (policy' : RetryPolicy) : ∃ p', g'.build policy' = .ok p' :=
  exists_build_of_sound policy' ((sound_of_build hp).of_sameShape h)

end Flowgraph.Graph
