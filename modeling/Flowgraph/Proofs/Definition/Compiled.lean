/-
  Flowgraph/Proofs/Definition/Compiled.lean
  =========================================
  **The graph of a definition** — compiling a definition is making its nodes and building a plan
  of the graph that they form with the declared edges (`Definition.compile_eq_ok_iff`).

  Whether that succeeds does not hang on the policy: the graphs that a definition gives under two
  policies have one shape (`Definition.exists_compile`).
-/
import Flowgraph.Proofs.Graph.Built
import Flowgraph.Proofs.Graph.Shape
import Flowgraph.Registry

namespace Flowgraph

variable {r : Registry} {policy : RetryPolicy} {d : Definition} {g : Graph} {p : Plan}

/-! ### Making the nodes -/

def Registry.createNode (r : Registry) (policy : RetryPolicy) (n : NodeSpec) :
    Except DefinitionError Node :=
  (r.create n).map (n.toNode policy)

theorem Registry.createNode_eq_ok_iff {n : NodeSpec} {node : Node} :
    r.createNode policy n = .ok node ↔
      ∃ callable, r.create n = .ok callable ∧ n.toNode policy callable = node :=
  map_eq_ok_iff

theorem Registry.createNodes_snd (r : Registry) (policy : RetryPolicy) (specs : List NodeSpec) :
    (r.createNodes policy specs).2 = specs.mapM (r.createNode policy) := by
  induction specs with
  | nil => rfl
  | cons n rest ih =>
    rw [createNodes, List.mapM_cons, ← ih, createNode]
    cases r.create n with
    | error e => rfl
    | ok callable =>
      dsimp only [Except.map]
      cases (r.createNodes policy rest).2 <;> rfl

/-- Nothing but the making of nodes is logged. -/
theorem Registry.mem_createNodes_fst {specs : List NodeSpec} {event : LogEvent}
    (h : event ∈ (r.createNodes policy specs).1) : ∃ id kind, event = .nodeCreated id kind := by
  induction specs with
  | nil => cases h
  | cons n rest ih =>
    rw [createNodes] at h
    cases hcreate : r.create n with
    | error e =>
      rw [hcreate] at h
      cases h
    | ok callable =>
      rw [hcreate] at h
      rcases List.mem_cons.1 h with rfl | h
      · exact ⟨_, _, rfl⟩
      · exact ih h

namespace Definition

/-! ### The graph -/

/-- The graph that a definition declares, its nodes made by a registry. -/
def graph (d : Definition) (r : Registry) (policy : RetryPolicy) :
    Except DefinitionError Graph := do
  return ⟨← d.nodes.mapM (r.createNode policy), d.edges, d.start, d.finish⟩

theorem graph_eq_ok_iff : d.graph r policy = .ok g ↔
    ∃ nodes, d.nodes.mapM (r.createNode policy) = .ok nodes ∧
      g = ⟨nodes, d.edges, d.start, d.finish⟩ := by
  rw [graph, bind_eq_ok_iff]
  simp [pure, Except.pure, eq_comm]

theorem compile_eq_ok_iff : (d.compile r policy).2 = .ok p ↔
    ∃ g, d.graph r policy = .ok g ∧ g.build policy = .ok p := by
  have hcompile : (d.compile r policy).2 =
      d.graph r policy >>= fun g => (g.build policy).mapError .build := by
    simp only [compile, graph, r.createNodes_snd]
    cases d.nodes.mapM (r.createNode policy) <;> rfl
  rw [hcompile, bind_eq_ok_iff]
  exact exists_congr fun g => and_congr_right fun _ => mapError_eq_ok_iff

theorem edges_of_graph (h : d.graph r policy = .ok g) : g.edges = d.edges := by
  obtain ⟨nodes, -, rfl⟩ := graph_eq_ok_iff.1 h
  rfl

theorem finish_of_graph (h : d.graph r policy = .ok g) : g.finish = d.finish := by
  obtain ⟨nodes, -, rfl⟩ := graph_eq_ok_iff.1 h
  rfl

theorem ids_of_graph (h : d.graph r policy = .ok g) : g.ids = d.nodes.map (·.id) := by
  obtain ⟨nodes, hnodes, rfl⟩ := graph_eq_ok_iff.1 h
  refine map_eq_map_of_mapM_eq_ok hnodes fun n node hnode => ?_
  obtain ⟨callable, -, rfl⟩ := Registry.createNode_eq_ok_iff.1 hnode
  rfl

theorem nodup_of_graph (h : d.graph r policy = .ok g) (hsound : g.Sound) :
    (d.nodes.map (·.id)).Nodup :=
  ids_of_graph h ▸ hsound.ids_nodup

theorem exists_node_of_graph (h : d.graph r policy = .ok g) {n : NodeSpec} (hn : n ∈ d.nodes) :
    ∃ callable, r.create n = .ok callable ∧ n.toNode policy callable ∈ g.nodes := by
  obtain ⟨nodes, hnodes, rfl⟩ := graph_eq_ok_iff.1 h
  obtain ⟨node, hmem, hnode⟩ := exists_mem_of_mapM_eq_ok hnodes hn
  obtain ⟨callable, hcreate, rfl⟩ := Registry.createNode_eq_ok_iff.1 hnode
  exact ⟨callable, hcreate, hmem⟩

theorem exists_spec_of_graph (h : d.graph r policy = .ok g) {node : Node} (hn : node ∈ g.nodes) :
    ∃ n ∈ d.nodes, ∃ callable, r.create n = .ok callable ∧ node = n.toNode policy callable := by
  obtain ⟨nodes, hnodes, rfl⟩ := graph_eq_ok_iff.1 h
  obtain ⟨n, hmem, hnode⟩ := exists_eq_ok_of_mem_mapM hnodes hn
  obtain ⟨callable, hcreate, rfl⟩ := Registry.createNode_eq_ok_iff.1 hnode
  exact ⟨n, hmem, callable, hcreate, rfl⟩

/-- A node's own settings do not change which errors are worth another call. -/
theorem retryOn_of_graph (h : d.graph r policy = .ok g) {node : Node} (hn : node ∈ g.nodes) :
    (Graph.policyOf policy node).retryOn = policy.retryOn := by
  obtain ⟨n, -, callable, -, rfl⟩ := exists_spec_of_graph h hn
  simp only [Graph.policyOf, NodeSpec.toNode]
  cases n.retry <;> rfl

/-- A node is called under the policy, its own settings applied if it has any. -/
theorem policy?_of_compile (h : (d.compile r policy).2 = .ok p) {n : NodeSpec}
    (hn : n ∈ d.nodes) :
    p.policy? n.id = some ((n.retry.map (·.apply policy)).getD policy) := by
  obtain ⟨g, hgraph, hbuild⟩ := compile_eq_ok_iff.1 h
  obtain ⟨callable, -, hmem⟩ := exists_node_of_graph hgraph hn
  obtain ⟨action, -, hstep⟩ := Graph.step?_of_build hbuild hmem
  have hid : n.id = (n.toNode policy callable).id := rfl
  rw [Plan.policy?, hid, hstep]
  rfl

/-! ### Another policy -/

/-- The kind of each node is that of what the registry makes of its entry. -/
theorem shape_of_graph (h : d.graph r policy = .ok g) :
    g.nodes.map (fun n => (n.id, n.isRouter)) =
      d.nodes.map fun n => (n.id, (r.create n).toOption.any Callable.isRouter) := by
  obtain ⟨nodes, hnodes, rfl⟩ := graph_eq_ok_iff.1 h
  refine map_eq_map_of_mapM_eq_ok hnodes fun n node hnode => ?_
  obtain ⟨callable, hcreate, rfl⟩ := Registry.createNode_eq_ok_iff.1 hnode
  rw [hcreate]
  rfl

theorem exists_graph (h : d.graph r policy = .ok g) (policy' : RetryPolicy) :
    ∃ g', d.graph r policy' = .ok g' ∧ g.SameShape g' := by
  obtain ⟨nodes, hnodes, -⟩ := graph_eq_ok_iff.1 h
  obtain ⟨nodes', hnodes'⟩ : ∃ nodes', d.nodes.mapM (r.createNode policy') = .ok nodes' := by
    refine exists_mapM_eq_ok_iff.2 fun n hn => ?_
    obtain ⟨node, hnode⟩ := exists_mapM_eq_ok_iff.1 ⟨nodes, hnodes⟩ n hn
    obtain ⟨callable, hcreate, -⟩ := Registry.createNode_eq_ok_iff.1 hnode
    exact ⟨_, Registry.createNode_eq_ok_iff.2 ⟨callable, hcreate, rfl⟩⟩
  have hgraph' := graph_eq_ok_iff.2 ⟨nodes', hnodes', rfl⟩
  refine ⟨_, hgraph', (shape_of_graph hgraph').trans (shape_of_graph h).symm, ?_, ?_, ?_⟩
  · exact (edges_of_graph h).symm
  · obtain ⟨nodes, -, rfl⟩ := graph_eq_ok_iff.1 h
    rfl
  · exact (finish_of_graph h).symm

theorem exists_compile (h : (d.compile r policy).2 = .ok p) (policy' : RetryPolicy) :
    ∃ p', (d.compile r policy').2 = .ok p' := by
  obtain ⟨g, hgraph, hbuild⟩ := compile_eq_ok_iff.1 h
  obtain ⟨g', hgraph', hshape⟩ := exists_graph hgraph policy'
  obtain ⟨p', hbuild'⟩ := hshape.exists_build hbuild policy'
  exact ⟨p', compile_eq_ok_iff.2 ⟨g', hgraph', hbuild'⟩⟩

end Definition

end Flowgraph
