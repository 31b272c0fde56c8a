/-
  Flowgraph/Proofs/Graph/Built.lean
  =================================
  **What a built plan holds** — the plan of a graph has the start and the finish of the graph
  and one step to each node (`step?_of_build`), and what a step does and where it leads is what
  the declared edges say (`action_of_build`).
-/
import Flowgraph.Proofs.Graph.Sound
import Flowgraph.Proofs.Lookup

namespace Flowgraph.Graph

variable {g : Graph} {policy : RetryPolicy} {p : Plan}

/-- The policy that a node is called under. -/
def policyOf (policy : RetryPolicy) (n : Node) : RetryPolicy := n.policy.getD policy

theorem start_of_build (h : g.build policy = .ok p) : p.start = g.start := by
  obtain ⟨-, -, -, -, -, hstart, -⟩ := build_eq_ok_iff.1 h
  exact hstart

theorem finish_of_build (h : g.build policy = .ok p) : p.finish = g.finish := by
  obtain ⟨-, -, -, -, -, -, hfinish⟩ := build_eq_ok_iff.1 h
  exact hfinish

/-! ### The steps of the plan -/

theorem steps_of_build (h : g.build policy = .ok p) :
    g.nodes.mapM (g.stepOf policy) = .ok p.steps := by
  obtain ⟨-, -, -, -, hsteps, -, -⟩ := build_eq_ok_iff.1 h
  exact hsteps

/-- The steps stand in the order of the nodes, each under the id of its node. -/
theorem map_fst_steps_of_build (h : g.build policy = .ok p) : p.steps.map (·.1) = g.ids := by
  refine map_eq_map_of_mapM_eq_ok (steps_of_build h) fun n entry hentry => ?_
  obtain ⟨action, -, rfl⟩ := stepOf_eq_ok_iff.1 hentry
  rfl

theorem size_of_build (h : g.build policy = .ok p) : p.size = g.nodes.length := by
  have hlength := congrArg List.length (map_fst_steps_of_build h)
  simpa [Plan.size, ids] using hlength

/-- A declared node has its step in the plan. -/
theorem step?_of_build (h : g.build policy = .ok p) {n : Node} (hn : n ∈ g.nodes) :
    ∃ action, g.actionOf n = .ok action ∧
      p.step? n.id = some ⟨n.label, action, policyOf policy n⟩ := by
  have hnodup : (p.steps.map (·.1)).Nodup :=
    map_fst_steps_of_build h ▸ (sound_of_build h).ids_nodup
  obtain ⟨entry, hmem, hentry⟩ := exists_mem_of_mapM_eq_ok (steps_of_build h) hn
  obtain ⟨action, haction, rfl⟩ := stepOf_eq_ok_iff.1 hentry
  exact ⟨action, haction, (find?_map_eq_some_iff hnodup).2 hmem⟩

theorem step?_eq_none_iff_of_build (h : g.build policy = .ok p) {id : String} :
    p.step? id = none ↔ id ∉ g.ids := by
  rw [← map_fst_steps_of_build h]
  exact find?_map_eq_none_iff

/-! ### What the steps do -/

/-- A table that leads where the edges out of a node with the same condition do. -/
def Routed (g : Graph) (id : String) (routes : RouteTable) : Prop :=
  ∀ condition target, routes.get? condition = some target ↔
    ∃ e ∈ g.outgoing id, e.condition = some condition ∧ e.target = target

/-- An edge with a condition leads where the table of its router sends the condition. -/
theorem Routed.get?_eq_some_iff {id condition target : String} {routes : RouteTable}
    (h : g.Routed id routes) :
    routes.get? condition = some target ↔ ⟨id, target, some condition⟩ ∈ g.edges := by
  rw [h condition target]
  constructor
  · rintro ⟨⟨source, target', condition'⟩, he, rfl, rfl⟩
    obtain ⟨hmem, rfl⟩ := mem_outgoing.1 he
    exact hmem
  · intro hmem
    exact ⟨_, mem_outgoing.2 ⟨hmem, rfl⟩, rfl, rfl⟩

theorem Routed.get?_eq_none_iff {id condition : String} {routes : RouteTable}
    (h : g.Routed id routes) :
    routes.get? condition = none ↔ ∀ e ∈ g.outgoing id, e.condition ≠ some condition := by
  rw [Option.eq_none_iff_forall_ne_some]
  constructor
  · intro hnone e he hcondition
    exact hnone e.target ((h condition e.target).2 ⟨e, he, hcondition, rfl⟩)
  · intro hnone target htarget
    obtain ⟨e, he, hcondition, -⟩ := (h condition target).1 htarget
    exact hnone e he hcondition

theorem routed_of_routesOf {id : String} {routes : RouteTable}
    (hedges : ∀ e ∈ g.outgoing id, e.condition.isSome = true)
    (h : routesOf id .empty (g.outgoing id) = .ok routes) : g.Routed id routes := by
  intro condition target
  have hempty : RouteTable.empty.conditions.Nodup := List.nodup_nil
  obtain ⟨hroutes, hnodup⟩ := (routesOf_eq_ok_iff hempty).1 h
  rw [RouteTable.get?_eq_some_iff hnodup, hroutes]
  simp only [RouteTable.empty, List.nil_append, List.mem_map, Prod.mk.injEq]
  constructor
  · rintro ⟨e, he, rfl, rfl⟩
    obtain ⟨c, hc⟩ := Option.isSome_iff_exists.1 (hedges e he)
    exact ⟨e, he, by rw [hc, Option.getD_some], rfl⟩
  · rintro ⟨e, he, hc, rfl⟩
    exact ⟨e, he, by rw [hc, Option.getD_some], rfl⟩

/-- The table of some edges has a route to each, in order. -/
theorem routes_of_routesOf {router : String} {routes : RouteTable} {edges : List Edge}
    (hedges : ∀ e ∈ edges, e.condition.isSome = true)
    (h : routesOf router .empty edges = .ok routes) :
    routes.conditions.map some = edges.map (·.condition) ∧
      routes.targets = edges.map (·.target) := by
  have hempty : RouteTable.empty.conditions.Nodup := List.nodup_nil
  obtain ⟨heq, -⟩ := (routesOf_eq_ok_iff hempty).1 h
  rw [RouteTable.conditions, RouteTable.targets, heq, ← map_some_getD_condition hedges]
  simp [RouteTable.empty, Function.comp_def]

theorem isSome_condition_of_build (h : g.build policy = .ok p) {n : Node} (hn : n ∈ g.nodes)
    (hrouter : n.isRouter = true) : ∀ e ∈ g.outgoing n.id, e.condition.isSome = true :=
  isSome_condition (fun e he hid => (sound_of_build h).condition_iff e he n hn hid.symm) hrouter

/-- The step of a declared node: the finish leads nowhere, another ordinary node along its only
    edge, and a router along the edge with the condition it names. -/
theorem action_of_build (h : g.build policy = .ok p) {n : Node} (hn : n ∈ g.nodes) :
    (∃ run, n.callable = .ordinary run ∧ n.id = g.finish ∧
      p.step? n.id = some ⟨n.label, .work run none, policyOf policy n⟩) ∨
    (∃ run e, n.callable = .ordinary run ∧ n.id ≠ g.finish ∧ g.outgoing n.id = [e] ∧
      p.step? n.id = some ⟨n.label, .work run (some e.target), policyOf policy n⟩) ∨
    (∃ choose routes, n.callable = .router choose ∧ n.id ≠ g.finish ∧ g.Routed n.id routes ∧
      p.step? n.id =
        some ⟨n.label, .branch choose routes (g.feeding n.id), policyOf policy n⟩) := by
  obtain ⟨action, haction, hstep⟩ := step?_of_build h hn
  obtain ⟨run, hcall, hfinish, -, rfl⟩ | ⟨run, e, hcall, hfinish, hout, rfl⟩ |
    ⟨choose, routes, hcall, hfinish, -, hroutes, rfl⟩ := actionOf_eq_ok_iff.1 haction
  · exact .inl ⟨run, hcall, hfinish, hstep⟩
  · exact .inr (.inl ⟨run, e, hcall, hfinish, hout, hstep⟩)
  · have hrouter : n.isRouter = true := Node.isRouter_eq_true_iff.2 ⟨choose, hcall⟩
    have hrouted := routed_of_routesOf (isSome_condition_of_build h hn hrouter) hroutes
    exact .inr (.inr ⟨choose, routes, hcall, hfinish, hrouted, hstep⟩)

/-- The step of a router has a route to each edge, in order. -/
theorem branch_of_build (h : g.build policy = .ok p) {n : Node} (hn : n ∈ g.nodes)
    (hrouter : n.isRouter = true) :
    ∃ choose routes, g.Routed n.id routes ∧
      routes.conditions.map some = (g.outgoing n.id).map (·.condition) ∧
      routes.targets = (g.outgoing n.id).map (·.target) ∧
      p.step? n.id =
        some ⟨n.label, .branch choose routes (g.feeding n.id), policyOf policy n⟩ := by
  obtain ⟨action, haction, hstep⟩ := step?_of_build h hn
  obtain ⟨choose, hcall⟩ := Node.isRouter_eq_true_iff.1 hrouter
  obtain ⟨run, hcall', -⟩ | ⟨run, e, hcall', -⟩ |
    ⟨choose', routes, -, -, -, hroutes, rfl⟩ := actionOf_eq_ok_iff.1 haction
  · cases hcall.symm.trans hcall'
  · cases hcall.symm.trans hcall'
  · have hedges := isSome_condition_of_build h hn hrouter
    obtain ⟨hconditions, htargets⟩ := routes_of_routesOf hedges hroutes
    exact ⟨choose', routes, routed_of_routesOf hedges hroutes, hconditions, htargets, hstep⟩

/-- The step of an ordinary node leads along the edges out of it, of which there is one at the
    most. -/
theorem work_of_build (h : g.build policy = .ok p) {n : Node} (hn : n ∈ g.nodes)
    (hordinary : n.isRouter = false) :
    ∃ run next, next.toList = (g.outgoing n.id).map (·.target) ∧
      p.step? n.id = some ⟨n.label, .work run next, policyOf policy n⟩ := by
  obtain ⟨action, haction, hstep⟩ := step?_of_build h hn
  obtain ⟨run, hcall⟩ := Node.isRouter_eq_false_iff.1 hordinary
  obtain ⟨run', -, -, hout, rfl⟩ | ⟨run', e, -, -, hout, rfl⟩ |
    ⟨choose, routes, hcall', -⟩ := actionOf_eq_ok_iff.1 haction
  · exact ⟨run', none, by rw [hout]; rfl, hstep⟩
  · exact ⟨run', some e.target, by rw [hout]; rfl, hstep⟩
  · cases hcall.symm.trans hcall'

theorem routes?_of_build (h : g.build policy = .ok p) {n : Node} (hn : n ∈ g.nodes)
    (hrouter : n.isRouter = true) :
    ∃ routes, p.routes? n.id = some routes ∧ g.Routed n.id routes := by
  obtain ⟨choose, routes, hrouted, -, -, hstep⟩ := branch_of_build h hn hrouter
  refine ⟨routes, ?_, hrouted⟩
  rw [Plan.routes?, hstep]
  rfl

theorem incoming?_of_build (h : g.build policy = .ok p) {n : Node} (hn : n ∈ g.nodes)
    (hrouter : n.isRouter = true) : p.incoming? n.id = some (g.feeding n.id) := by
  obtain ⟨choose, routes, -, -, -, hstep⟩ := branch_of_build h hn hrouter
  rw [Plan.incoming?, hstep]
  rfl

end Flowgraph.Graph
