/-
  Flowgraph/Proofs/Graph/Checks.lean
  ==================================
  **What each check asks** — for every check that `Graph.build` makes, the property of the graph
  that it holds of (`checkNodes_eq_ok_iff` and so on), and for every step that it makes, what
  the step is (`actionOf_eq_ok_iff`).

  The two searches come in here: the check for cycles asks for `Graph.Acyclic` as soon as every
  edge leaves a declared node, and the check for reach asks for walks from the start.
-/
import Flowgraph.Proofs.Except
import Flowgraph.Proofs.Graph.Walk
import Flowgraph.Proofs.RouteTable
import Flowgraph.Proofs.Search.Cycle
import Flowgraph.Proofs.Search.Reach

namespace Flowgraph

theorem firstRepeated_eq_none_iff {before ids : List String} :
    firstRepeated before ids = none ↔ ids.Nodup ∧ ∀ id ∈ ids, id ∉ before := by
  induction ids generalizing before with
  | nil => simp [firstRepeated]
  | cons id rest ih =>
    unfold firstRepeated
    split
    · next h => simp [h]
    · next h =>
      rw [ih]
      simp only [List.nodup_cons, List.mem_cons, forall_eq_or_imp, not_or]
      constructor
      · rintro ⟨hnodup, hrest⟩
        exact ⟨⟨fun hid => (hrest id hid).1 rfl, hnodup⟩, h, fun a ha => (hrest a ha).2⟩
      · rintro ⟨⟨hid, hnodup⟩, -, hrest⟩
        exact ⟨hnodup, fun a ha => ⟨fun heq => hid (heq ▸ ha), hrest a ha⟩⟩

namespace Graph

open Relation

variable {g : Graph}

/-! ### Looking up nodes -/

theorem mem_ids_of_mem {n : Node} (hn : n ∈ g.nodes) : n.id ∈ g.ids :=
  List.mem_map.2 ⟨n, hn, rfl⟩

theorem exists_of_mem_ids {id : String} (h : id ∈ g.ids) : ∃ n ∈ g.nodes, n.id = id :=
  List.mem_map.1 h

theorem node?_eq_none_iff {id : String} : g.node? id = none ↔ id ∉ g.ids := by
  simp [node?, ids]

/-- If the ids are distinct, a look-up finds the node of that id. -/
theorem node?_eq_some_iff (h : g.ids.Nodup) {id : String} {n : Node} :
    g.node? id = some n ↔ n ∈ g.nodes ∧ n.id = id := by
  constructor
  · intro hn
    exact ⟨List.mem_of_find?_eq_some hn, by simpa using List.find?_some hn⟩
  · rintro ⟨hn, rfl⟩
    cases hfound : g.node? n.id with
    | none => exact absurd (mem_ids_of_mem hn) (node?_eq_none_iff.1 hfound)
    | some m =>
      have hid : m.id = n.id := by simpa using List.find?_some hfound
      exact congrArg some (List.inj_on_of_nodup_map h (List.mem_of_find?_eq_some hfound) hn hid)

/-- If the ids are distinct, nodes of one id are the same node. -/
theorem eq_of_id_eq (h : g.ids.Nodup) {m n : Node} (hm : m ∈ g.nodes) (hn : n ∈ g.nodes)
    (hid : m.id = n.id) : m = n :=
  List.inj_on_of_nodup_map h hm hn hid

/-! ### The checks -/

theorem checkNodes_eq_ok_iff :
    g.checkNodes = .ok () ↔ g.ids.Nodup ∧ g.start ∈ g.ids ∧ g.finish ∈ g.ids := by
  have hrepeated : firstRepeated [] g.ids = none ↔ g.ids.Nodup := by
    simp [firstRepeated_eq_none_iff]
  unfold checkNodes
  split
  · next id h =>
    rw [h] at hrepeated
    simp [← hrepeated]
  · next h =>
    rw [h] at hrepeated
    simp only [true_iff] at hrepeated
    split
    · next hstart => simp [hstart]
    · split
      · next hfinish => simp [hfinish]
      · next hstart hfinish =>
        simp only [not_not] at hstart hfinish
        simp [hrepeated, hstart, hfinish]

theorem checkEdge_eq_ok_iff {e : Edge} :
    g.checkEdge e = .ok () ↔
      e.target ∈ g.ids ∧ ∃ n, g.node? e.source = some n ∧ e.condition.isSome = n.isRouter := by
  unfold checkEdge
  split
  · next h => simp [h]
  · next n h =>
    split
    · next htarget => simp [htarget]
    · next htarget =>
      simp only [not_not] at htarget
      cases hn : n.isRouter <;> cases hc : e.condition <;> simp [h, htarget, hn]

/-- If the ids are distinct, the edges pass exactly if they join declared nodes and those out of
    routers, and no others, have conditions. -/
theorem checkEdges_eq_ok_iff (h : g.ids.Nodup) :
    g.checkEdges = .ok () ↔
      (∀ e ∈ g.edges, e.source ∈ g.ids ∧ e.target ∈ g.ids) ∧
        ∀ e ∈ g.edges, ∀ n ∈ g.nodes, n.id = e.source → e.condition.isSome = n.isRouter := by
  unfold checkEdges
  simp only [forM_eq_ok_iff, checkEdge_eq_ok_iff, node?_eq_some_iff h]
  constructor
  · intro hedges
    refine ⟨fun e he => ?_, fun e he n hn hid => ?_⟩
    · obtain ⟨htarget, n, ⟨hn, hid⟩, -⟩ := hedges e he
      exact ⟨hid ▸ mem_ids_of_mem hn, htarget⟩
    · obtain ⟨-, m, ⟨hm, hid'⟩, hcondition⟩ := hedges e he
      rwa [eq_of_id_eq h hn hm (hid.trans hid'.symm)]
  · rintro ⟨hjoin, hcondition⟩ e he
    obtain ⟨n, hn, hid⟩ := exists_of_mem_ids (hjoin e he).1
    exact ⟨(hjoin e he).2, n, ⟨hn, hid⟩, hcondition e he n hn hid⟩

/-- If every edge leaves a declared node, there is no cycle exactly if no walk is closed. -/
theorem checkAcyclic_eq_ok_iff (h : ∀ e ∈ g.edges, e.source ∈ g.ids) :
    g.checkAcyclic = .ok () ↔ g.Acyclic := by
  unfold checkAcyclic
  rw [acyclic_iff]
  split
  · next id hfound =>
    have hcycle := Links.findCycle_sound hfound
    simp only [reduceCtorEq, false_iff, not_forall, not_not]
    exact ⟨id, hcycle⟩
  · next hfound =>
    simp only [true_iff]
    intro id hcycle
    obtain ⟨b, hstep, -⟩ := TransGen.head'_iff.1 hcycle
    obtain ⟨e, he, rfl, -⟩ := leads_iff.1 hstep
    exact Links.findCycle_complete hfound (h e he) .refl hcycle

/-- The reach passes exactly if a walk leads from the start to every id, the finish among them. -/
theorem checkReach_eq_ok_iff (h : g.finish ∈ g.ids) :
    g.checkReach = .ok () ↔ ∀ id ∈ g.ids, ∃ walk, g.Walk g.start walk id := by
  simp only [exists_walk_iff, ← Links.mem_reachableFrom_iff]
  unfold checkReach
  dsimp only
  split
  · next hfinish =>
    simp only [reduceCtorEq, false_iff, not_forall]
    exact ⟨g.finish, h, hfinish⟩
  · split
    · next id hfound =>
      have hid : id ∉ g.links.reachableFrom g.start := by simpa using List.find?_some hfound
      simp only [reduceCtorEq, false_iff, not_forall]
      exact ⟨id, List.mem_of_find?_eq_some hfound, hid⟩
    · next hfound => simpa using hfound

/-! ### The steps -/

/-- The table of some edges has their routes in order, and is made if the conditions are
    distinct. -/
theorem routesOf_eq_ok_iff {router : String} {table table' : RouteTable} {edges : List Edge}
    (h : table.conditions.Nodup) :
    routesOf router table edges = .ok table' ↔
      table'.routes = table.routes ++ edges.map (fun e => (e.condition.getD "", e.target)) ∧
        table'.conditions.Nodup := by
  induction edges generalizing table with
  | nil =>
    obtain ⟨routes⟩ := table
    obtain ⟨routes'⟩ := table'
    simp only [routesOf, Except.ok.injEq, RouteTable.mk.injEq, List.map_nil, List.append_nil]
    constructor
    · rintro rfl
      exact ⟨rfl, h⟩
    · rintro ⟨rfl, -⟩
      rfl
  | cons e rest ih =>
    unfold routesOf
    dsimp only
    split
    · next inserted hinsert =>
      obtain ⟨hnew, rfl⟩ := RouteTable.insert?_eq_some_iff.1 hinsert
      have hnodup : (RouteTable.conditions
          ⟨table.routes ++ [(e.condition.getD "", e.target)]⟩).Nodup := by
        have := List.nodup_append.2 ⟨h, List.nodup_singleton (e.condition.getD ""), by
          intro a ha b hb heq
          rw [List.mem_singleton.1 hb] at heq
          exact hnew (heq ▸ ha)⟩
        simpa [RouteTable.conditions] using this
      rw [ih hnodup]
      simp
    · next hinsert =>
      have hold : e.condition.getD "" ∈ table.conditions := by
        by_contra hnew
        rw [RouteTable.insert?_eq_some_iff.2 ⟨hnew, rfl⟩] at hinsert
        cases hinsert
      simp only [reduceCtorEq, false_iff, not_and]
      intro hroutes hnodup
      -- the condition stands in the table already, and would stand there again
      rw [RouteTable.conditions, hroutes, List.map_append, List.nodup_append] at hnodup
      exact hnodup.2.2 _ hold _ (by simp) rfl

/-- The step of a node: the finish is no router and has no edge, another node leads along its
    only edge, and a router has edges and a table of them. -/
theorem actionOf_eq_ok_iff {n : Node} {action : Action} :
    g.actionOf n = .ok action ↔
      (∃ run, n.callable = .ordinary run ∧ n.id = g.finish ∧ g.outgoing n.id = [] ∧
        action = .work run none) ∨
      (∃ run e, n.callable = .ordinary run ∧ n.id ≠ g.finish ∧ g.outgoing n.id = [e] ∧
        action = .work run (some e.target)) ∨
      (∃ choose routes, n.callable = .router choose ∧ n.id ≠ g.finish ∧
        g.outgoing n.id ≠ [] ∧ routesOf n.id .empty (g.outgoing n.id) = .ok routes ∧
        action = .branch choose routes (g.feeding n.id)) := by
  unfold actionOf
  dsimp only
  split
  · next hfinish =>
    cases hout : g.outgoing n.id with
    | nil => cases hcall : n.callable <;> simp [hfinish, eq_comm]
    | cons e rest => simp [hfinish]
  · next hfinish =>
    cases hcall : n.callable with
    | ordinary run =>
      rcases hout : g.outgoing n.id with _ | ⟨e, _ | ⟨e', rest⟩⟩
      · simp [hfinish]
      · simp [hfinish, eq_comm]
      · simp [hfinish]
    | router choose =>
      cases hout : g.outgoing n.id with
      | nil => simp [hfinish]
      | cons e rest =>
        simp only [bind_eq_ok_iff, pure, Except.pure, Except.ok.injEq, eq_comm (b := action)]
        simp [hfinish]

theorem stepOf_eq_ok_iff {policy : RetryPolicy} {n : Node} {entry : String × Step} :
    g.stepOf policy n = .ok entry ↔
      ∃ action, g.actionOf n = .ok action ∧
        entry = (n.id, ⟨n.label, action, n.policy.getD policy⟩) := by
  unfold stepOf
  simp only [bind_eq_ok_iff, pure, Except.pure, Except.ok.injEq, eq_comm (b := entry)]

/-- A plan is made if all checks pass and every node has a step. -/
theorem build_eq_ok_iff {policy : RetryPolicy} {p : Plan} :
    g.build policy = .ok p ↔
      g.checkNodes = .ok () ∧ g.checkEdges = .ok () ∧ g.checkAcyclic = .ok () ∧
        g.checkReach = .ok () ∧ g.nodes.mapM (g.stepOf policy) = .ok p.steps ∧
        p.start = g.start ∧ p.finish = g.finish := by
  obtain ⟨steps, start, finish⟩ := p
  unfold build
  simp only [bind_eq_ok_iff, pure, Except.pure, Except.ok.injEq, Plan.mk.injEq]
  constructor
  · rintro ⟨⟨⟩, hnodes, ⟨⟩, hedges, ⟨⟩, hacyclic, ⟨⟩, hreach, steps, hsteps, rfl, rfl, rfl⟩
    exact ⟨hnodes, hedges, hacyclic, hreach, hsteps, rfl, rfl⟩
  · rintro ⟨hnodes, hedges, hacyclic, hreach, hsteps, rfl, rfl⟩
    exact ⟨(), hnodes, (), hedges, (), hacyclic, (), hreach, steps, hsteps, rfl, rfl, rfl⟩

end Graph

end Flowgraph
