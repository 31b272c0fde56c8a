/-
  Flowgraph/Proofs/Graph/Faults.lean
  ==================================
  **What is wrong with a graph** — an error that `Graph.build` ends with is true of the graph
  (`Graph.Fault`), and the graph has passed the checks made before (`Graph.Passed`).

  Each check gives its errors a reason in the terms of the nodes, the edges and the walks.  That
  the earlier checks are passed matters for more than their own sake: a look-up finds the node of
  an id only because the ids are distinct, and the routes of a router are those of its edges only
  because each has a condition.
-/
import Flowgraph.Proofs.Graph.Sound

namespace Flowgraph

theorem firstRepeated_eq_some {before ids : List String} {id : String}
    (h : firstRepeated before ids = some id) : 2 ≤ before.count id + ids.count id := by
  induction ids generalizing before with
  | nil => cases h
  | cons a rest ih =>
    unfold firstRepeated at h
    split at h
    · next ha =>
      cases h
      have := List.count_pos_iff.2 ha
      rw [List.count_cons_self]
      omega
    · have := ih h
      rw [List.count_cons] at this ⊢
      omega

namespace Graph

/-! ### What the errors tell -/

/-- The id is that of a router, or of an ordinary node. -/
def HasKind (g : Graph) (id : String) (router : Bool) : Prop :=
  ∃ n ∈ g.nodes, n.id = id ∧ n.isRouter = router

/-- What an error tells of a graph. -/
def Fault (g : Graph) : BuildError → Prop
  | .duplicateNode id => 2 ≤ g.ids.count id
  | .nodeNotFound id =>
    id ∉ g.ids ∧ (id = g.start ∨ id = g.finish ∨ ∃ e ∈ g.edges, id = e.source ∨ id = e.target)
  | .missingCondition source target =>
    ⟨source, target, none⟩ ∈ g.edges ∧ g.HasKind source true
  | .unexpectedCondition source target condition =>
    ⟨source, target, some condition⟩ ∈ g.edges ∧ g.HasKind source false
  | .cycle id => ∃ walk, walk ≠ [] ∧ g.Walk id walk id
  | .unreachableFinish start finish =>
    start = g.start ∧ finish = g.finish ∧ ∀ walk, ¬ g.Walk g.start walk g.finish
  | .orphan id =>
    ∃ before after, g.ids = before ++ id :: after ∧ (∀ walk, ¬ g.Walk g.start walk id) ∧
      ∀ id' ∈ before, ∃ walk, g.Walk g.start walk id'
  | .finishHasSuccessors id => id = g.finish ∧ g.outgoing id ≠ []
  | .deadEnd id => g.HasKind id false ∧ id ≠ g.finish ∧ g.outgoing id = []
  | .ambiguousSuccessor id => g.HasKind id false ∧ id ≠ g.finish ∧ 2 ≤ (g.outgoing id).length
  | .routerWithoutRoutes id => g.HasKind id true ∧ g.outgoing id = []
  | .duplicateRoute router condition =>
    g.HasKind router true ∧ 2 ≤ (g.outgoing router).countP (·.condition = some condition)

/-- The nodes are as they have to be: the ids are distinct, and start and finish among them. -/
structure NodesSound (g : Graph) : Prop where
  ids_nodup : g.ids.Nodup
  start_mem : g.start ∈ g.ids
  finish_mem : g.finish ∈ g.ids

/-- So are the edges: they join nodes, and have a condition exactly if they leave a router. -/
structure EdgesSound (g : Graph) : Prop extends NodesSound g where
  ends_mem : ∀ e ∈ g.edges, e.source ∈ g.ids ∧ e.target ∈ g.ids
  condition_iff : ∀ e ∈ g.edges, ∀ n ∈ g.nodes, n.id = e.source →
    (e.condition.isSome = true ↔ n.isRouter = true)

/-- And so are the walks: none is closed, and the start leads to every node. -/
structure WalksSound (g : Graph) : Prop extends EdgesSound g where
  acyclic : g.Acyclic
  reachable : ∀ id ∈ g.ids, ∃ walk, g.Walk g.start walk id

/-- What a graph has passed that is left with an error. -/
def Passed (g : Graph) : BuildError → Prop
  | .duplicateNode _ => True
  | .nodeNotFound _ => g.ids.Nodup
  | .missingCondition .. | .unexpectedCondition .. => g.NodesSound
  | .cycle _ => g.EdgesSound
  | .unreachableFinish .. | .orphan _ => g.EdgesSound ∧ g.Acyclic
  | .finishHasSuccessors _ | .deadEnd _ | .ambiguousSuccessor _ | .routerWithoutRoutes _
  | .duplicateRoute .. => g.WalksSound

variable {g : Graph} {error : BuildError}

/-! ### Nodes and edges -/

theorem fault_of_checkNodes (h : g.checkNodes = .error error) : g.Fault error ∧ g.Passed error := by
  unfold checkNodes at h
  split at h
  · next id hid =>
    cases h
    have := firstRepeated_eq_some hid
    rw [List.count_nil] at this
    exact ⟨by rw [Fault]; omega, trivial⟩
  · next hnone =>
    have hnodup : g.ids.Nodup := (firstRepeated_eq_none_iff.1 hnone).1
    split at h
    · next hstart =>
      cases h
      exact ⟨⟨hstart, .inl rfl⟩, hnodup⟩
    · split at h
      · next hfinish =>
        cases h
        exact ⟨⟨hfinish, .inr (.inl rfl)⟩, hnodup⟩
      · cases h

theorem fault_of_checkEdge (hnodes : g.NodesSound) {e : Edge} (he : e ∈ g.edges)
    (h : g.checkEdge e = .error error) : g.Fault error ∧ g.Passed error := by
  obtain ⟨source, target, condition⟩ := e
  unfold checkEdge at h
  split at h
  · next hnone =>
    cases h
    exact ⟨⟨node?_eq_none_iff.1 hnone, .inr (.inr ⟨_, he, .inl rfl⟩)⟩, hnodes.ids_nodup⟩
  · next n hn =>
    obtain ⟨hmem, hid⟩ := (node?_eq_some_iff hnodes.ids_nodup).1 hn
    split at h
    · next htarget =>
      cases h
      exact ⟨⟨htarget, .inr (.inr ⟨_, he, .inr rfl⟩)⟩, hnodes.ids_nodup⟩
    · split at h
      · next hrouter hcondition =>
        cases h
        cases hcondition
        exact ⟨⟨he, n, hmem, hid, hrouter⟩, hnodes⟩
      · next c hrouter hcondition =>
        cases h
        cases hcondition
        exact ⟨⟨he, n, hmem, hid, hrouter⟩, hnodes⟩
      · cases h

theorem fault_of_checkEdges (hnodes : g.NodesSound) (h : g.checkEdges = .error error) :
    g.Fault error ∧ g.Passed error := by
  obtain ⟨before, e, after, hedges, -, herror⟩ := forM_eq_error_iff.1 h
  have he : e ∈ g.edges := by
    rw [hedges]
    exact List.mem_append_right _ List.mem_cons_self
  exact fault_of_checkEdge hnodes he herror

theorem nodesSound_of_checkNodes (h : g.checkNodes = .ok ()) : g.NodesSound := by
  obtain ⟨hnodup, hstart, hfinish⟩ := checkNodes_eq_ok_iff.1 h
  exact ⟨hnodup, hstart, hfinish⟩

theorem edgesSound_of_checkEdges (hnodes : g.NodesSound) (h : g.checkEdges = .ok ()) :
    g.EdgesSound := by
  obtain ⟨hends, hcondition⟩ := (checkEdges_eq_ok_iff hnodes.ids_nodup).1 h
  exact ⟨hnodes, hends, fun e he n hn hid => by rw [hcondition e he n hn hid]⟩

/-! ### Walks -/

theorem fault_of_checkAcyclic (hedges : g.EdgesSound) (h : g.checkAcyclic = .error error) :
    g.Fault error ∧ g.Passed error := by
  unfold checkAcyclic at h
  split at h
  · next id hid =>
    cases h
    obtain ⟨b, hstep, hback⟩ := Relation.TransGen.head'_iff.1 (Links.findCycle_sound hid)
    obtain ⟨e, he, rfl, rfl⟩ := leads_iff.1 hstep
    obtain ⟨walk, hwalk⟩ := exists_walk_iff.2 hback
    exact ⟨⟨e :: walk, List.cons_ne_nil _ _, .cons he rfl hwalk⟩, hedges⟩
  · cases h

theorem not_mem_reachableFrom_iff {id : String} :
    id ∉ g.links.reachableFrom g.start ↔ ∀ walk, ¬ g.Walk g.start walk id := by
  rw [Links.mem_reachableFrom_iff, ← exists_walk_iff, not_exists]

theorem fault_of_checkReach (hedges : g.EdgesSound) (hacyclic : g.Acyclic)
    (h : g.checkReach = .error error) : g.Fault error ∧ g.Passed error := by
  unfold checkReach at h
  dsimp only at h
  split at h
  · next hfinish =>
    cases h
    exact ⟨⟨rfl, rfl, not_mem_reachableFrom_iff.1 hfinish⟩, hedges, hacyclic⟩
  · split at h
    · next id hid =>
      cases h
      obtain ⟨horphan, before, after, hids, hbefore⟩ := List.find?_eq_some_iff_append.1 hid
      refine ⟨⟨before, after, hids, not_mem_reachableFrom_iff.1 (by simpa using horphan), ?_⟩,
        hedges, hacyclic⟩
      intro id' hid'
      have hreached : id' ∈ g.links.reachableFrom g.start := by simpa using hbefore id' hid'
      exact exists_walk_iff.2 (Links.mem_reachableFrom_iff.1 hreached)
    · cases h

/-! ### Steps -/

/-- A table cannot be made if a condition stands in it and at an edge, or at two edges. -/
theorem routesOf_eq_error {router : String} {table : RouteTable} {edges : List Edge}
    (h : routesOf router table edges = .error error) :
    ∃ condition, error = .duplicateRoute router condition ∧
      2 ≤ table.conditions.count condition + edges.countP (·.condition.getD "" = condition) := by
  induction edges generalizing table with
  | nil => cases h
  | cons e rest ih =>
    unfold routesOf at h
    dsimp only at h
    split at h
    · next inserted hinsert =>
      obtain ⟨-, rfl⟩ := RouteTable.insert?_eq_some_iff.1 hinsert
      obtain ⟨condition, herror, hcount⟩ := ih h
      refine ⟨condition, herror, ?_⟩
      rw [RouteTable.conditions, List.map_append, List.map_singleton, List.count_append,
        List.count_singleton] at hcount
      rw [List.countP_cons, RouteTable.conditions]
      simp only [beq_iff_eq, decide_eq_true_eq] at hcount ⊢
      omega
    · next hnone =>
      cases h
      refine ⟨_, rfl, ?_⟩
      have hold : e.condition.getD "" ∈ table.conditions := by
        by_contra hnew
        rw [RouteTable.insert?_eq_some_iff.2 ⟨hnew, rfl⟩] at hnone
        cases hnone
      have := List.count_pos_iff.2 hold
      rw [List.countP_cons_of_pos (by simp)]
      omega

theorem fault_of_routesOf (hwalks : g.WalksSound) {n : Node} (hn : n ∈ g.nodes)
    (hrouter : n.isRouter = true) (h : routesOf n.id .empty (g.outgoing n.id) = .error error) :
    g.Fault error ∧ g.Passed error := by
  obtain ⟨condition, rfl, hcount⟩ := routesOf_eq_error h
  refine ⟨⟨⟨n, hn, rfl, hrouter⟩, ?_⟩, hwalks⟩
  have hedges : ∀ e ∈ g.outgoing n.id, e.condition.isSome = true :=
    isSome_condition (fun e he hid => hwalks.condition_iff e he n hn hid.symm) hrouter
  have hcongr : (g.outgoing n.id).countP (·.condition.getD "" = condition) =
      (g.outgoing n.id).countP (·.condition = some condition) := by
    refine List.countP_congr fun e he => ?_
    obtain ⟨c, hc⟩ := Option.isSome_iff_exists.1 (hedges e he)
    simp [hc]
  rw [hcongr] at hcount
  simpa [RouteTable.conditions, RouteTable.empty] using hcount

theorem fault_of_actionOf (hwalks : g.WalksSound) {n : Node} (hn : n ∈ g.nodes)
    (h : g.actionOf n = .error error) : g.Fault error ∧ g.Passed error := by
  have hkind : ∀ router, n.isRouter = router → g.HasKind n.id router := fun router hrouter =>
    ⟨n, hn, rfl, hrouter⟩
  unfold actionOf at h
  dsimp only at h
  split at h
  · next hfinish =>
    split at h
    · next hout =>
      cases h
      exact ⟨⟨hfinish, by simpa using hout⟩, hwalks⟩
    · next hout =>
      split at h
      · cases h
      · next choose hcall =>
        cases h
        have hrouter : n.isRouter = true := Node.isRouter_eq_true_iff.2 ⟨choose, hcall⟩
        exact ⟨⟨hkind true hrouter, by simpa using hout⟩, hwalks⟩
  · next hfinish =>
    split at h
    · next run hcall hout =>
      cases h
      have hrouter : n.isRouter = false := Node.isRouter_eq_false_iff.2 ⟨run, hcall⟩
      exact ⟨⟨hkind false hrouter, hfinish, hout⟩, hwalks⟩
    · cases h
    · next run hcall hnil hsingle =>
      cases h
      have hrouter : n.isRouter = false := Node.isRouter_eq_false_iff.2 ⟨run, hcall⟩
      refine ⟨⟨hkind false hrouter, hfinish, ?_⟩, hwalks⟩
      -- neither no edge nor a single one is left
      rcases hout : g.outgoing n.id with _ | ⟨e, _ | ⟨e', rest⟩⟩
      · exact absurd hout hnil
      · exact absurd hout (hsingle e)
      · simp
    · next choose hcall hout =>
      cases h
      have hrouter : n.isRouter = true := Node.isRouter_eq_true_iff.2 ⟨choose, hcall⟩
      exact ⟨⟨hkind true hrouter, hout⟩, hwalks⟩
    · next choose hcall _ =>
      have hrouter : n.isRouter = true := Node.isRouter_eq_true_iff.2 ⟨choose, hcall⟩
      rcases bind_eq_error_iff.1 h with hroutes | ⟨routes, -, hpure⟩
      · exact fault_of_routesOf hwalks hn hrouter hroutes
      · cases hpure

theorem fault_of_stepOf (hwalks : g.WalksSound) {policy : RetryPolicy} {n : Node}
    (hn : n ∈ g.nodes) (h : g.stepOf policy n = .error error) :
    g.Fault error ∧ g.Passed error := by
  rcases bind_eq_error_iff.1 h with haction | ⟨action, -, hpure⟩
  · exact fault_of_actionOf hwalks hn haction
  · cases hpure

/-! ### All checks -/

/-- An error is true of the graph, whose nodes, edges and walks have passed the checks before. -/
theorem fault_of_build_eq_error {policy : RetryPolicy} (h : g.build policy = .error error) :
    g.Fault error ∧ g.Passed error := by
  unfold build at h
  rcases bind_eq_error_iff.1 h with hnodes | ⟨⟨⟩, hnodes, h⟩
  · exact fault_of_checkNodes hnodes
  have hnodesSound := nodesSound_of_checkNodes hnodes
  rcases bind_eq_error_iff.1 h with hedges | ⟨⟨⟩, hedges, h⟩
  · exact fault_of_checkEdges hnodesSound hedges
  have hedgesSound := edgesSound_of_checkEdges hnodesSound hedges
  rcases bind_eq_error_iff.1 h with hacyclic | ⟨⟨⟩, hacyclic, h⟩
  · exact fault_of_checkAcyclic hedgesSound hacyclic
  have hacyclic := (checkAcyclic_eq_ok_iff fun e he => (hedgesSound.ends_mem e he).1).1 hacyclic
  rcases bind_eq_error_iff.1 h with hreach | ⟨⟨⟩, hreach, h⟩
  · exact fault_of_checkReach hedgesSound hacyclic hreach
  have hreach := (checkReach_eq_ok_iff hedgesSound.finish_mem).1 hreach
  rcases bind_eq_error_iff.1 h with hsteps | ⟨steps, -, hpure⟩
  · obtain ⟨n, hn, hstep⟩ := exists_mem_of_mapM_eq_error hsteps
    exact fault_of_stepOf ⟨hedgesSound, hacyclic, hreach⟩ hn hstep
  · cases hpure

/-- A router that may send the work back to itself. -/
def looping : Graph where
  nodes :=
    [{ id := "ask", label := "Ask", callable := .router fun _ _ _ => .ok "done" },
     { id := "work", label := "Work", callable := .ordinary fun _ s => .ok s },
     { id := "done", label := "Done", callable := .ordinary fun _ s => .ok s }]
  edges := [⟨"ask", "work", some "again"⟩, ⟨"work", "ask", none⟩, ⟨"ask", "done", some "done"⟩]
  start := "ask"
  finish := "done"

theorem fault_of_build_looping : looping.build {} = .error (.cycle "ask") ∧
    (∃ walk, walk ≠ [] ∧ looping.Walk "ask" walk "ask") ∧ looping.EdgesSound := by
  have hnodes : looping.checkNodes = .ok () := rfl
  have hedges : looping.checkEdges = .ok () := by decide +kernel
  have hcycle : looping.links.findCycle looping.ids = some "ask" := by decide +kernel
  have hbuild : looping.build {} = .error (.cycle "ask") := by
    rw [build, hnodes, hedges, checkAcyclic, hcycle]
    rfl
  exact ⟨hbuild, fault_of_build_eq_error hbuild⟩

end Graph

end Flowgraph
