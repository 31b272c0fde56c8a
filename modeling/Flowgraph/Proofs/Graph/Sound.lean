/-
  Flowgraph/Proofs/Graph/Sound.lean
  =================================
  **Sound graphs** — what a graph has to be like for a plan to be made of it, said of its nodes,
  its edges and the walks along them, without the searches and the order of the checks.

  A plan is made of every sound graph (`exists_build_of_sound`) and of no other
  (`sound_of_build`).
-/
import Flowgraph.Proofs.Graph.Checks

namespace Flowgraph

namespace Node

theorem isRouter_eq_true_iff {n : Node} :
    n.isRouter = true ↔ ∃ choose, n.callable = .router choose := by
  unfold isRouter
  cases n.callable <;> simp [Callable.isRouter]

theorem isRouter_eq_false_iff {n : Node} :
    n.isRouter = false ↔ ∃ run, n.callable = .ordinary run := by
  unfold isRouter
  cases n.callable <;> simp [Callable.isRouter]

end Node

namespace Graph

variable {g : Graph} {policy : RetryPolicy} {p : Plan}

/-- What is asked of a graph. -/
structure Sound (g : Graph) : Prop where
  ids_nodup : g.ids.Nodup
  start_mem : g.start ∈ g.ids
  finish_mem : g.finish ∈ g.ids
  /-- Edges join declared nodes. -/
  ends_mem : ∀ e ∈ g.edges, e.source ∈ g.ids ∧ e.target ∈ g.ids
  /-- An edge has a condition exactly if it leaves a router. -/
  condition_iff : ∀ e ∈ g.edges, ∀ n ∈ g.nodes, n.id = e.source →
    (e.condition.isSome = true ↔ n.isRouter = true)
  /-- No walk but the empty one is closed. -/
  acyclic : ∀ id walk, g.Walk id walk id → walk = []
  reachable : ∀ id ∈ g.ids, ∃ walk, g.Walk g.start walk id
  finish_ordinary : ∀ n ∈ g.nodes, n.id = g.finish → n.isRouter = false
  finish_last : ∀ e ∈ g.edges, e.source ≠ g.finish
  /-- Parallel edges count one by one. -/
  ordinary_single : ∀ n ∈ g.nodes, n.isRouter = false → n.id ≠ g.finish →
    (g.outgoing n.id).length = 1
  router_branches : ∀ n ∈ g.nodes, n.isRouter = true →
    g.outgoing n.id ≠ [] ∧ ((g.outgoing n.id).map (·.condition)).Nodup

/-! ### Walks in a sound graph -/

namespace Sound

theorem end_mem (hg : g.Sound) {a b : String} {walk : List Edge} (h : g.Walk a walk b)
    (ha : a ∈ g.ids) : b ∈ g.ids :=
  h.visits_subset ha (fun e he => (hg.ends_mem e he).2) h.mem_visits

theorem length_lt (hg : g.Sound) {a b : String} {walk : List Edge} (h : g.Walk a walk b)
    (ha : a ∈ g.ids) : walk.length < g.nodes.length :=
  Acyclic.length_lt hg.acyclic h ha fun e he => (hg.ends_mem e he).2

end Sound

/-! ### The edges out of a node -/

theorem mem_outgoing {e : Edge} {id : String} :
    e ∈ g.outgoing id ↔ e ∈ g.edges ∧ e.source = id := by
  simp [outgoing]

theorem outgoing_eq_nil_iff {id : String} :
    g.outgoing id = [] ↔ ∀ e ∈ g.edges, e.source ≠ id := by
  simp [outgoing]

/-- An ordinary node that feeds another leads nowhere else. -/
theorem Sound.target_eq_of_mem_feeding (hg : g.Sound) {n : Node} (hn : n ∈ g.nodes)
    (hordinary : n.isRouter = false) {id : String} (hfeeds : n.id ∈ g.feeding id) {e : Edge}
    (he : e ∈ g.edges) (hsource : e.source = n.id) : e.target = id := by
  obtain ⟨e', ⟨he', htarget⟩, hsource'⟩ : ∃ e', (e' ∈ g.edges ∧ e'.target = id) ∧
      e'.source = n.id := by
    simpa [feeding] using hfeeds
  have hfinish : n.id ≠ g.finish := hsource ▸ hg.finish_last e he
  obtain ⟨only, honly⟩ := List.length_eq_one_iff.1 (hg.ordinary_single n hn hordinary hfinish)
  have hmem : ∀ e ∈ g.edges, e.source = n.id → e = only := by
    intro e he hsource
    have hout := mem_outgoing.2 ⟨he, hsource⟩
    rwa [honly, List.mem_singleton] at hout
  rw [← htarget, hmem e he hsource, hmem e' he' hsource']

/-- If edges have conditions exactly if they leave a router, all that leave one have. -/
theorem isSome_condition {n : Node}
    (h : ∀ e ∈ g.edges, e.source = n.id → (e.condition.isSome = true ↔ n.isRouter = true))
    (hrouter : n.isRouter = true) : ∀ e ∈ g.outgoing n.id, e.condition.isSome = true := by
  intro e he
  obtain ⟨hmem, hsource⟩ := mem_outgoing.1 he
  exact (h e hmem hsource).2 hrouter

/-- Of edges that all have conditions, nothing is lost by reading none as the empty one. -/
theorem map_some_getD_condition {edges : List Edge}
    (h : ∀ e ∈ edges, e.condition.isSome = true) :
    (edges.map fun e => e.condition.getD "").map some = edges.map (·.condition) := by
  rw [List.map_map]
  refine List.map_congr_left fun e he => ?_
  obtain ⟨c, hc⟩ := Option.isSome_iff_exists.1 (h e he)
  simp [hc]

/-- The routes of edges that all have conditions are distinct exactly if the conditions are. -/
theorem nodup_map_getD_iff {edges : List Edge} (h : ∀ e ∈ edges, e.condition.isSome = true) :
    (edges.map fun e => e.condition.getD "").Nodup ↔ (edges.map (·.condition)).Nodup := by
  rw [← map_some_getD_condition h, List.nodup_map_iff fun _ _ h => Option.some.inj h]

/-- The table of a router's edges can be made exactly if their conditions are distinct. -/
theorem exists_routesOf_iff {edges : List Edge}
    (h : ∀ e ∈ edges, e.condition.isSome = true) (router : String) :
    (∃ routes, routesOf router .empty edges = .ok routes) ↔
      (edges.map (·.condition)).Nodup := by
  have hempty : RouteTable.empty.conditions.Nodup := List.nodup_nil
  simp only [routesOf_eq_ok_iff hempty, ← nodup_map_getD_iff h]
  constructor
  · rintro ⟨routes, hroutes, hnodup⟩
    rw [RouteTable.conditions, hroutes] at hnodup
    simpa [RouteTable.empty, Function.comp_def] using hnodup
  · intro hnodup
    refine ⟨⟨edges.map fun e => (e.condition.getD "", e.target)⟩, by simp [RouteTable.empty], ?_⟩
    simpa [RouteTable.conditions, Function.comp_def] using hnodup

/-- A node has a step exactly if it has the edges that its kind asks for. -/
theorem exists_actionOf_iff {n : Node}
    (h : ∀ e ∈ g.edges, e.source = n.id → (e.condition.isSome = true ↔ n.isRouter = true)) :
    (∃ action, g.actionOf n = .ok action) ↔
      (n.id = g.finish → n.isRouter = false ∧ ∀ e ∈ g.edges, e.source ≠ n.id) ∧
      (n.isRouter = false → n.id ≠ g.finish → (g.outgoing n.id).length = 1) ∧
      (n.isRouter = true →
        g.outgoing n.id ≠ [] ∧ ((g.outgoing n.id).map (·.condition)).Nodup) := by
  simp only [actionOf_eq_ok_iff, ← outgoing_eq_nil_iff]
  cases hcall : n.callable with
  | ordinary run =>
    have hrouter : n.isRouter = false := Node.isRouter_eq_false_iff.2 ⟨run, hcall⟩
    by_cases hfinish : n.id = g.finish
    · simp [hrouter, hfinish, and_comm]
    · simp [hrouter, hfinish, List.length_eq_one_iff]
  | router choose =>
    have hrouter : n.isRouter = true := Node.isRouter_eq_true_iff.2 ⟨choose, hcall⟩
    rw [← exists_routesOf_iff (isSome_condition h hrouter) n.id]
    by_cases hfinish : n.id = g.finish
    · simp [hrouter, hfinish]
    · simp [hrouter, hfinish]

/-! ### Which graphs a plan is made of -/

/-- A graph of which a plan is made is sound. -/
theorem sound_of_build (h : g.build policy = .ok p) : g.Sound := by
  obtain ⟨hnodes, hedges, hacyclic, hreach, hsteps, -, -⟩ := build_eq_ok_iff.1 h
  obtain ⟨hnodup, hstart, hfinish⟩ := checkNodes_eq_ok_iff.1 hnodes
  obtain ⟨hends, hcondition⟩ := (checkEdges_eq_ok_iff hnodup).1 hedges
  have hcondition_iff : ∀ e ∈ g.edges, ∀ n ∈ g.nodes, n.id = e.source →
      (e.condition.isSome = true ↔ n.isRouter = true) := fun e he n hn hid => by
    rw [hcondition e he n hn hid]
  have hshape := fun n hn => (exists_actionOf_iff fun e he hid =>
    hcondition_iff e he n hn hid.symm).1 <| by
      obtain ⟨entry, hentry⟩ := exists_mapM_eq_ok_iff.1 ⟨_, hsteps⟩ n hn
      obtain ⟨action, haction, -⟩ := stepOf_eq_ok_iff.1 hentry
      exact ⟨action, haction⟩
  constructor
  case ids_nodup => exact hnodup
  case start_mem => exact hstart
  case finish_mem => exact hfinish
  case ends_mem => exact hends
  case condition_iff => exact hcondition_iff
  case acyclic => exact (checkAcyclic_eq_ok_iff fun e he => (hends e he).1).1 hacyclic
  case reachable => exact (checkReach_eq_ok_iff hfinish).1 hreach
  case finish_ordinary => exact fun n hn hid => ((hshape n hn).1 hid).1
  case finish_last =>
    obtain ⟨n, hn, hid⟩ := exists_of_mem_ids hfinish
    exact hid ▸ ((hshape n hn).1 hid).2
  case ordinary_single => exact fun n hn => (hshape n hn).2.1
  case router_branches => exact fun n hn => (hshape n hn).2.2

/-- A plan is made of every sound graph. -/
theorem exists_build_of_sound (policy : RetryPolicy) (h : g.Sound) :
    ∃ p, g.build policy = .ok p := by
  have hcondition : ∀ e ∈ g.edges, ∀ n ∈ g.nodes, n.id = e.source →
      e.condition.isSome = n.isRouter := fun e he n hn hid =>
    Bool.eq_iff_iff.2 (h.condition_iff e he n hn hid)
  have hactions : ∀ n ∈ g.nodes, ∃ action, g.actionOf n = .ok action := by
    intro n hn
    refine (exists_actionOf_iff fun e he hid => h.condition_iff e he n hn hid.symm).2
      ⟨fun hid => ⟨h.finish_ordinary n hn hid, ?_⟩, h.ordinary_single n hn,
        h.router_branches n hn⟩
    exact hid ▸ h.finish_last
  obtain ⟨steps, hsteps⟩ : ∃ steps, g.nodes.mapM (g.stepOf policy) = .ok steps := by
    refine exists_mapM_eq_ok_iff.2 fun n hn => ?_
    obtain ⟨action, haction⟩ := hactions n hn
    exact ⟨_, stepOf_eq_ok_iff.2 ⟨action, haction, rfl⟩⟩
  refine ⟨⟨steps, g.start, g.finish⟩, build_eq_ok_iff.2 ⟨?_, ?_, ?_, ?_, hsteps, rfl, rfl⟩⟩
  · exact checkNodes_eq_ok_iff.2 ⟨h.ids_nodup, h.start_mem, h.finish_mem⟩
  · exact (checkEdges_eq_ok_iff h.ids_nodup).2 ⟨h.ends_mem, hcondition⟩
  · exact (checkAcyclic_eq_ok_iff fun e he => (h.ends_mem e he).1).2 h.acyclic
  · exact (checkReach_eq_ok_iff h.finish_mem).2 h.reachable

/-- Whatever the policy, a plan is made of a graph exactly if the graph is sound. -/
theorem build_isOk_iff_sound (g : Graph) (policy : RetryPolicy) :
    (∃ p, g.build policy = .ok p) ↔ g.Sound := by
  constructor
  · rintro ⟨p, hp⟩
    exact sound_of_build hp
  · exact exists_build_of_sound policy

end Graph

end Flowgraph
