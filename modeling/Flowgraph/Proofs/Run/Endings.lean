/-
  Flowgraph/Proofs/Run/Endings.lean
  =================================
  **What runs of built plans come to** — whatever the nodes and the routers do, a run of the plan
  of a graph keeps within bounds (`loop_bounds`), it goes along the journey that the graph
  describes and ends as that does (`invoke_iff_stops`), and it comes to the finish unless a call
  of a node fails for good or panics, or a router names a condition it has no route for
  (`leads_to_finish_of_build`).
-/
import Flowgraph.Proofs.Graph.Finish
import Flowgraph.Proofs.Run.Along

namespace Flowgraph.Graph

variable {g : Graph} {policy : RetryPolicy} {p : Plan}

/-- A router that takes the way past `work` on every call but the first. -/
def forked : Graph where
  nodes :=
    [{ id := "ask", label := "Ask"
       callable := .router fun n _ _ => .ok (if n = 0 then "yes" else "no") },
     { id := "work", label := "Work", callable := .ordinary fun _ s => .ok s },
     { id := "done", label := "Done", callable := .ordinary fun _ s => .ok s }]
  edges := [⟨"ask", "work", some "yes"⟩, ⟨"ask", "done", some "no"⟩, ⟨"work", "done", none⟩]
  start := "ask"
  finish := "done"

theorem exists_build_forked : ∃ p, forked.build {} = .ok p := by
  have hany : (forked.build {}).toOption.any (fun _ => true) = true := by decide +kernel
  obtain ⟨p, hp, -⟩ := exists_eq_ok_of_any hany
  exact ⟨p, hp⟩

/-! ### Bounds -/

/-- A run that never loses its way, comes to no node twice, and calls no node more often than the
    policy of the node allows. -/
structure Bounds (g : Graph) (policy : RetryPolicy) (session : Session) (r : Run) : Prop where
  no_step_limit : ∀ id limit, r.ending ≠ .failed (.stepLimit id limit)
  no_unknown_node : ∀ id, r.ending ≠ .failed (.unknownNode id)
  no_other_router : ∀ id, r.ending ≠ .failed (.notARouter id)
  entered_nodup : r.entered.Nodup
  entered_mem : ∀ id ∈ r.entered, id ∈ g.ids
  calls_le : ∀ n ∈ g.nodes,
    r.session.calls n.id ≤ session.calls n.id + (policyOf policy n).budget
  calls_kept : ∀ id, id ∉ r.entered → r.session.calls id = session.calls id

/-- Where a journey stops, it is at a node or a router that did not go on. -/
theorem Stops.failed {session : Session} {state : State} {walk : List Edge} {error : RunError}
    (h : g.Stops policy session state walk (.failed error)) :
    (∃ id k cause, error = .node id k cause) ∨ ∃ id condition, error = .routing id condition := by
  cases h with
  | workFailed => exact .inl ⟨_, _, _, rfl⟩
  | unmatched => exact .inr ⟨_, _, rfl⟩
  | askFailed => exact .inl ⟨_, _, _, rfl⟩

theorem Stops.walk {session : Session} {state : State} {walk : List Edge} {ending : Run.Ending}
    (h : g.Stops policy session state walk ending) : ∃ id, g.Walk g.start walk id := by
  obtain ⟨id, s, hj⟩ := h.exists_journey
  exact ⟨id, hj.walk⟩

/-- A run of the plan of a graph keeps within bounds. -/
theorem loop_bounds (h : g.build policy = .ok p) (modes : Modes) (session : Session)
    (state : State) : g.Bounds policy session (p.loop modes session state) := by
  have hg := sound_of_build h
  obtain ⟨walk, ending, hstops⟩ := hg.exists_stops policy session state
  obtain ⟨hentered, hending, hspent⟩ := loop_of_stops h hstops modes
  obtain ⟨id, hwalk⟩ := hstops.walk
  have hfailed : ∀ error, (p.loop modes session state).ending = .failed error →
      (∃ id k cause, error = .node id k cause) ∨
        ∃ id condition, error = .routing id condition := by
    intro error herror
    rw [← hending, herror] at hstops
    exact hstops.failed
  constructor
  case no_step_limit =>
    intro id limit herror
    rcases hfailed _ herror with ⟨_, _, _, heq⟩ | ⟨_, _, heq⟩ <;> cases heq
  case no_unknown_node =>
    intro id herror
    rcases hfailed _ herror with ⟨_, _, _, heq⟩ | ⟨_, _, heq⟩ <;> cases heq
  case no_other_router =>
    intro id herror
    rcases hfailed _ herror with ⟨_, _, _, heq⟩ | ⟨_, _, heq⟩ <;> cases heq
  case entered_nodup => exact hentered ▸ Acyclic.visits_nodup hg.acyclic hwalk
  case entered_mem =>
    intro id hid
    rw [hentered] at hid
    exact hwalk.visits_subset hg.start_mem (fun e he => (hg.ends_mem e he).2) hid
  case calls_le => exact hspent.le_budget
  case calls_kept => exact hentered ▸ hspent.kept

theorem loop_bounds_forked : ∃ p, forked.build {} = .ok p ∧
    forked.Bounds {} .fresh (p.loop {} .fresh .empty) := by
  obtain ⟨p, hp⟩ := exists_build_forked
  exact ⟨p, hp, loop_bounds hp {} .fresh .empty⟩

/-! ### The journey -/

theorem entered_invoke (p : Plan) (session : Session) (state : State) :
    (p.invoke session state).entered = (p.loop {} session state).entered := by
  have hclosing : ∀ ending, (Plan.closingLog ending).filterMap LogEvent.enters? = [] := by
    intro ending
    cases ending <;> rfl
  simp only [Plan.invoke, Run.entered, List.filterMap_cons, List.filterMap_append, hclosing,
    List.append_nil, LogEvent.enters?]

/-- A run enters the nodes that the journey of the graph comes to, and ends as the journey
    stops. -/
theorem invoke_iff_stops (h : g.build policy = .ok p) (session : Session) (state : State)
    (ids : List String) (ending : Run.Ending) :
    ((p.invoke session state).entered = ids ∧ (p.invoke session state).ending = ending) ↔
      ∃ walk, g.Stops policy session state walk ending ∧ visits g.start walk = ids := by
  rw [entered_invoke]
  change (_ ∧ (p.loop {} session state).ending = ending) ↔ _
  constructor
  · rintro ⟨rfl, rfl⟩
    obtain ⟨walk, ending, hstops⟩ := (sound_of_build h).exists_stops policy session state
    obtain ⟨hentered, hending, -⟩ := loop_of_stops h hstops {}
    rw [hending]
    exact ⟨walk, hstops, hentered.symm⟩
  · rintro ⟨walk, hstops, rfl⟩
    obtain ⟨hentered, hending, -⟩ := loop_of_stops h hstops {}
    exact ⟨hentered, hending⟩

theorem invoke_iff_stops_forked : ∃ p, forked.build {} = .ok p ∧
    (p.invoke .fresh .empty).entered = ["ask", "work", "done"] ∧
    (p.invoke .fresh .empty).ending = .completed .empty 3 := by
  obtain ⟨p, hp⟩ := exists_build_forked
  have hasks : forked.Asks {} .fresh forked.nodes[0] .empty 1 (.ok "yes") :=
    ⟨by simp, _, rfl, by decide, by decide, rfl, by omega, by intro error herror; cases herror⟩
  have hworks : ∀ n ∈ forked.nodes, n.callable = .ordinary (fun _ s => .ok s) → n.policy = none →
      forked.Works {} .fresh n .empty 1 (.ok .empty) := by
    intro n hn hcall hpolicy
    refine ⟨hn, _, hcall, by decide, ?_, rfl, by omega, by intro error herror; cases herror⟩
    rw [policyOf, hpolicy]
    decide
  have hwork : forked.Works {} .fresh forked.nodes[1] .empty 1 (.ok .empty) :=
    hworks _ (by simp) rfl rfl
  have hdone : forked.Works {} .fresh forked.nodes[2] .empty 1 (.ok .empty) :=
    hworks _ (by simp) rfl rfl
  have hask : forked.Journey {} .fresh .empty [forked.edges[0]] "work" .empty :=
    .branch .start hasks (by decide) rfl
  have hall : forked.Journey {} .fresh .empty [forked.edges[0], forked.edges[2]] "done" .empty :=
    .work hask hwork (by decide)
  exact ⟨p, hp, (invoke_iff_stops hp .fresh .empty ["ask", "work", "done"] (.completed .empty 3)).2
    ⟨[forked.edges[0], forked.edges[2]], .completed hall hdone rfl, rfl⟩⟩

/-! ### The finish -/

/-- In the plan of a graph all walks lead to the finish.  A run of it is never stranded: it does
    the finish last, or is ended by a call of a node or by a router that names a condition
    outside its table. -/
theorem leads_to_finish_of_build (h : g.build policy = .ok p) :
    g.LeadsToFinish ∧ ∀ modes session state,
      ((∃ s steps, (p.loop modes session state).ending = .completed s steps) ∧
        (p.loop modes session state).entered.getLast? = some g.finish) ∨
      (∃ id k cause, (p.loop modes session state).ending = .failed (.node id k cause)) ∨
      (∃ id text, (p.loop modes session state).ending = .panicked id text) ∨
      ∃ id condition routes, (p.loop modes session state).ending =
        .failed (.routing id condition) ∧ p.routes? id = some routes ∧
        routes.get? condition = none := by
  refine ⟨(sound_of_build h).leadsToFinish, fun modes session state => ?_⟩
  obtain ⟨walk, ending, hstops⟩ := (sound_of_build h).exists_stops policy session state
  obtain ⟨hentered, hending, -⟩ := loop_of_stops h hstops modes
  rw [hending, hentered]
  cases hstops with
  | completed hj _ hid =>
    refine .inl ⟨⟨_, _, rfl⟩, ?_⟩
    rw [hj.walk.visits_eq, List.getLast?_concat, hid]
  | workFailed => exact .inr (.inl ⟨_, _, _, rfl⟩)
  | workPanicked => exact .inr (.inr (.inl ⟨_, _, rfl⟩))
  | askFailed => exact .inr (.inl ⟨_, _, _, rfl⟩)
  | askPanicked => exact .inr (.inr (.inl ⟨_, _, rfl⟩))
  | @unmatched n s k condition _ hasks hnone =>
    obtain ⟨hn, choose, hcall, -⟩ := hasks
    obtain ⟨routes, hroutes, hrouted⟩ :=
      routes?_of_build h hn (Node.isRouter_eq_true_iff.2 ⟨choose, hcall⟩)
    exact .inr (.inr (.inr ⟨n.id, condition, routes, rfl, hroutes,
      hrouted.get?_eq_none_iff.2 hnone⟩))

theorem leads_to_finish_of_build_forked : ∃ p, forked.build {} = .ok p ∧
    (∃ more, forked.Walk "work" more "done") ∧
    ∀ walk id, forked.Walk "ask" walk id → walk.length < 3 := by
  obtain ⟨p, hp⟩ := exists_build_forked
  have hfinish := (leads_to_finish_of_build hp).1
  exact ⟨p, hp, hfinish.reaches "work" (by decide), hfinish.length_lt "ask" (by decide)⟩

end Flowgraph.Graph
