/-
  Flowgraph/Proofs/Run/Represents.lean
  ====================================
  **Plans lose nothing** — whatever a graph declares can be read off its plan: its nodes with
  their labels, policies and callables, and its edges in their order, as successors, as routes,
  and as the nodes that lead to a router (`represents_of_build`).

  The order of the edges is kept in two ways.  The table of a router has a route to each edge,
  and in the list of the nodes that lead to it a node stands where its first edge does
  (`firsts_eraseDups`).
-/
import Flowgraph.Proofs.Firsts
import Flowgraph.Proofs.Run.Events

namespace Flowgraph

/-! ### What a plan has of a graph -/

/-- What a step calls. -/
def Action.callable : Action → Callable
  | work run _ => .ordinary run
  | branch choose _ _ => .router choose

theorem Action.isSome_routes? (action : Action) :
    action.routes?.isSome = action.callable.isRouter := by
  cases action <;> rfl

/-- A run does the step of a node, and right after it that of another. -/
def Run.GoesOn (r : Run) (id next : String) : Prop :=
  ∃ before after, r.entered = before ++ id :: next :: after

namespace Graph

/-- A plan has all that a graph declares, under a policy for the nodes without their own. -/
structure Represents (g : Graph) (policy : RetryPolicy) (p : Plan) : Prop where
  start_eq : p.start = g.start
  finish_eq : p.finish = g.finish
  contains_iff : ∀ id, p.contains id = true ↔ id ∈ g.ids
  label?_eq : ∀ n ∈ g.nodes, p.label? n.id = some n.label
  isRouter_eq : ∀ n ∈ g.nodes, p.isRouter n.id = n.isRouter
  callable_eq : ∀ n ∈ g.nodes, (p.step? n.id).map (·.action.callable) = some n.callable
  policy_own : ∀ n ∈ g.nodes, ∀ own, n.policy = some own → p.policy? n.id = some own
  policy_given : ∀ n ∈ g.nodes, n.policy = none → p.policy? n.id = some policy
  /-- The targets stand in the order of the edges, for a router as for any other node. -/
  successors_eq : ∀ id, p.successors id = (g.outgoing id).map (·.target)
  routes : ∀ n ∈ g.nodes, n.isRouter = true → ∃ table, p.routes? n.id = some table ∧
    (∀ condition target,
      table.get? condition = some target ↔ ⟨n.id, target, some condition⟩ ∈ g.edges) ∧
    table.conditions.map some = (g.outgoing n.id).map (·.condition)
  incoming : ∀ n ∈ g.nodes, n.isRouter = true → ∃ fed, p.incoming? n.id = some fed ∧
    Firsts ((g.edges.filter (·.target = n.id)).map (·.source)) fed
  /-- Only routers have routes, and nodes that lead to them. -/
  ordinary : ∀ n ∈ g.nodes, n.isRouter = false → p.routes? n.id = none ∧ p.incoming? n.id = none
  unknown : ∀ id, id ∉ g.ids → p.step? id = none
  /-- What a run comes to a router from is one of the nodes that lead to it. -/
  invoke_goesOn : ∀ session state id, ∀ n ∈ g.nodes, n.isRouter = true →
    (p.invoke session state).GoesOn id n.id → ∃ fed, p.incoming? n.id = some fed ∧ id ∈ fed
  stream_goesOn : ∀ modes session state id, ∀ n ∈ g.nodes, n.isRouter = true →
    (p.stream modes session state).GoesOn id n.id → ∃ fed, p.incoming? n.id = some fed ∧ id ∈ fed

variable {g : Graph} {policy : RetryPolicy} {p : Plan}

/-! ### Steps -/

theorem callable_of_actionOf {n : Node} {action : Action} (h : g.actionOf n = .ok action) :
    action.callable = n.callable := by
  obtain ⟨run, hcall, -, -, rfl⟩ | ⟨run, e, hcall, -, -, rfl⟩ |
    ⟨choose, routes, hcall, -, -, -, rfl⟩ := actionOf_eq_ok_iff.1 h
  · exact hcall.symm
  · exact hcall.symm
  · exact hcall.symm

/-! ### Runs -/

theorem mem_feeding_of_goesOn (h : g.build policy = .ok p) {modes : Modes} {session : Session}
    {state : State} {id next : String} (hgoesOn : (p.loop modes session state).GoesOn id next) :
    id ∈ g.feeding next := by
  obtain ⟨before, after, hentered⟩ := hgoesOn
  obtain ⟨walk, ending, hstops⟩ := (sound_of_build h).exists_stops policy session state
  obtain ⟨last, hwalk⟩ := hstops.walk
  rw [(loop_of_stops h hstops modes).entered_eq] at hentered
  obtain ⟨e, he, rfl, rfl⟩ := hwalk.exists_edge_of_visits_eq hentered
  exact List.mem_eraseDups.2 (List.mem_map.2 ⟨e, List.mem_filter.2 ⟨he, decide_eq_true rfl⟩, rfl⟩)

/-! ### The plan -/

/-- The plan that is made of a graph has all that the graph declares. -/
theorem represents_of_build (h : g.build policy = .ok p) : g.Represents policy p := by
  have hunknown : ∀ id, id ∉ g.ids → p.step? id = none := fun id =>
    (step?_eq_none_iff_of_build h).2
  constructor
  case start_eq => exact start_of_build h
  case finish_eq => exact finish_of_build h
  case contains_iff =>
    intro id
    rw [Plan.contains, ← Option.ne_none_iff_isSome, Ne, step?_eq_none_iff_of_build h, not_not]
  case label?_eq =>
    intro n hn
    obtain ⟨action, -, hstep⟩ := step?_of_build h hn
    rw [Plan.label?, hstep]
    rfl
  case isRouter_eq =>
    intro n hn
    obtain ⟨action, haction, hstep⟩ := step?_of_build h hn
    rw [Plan.isRouter, Plan.routes?, hstep]
    exact action.isSome_routes?.trans (congrArg Callable.isRouter (callable_of_actionOf haction))
  case callable_eq =>
    intro n hn
    obtain ⟨action, haction, hstep⟩ := step?_of_build h hn
    rw [hstep]
    exact congrArg some (callable_of_actionOf haction)
  case policy_own =>
    intro n hn own hown
    obtain ⟨action, -, hstep⟩ := step?_of_build h hn
    rw [Plan.policy?, hstep, policyOf, hown]
    rfl
  case policy_given =>
    intro n hn hnone
    obtain ⟨action, -, hstep⟩ := step?_of_build h hn
    rw [Plan.policy?, hstep, policyOf, hnone]
    rfl
  case successors_eq =>
    intro id
    by_cases hid : id ∈ g.ids
    · obtain ⟨n, hn, rfl⟩ := exists_of_mem_ids hid
      cases hrouter : n.isRouter with
      | true =>
        obtain ⟨choose, routes, -, -, htargets, hstep⟩ := branch_of_build h hn hrouter
        rw [Plan.successors, hstep]
        exact htargets
      | false =>
        obtain ⟨run, next, htargets, hstep⟩ := work_of_build h hn hrouter
        rw [Plan.successors, hstep]
        exact htargets
    · have hout : g.outgoing id = [] := outgoing_eq_nil_iff.2 fun e he hsource =>
        hid (hsource ▸ ((sound_of_build h).ends_mem e he).1)
      rw [Plan.successors, hunknown id hid, hout]
      rfl
  case routes =>
    intro n hn hrouter
    obtain ⟨choose, routes, hrouted, hconditions, -, hstep⟩ := branch_of_build h hn hrouter
    refine ⟨routes, ?_, fun condition target => hrouted.get?_eq_some_iff, hconditions⟩
    rw [Plan.routes?, hstep]
    rfl
  case incoming =>
    exact fun n hn hrouter => ⟨_, incoming?_of_build h hn hrouter, firsts_eraseDups _⟩
  case ordinary =>
    intro n hn hordinary
    obtain ⟨run, next, -, hstep⟩ := work_of_build h hn hordinary
    rw [Plan.routes?, Plan.incoming?, hstep]
    exact ⟨rfl, rfl⟩
  case unknown => exact hunknown
  case invoke_goesOn =>
    rintro session state id n hn hrouter ⟨before, after, hentered⟩
    rw [entered_invoke] at hentered
    exact ⟨_, incoming?_of_build h hn hrouter, mem_feeding_of_goesOn h ⟨before, after, hentered⟩⟩
  case stream_goesOn =>
    rintro modes session state id n hn hrouter ⟨before, after, hentered⟩
    rw [entered_stream] at hentered
    exact ⟨_, incoming?_of_build h hn hrouter, mem_feeding_of_goesOn h ⟨before, after, hentered⟩⟩

/-- Two of three edges lead from a router to another, which has a policy of its own. -/
def doubled : Graph where
  nodes :=
    [{ id := "ask", label := "Ask", callable := .router fun _ _ _ => .ok "skip" },
     { id := "check", label := "Check", callable := .router fun _ _ _ => .ok "fine"
       policy := some .noRetry },
     { id := "done", label := "Done", callable := .ordinary fun _ s => .ok s }]
  edges :=
    [⟨"ask", "check", some "once"⟩, ⟨"ask", "done", some "skip"⟩, ⟨"ask", "check", some "twice"⟩,
     ⟨"check", "done", some "fine"⟩]
  start := "ask"
  finish := "done"

theorem represents_of_build_doubled : ∃ p, doubled.build {} = .ok p ∧
    doubled.Represents {} p ∧ p.successors "ask" = ["check", "done", "check"] ∧
    p.policy? "check" = some .noRetry ∧ p.policy? "done" = some {} ∧
    ∃ fed, p.incoming? "check" = some fed ∧ fed.Nodup ∧ ∀ id, id ∈ fed ↔ id ∈ ["ask", "ask"] := by
  have hany : (doubled.build {}).toOption.any (fun _ => true) = true := by decide +kernel
  obtain ⟨p, hp, -⟩ := exists_eq_ok_of_any hany
  have hall := represents_of_build hp
  have hcheck : doubled.nodes[1] ∈ doubled.nodes := by simp
  have hdone : doubled.nodes[2] ∈ doubled.nodes := by simp
  obtain ⟨fed, hfed, hfirsts⟩ := hall.incoming doubled.nodes[1] hcheck rfl
  exact ⟨p, hp, hall, hall.successors_eq "ask", hall.policy_own _ hcheck _ rfl,
    hall.policy_given _ hdone rfl, fed, hfed, hfirsts.nodup, hfirsts.mem_iff⟩

end Graph

end Flowgraph
