/-
  Flowgraph/Proofs/Builtin/Calls.lean
  ===================================
  **Calls of built-in nodes** — in the graph of a definition with the built-in kinds, what the
  calls of an ordinary node and of a router come to on the journey of a run, and so where the
  journey stops: at the finish or at a router (`ending_of_stops`).

  A router fails with a message of its own.  A policy that does not retry such failures retries
  nothing (`retryOn_of_fails`).  No node tells one call from another, so runs at the same time do
  not disturb each other (`endings_invokeAll_of_compile`).
-/
import Flowgraph.Proofs.Builtin.Kinds
import Flowgraph.Proofs.Definition.Compiled
import Flowgraph.Proofs.Run.Represents
import Flowgraph.Proofs.Run.Retries
import Flowgraph.Proofs.Run.Turns

namespace Flowgraph.Builtin

variable {d : Definition} {policy : RetryPolicy} {g : Graph} {session : Session} {s : State}
variable {node : Node} {k : Nat}

theorem isRouter_iff_of_graph (hg : d.graph registry policy = .ok g) {n : NodeSpec}
    (hn : n ∈ d.nodes) :
    ∃ node ∈ g.nodes, node.id = n.id ∧ (node.isRouter = true ↔ n.kind ∈ routerKinds) := by
  obtain ⟨callable, hcreate, hmem⟩ := Definition.exists_node_of_graph hg hn
  exact ⟨_, hmem, rfl, isRouter_of_create hcreate⟩

/-- An ordinary node may store its output, and records it. -/
theorem works_of_graph (hg : d.graph registry policy = .ok g) {last : Outcome State}
    (hworks : g.Works policy session node s k last) :
    ∃ n ∈ d.nodes, n.id = node.id ∧ n.kind ∉ routerKinds ∧
      ∃ output, last = .ok (SetValue.run ⟨output, storeKey? n⟩ n.id s) := by
  obtain ⟨hnode, run, hcall, hattempts⟩ := hworks
  obtain ⟨n, hn, callable, hcreate, rfl⟩ := Definition.exists_spec_of_graph hg hnode
  obtain rfl : callable = .ordinary run := hcall
  have hkind : n.kind ∉ routerKinds := by
    intro hkind
    cases (isRouter_of_create hcreate).2 hkind
  obtain ⟨f, hf, houtput⟩ := ordinary_of_create hcreate hkind
  cases hf
  obtain ⟨output, heq⟩ := houtput s
  refine ⟨n, hn, rfl, hkind, output, ?_⟩
  rw [← heq]
  exact hattempts.last_eq.symm

/-- A router names a condition, or fails with a message. -/
theorem asks_of_graph (hg : d.graph registry policy = .ok g) {last : Outcome String}
    (hasks : g.Asks policy session node s k last) :
    ∃ n ∈ d.nodes, n.id = node.id ∧ n.kind ∈ routerKinds ∧
      ((∃ condition, last = .ok condition) ∨
        ∃ message, last = .failed (.executionFailed message)) := by
  obtain ⟨hnode, choose, hcall, hattempts⟩ := hasks
  obtain ⟨n, hn, callable, hcreate, rfl⟩ := Definition.exists_spec_of_graph hg hnode
  obtain rfl : callable = .router choose := hcall
  have hkind := (isRouter_of_create hcreate).1 rfl
  obtain ⟨f, hf⟩ := router_of_create hcreate hkind
  cases hf
  refine ⟨n, hn, rfl, hkind, ?_⟩
  rw [← hattempts.last_eq, Session.outcomes]
  dsimp only [NodeSpec.toNode]
  cases f s (g.feeding n.id) with
  | ok condition => exact .inl ⟨condition, rfl⟩
  | error message => exact .inr ⟨message, rfl⟩

/-! ### No call is repeated -/

/-- A router is asked once if the policy does not retry failures of the router itself. -/
theorem calls_of_asks (hg : d.graph registry policy = .ok g)
    (hpolicy : ∀ message, policy.retryOn (.executionFailed message) = false)
    {last : Outcome String} (hasks : g.Asks policy session node s k last) : k = 1 := by
  obtain ⟨hnode, choose, hcall, hattempts⟩ := hasks
  refine hattempts.calls_eq_one fun error hfailed => ?_
  rw [Definition.retryOn_of_graph hg hnode]
  obtain ⟨n, -, callable, hcreate, rfl⟩ := Definition.exists_spec_of_graph hg hnode
  obtain rfl : callable = .router choose := hcall
  obtain ⟨message, rfl⟩ := executionFailed_of_create hcreate hfailed
  exact hpolicy message

theorem executionFailed_of_fails {n : NodeSpec} {action : Action} {error : NodeError}
    (h : registry.create n = .ok action.callable) (hfails : action.Fails s error) :
    ∃ message, error = .executionFailed message := by
  cases action with
  | work run next =>
    obtain ⟨i, hfailed⟩ := hfails
    obtain ⟨s', hok⟩ := ok_of_create h i s
    cases hok.symm.trans hfailed
  | branch choose routes incoming =>
    obtain ⟨i, hfailed⟩ := hfails
    exact executionFailed_of_create h hfailed

/-- A step of the plan calls what a node of the definition was made to be, and retries what the
    policy does. -/
theorem exists_create_of_step? (hg : d.graph registry policy = .ok g) {p : Plan}
    (hbuild : g.build policy = .ok p) {id : String} {step : Step} (hstep : p.step? id = some step) :
    ∃ n ∈ d.nodes, registry.create n = .ok step.action.callable ∧
      step.policy.retryOn = policy.retryOn := by
  have hid : id ∈ g.ids := by
    by_contra hid
    rw [(Graph.step?_eq_none_iff_of_build hbuild).2 hid] at hstep
    cases hstep
  obtain ⟨node, hnode, rfl⟩ := Graph.exists_of_mem_ids hid
  obtain ⟨action, haction, hstep'⟩ := Graph.step?_of_build hbuild hnode
  cases hstep.symm.trans hstep'
  have hretry := Definition.retryOn_of_graph hg hnode
  obtain ⟨n, hn, callable, hcreate, rfl⟩ := Definition.exists_spec_of_graph hg hnode
  have hcallable : action.callable = callable := Graph.callable_of_actionOf haction
  exact ⟨n, hn, hcallable ▸ hcreate, hretry⟩

/-- Nor does it retry any error that a step of the plan can fail with. -/
theorem retryOn_of_fails (hg : d.graph registry policy = .ok g) {p : Plan}
    (hbuild : g.build policy = .ok p)
    (hpolicy : ∀ message, policy.retryOn (.executionFailed message) = false) {id : String}
    {step : Step} (hstep : p.step? id = some step) {error : NodeError}
    (hfails : step.action.Fails s error) : step.policy.retryOn error = false := by
  obtain ⟨n, -, hcreate, hretry⟩ := exists_create_of_step? hg hbuild hstep
  obtain ⟨message, rfl⟩ := executionFailed_of_fails hcreate hfails
  exact (congrFun hretry _).trans (hpolicy message)

/-! ### Runs at the same time -/

theorem isSteady_of_create {n : NodeSpec} {action : Action}
    (h : registry.create n = .ok action.callable) : action.IsSteady := by
  by_cases hkind : n.kind ∈ routerKinds
  · obtain ⟨f, hf⟩ := router_of_create h hkind
    cases action with
    | work run next => cases hf
    | branch choose routes incoming =>
      cases hf
      intro i s incoming
      rfl
  · obtain ⟨f, hf, -⟩ := ordinary_of_create h hkind
    cases action with
    | work run next =>
      cases hf
      intro i s
      rfl
    | branch choose routes incoming => cases hf

theorem isSteady_of_compile {p : Plan} (h : (d.compile registry policy).2 = .ok p) :
    p.IsSteady := by
  obtain ⟨g, hg, hbuild⟩ := Definition.compile_eq_ok_iff.1 h
  intro id step hstep
  obtain ⟨n, -, hcreate, -⟩ := exists_create_of_step? hg hbuild hstep
  exact isSteady_of_create hcreate

/-- Runs of a definition at the same time end as each of them does when it is invoked. -/
theorem endings_invokeAll_of_compile {p : Plan} (h : (d.compile registry policy).2 = .ok p)
    (session session' : Session) (states : List State) :
    (p.invokeAll session states).endings =
      states.map fun state => (p.invoke session' state).ending :=
  Plan.endings_invokeAll (isSteady_of_compile h) session session' states

/-! ### Where runs end -/

/-- An end that a run comes to at a router of the definition. -/
def FailsAtRouter (d : Definition) (ending : Run.Ending) : Prop :=
  ∃ n ∈ d.nodes, n.kind ∈ routerKinds ∧
    ((∃ condition, ending = .failed (.routing n.id condition)) ∨
      ∃ message, ending = .failed (.node n.id 1 (.executionFailed message)))

theorem ending_of_stops (hg : d.graph registry policy = .ok g)
    (hpolicy : ∀ message, policy.retryOn (.executionFailed message) = false) {state : State}
    {walk : List Edge} {ending : Run.Ending}
    (hstops : g.Stops policy session state walk ending) :
    (∃ s steps, ending = .completed s steps) ∨ FailsAtRouter d ending := by
  cases hstops with
  | completed => exact .inl ⟨_, _, rfl⟩
  | workFailed _ hworks =>
    obtain ⟨n, -, -, -, output, heq⟩ := works_of_graph hg hworks
    cases heq
  | workPanicked _ hworks =>
    obtain ⟨n, -, -, -, output, heq⟩ := works_of_graph hg hworks
    cases heq
  | unmatched _ hasks =>
    obtain ⟨n, hn, hid, hkind, -⟩ := asks_of_graph hg hasks
    exact .inr ⟨n, hn, hkind, .inl ⟨_, by rw [hid]⟩⟩
  | askFailed _ hasks =>
    obtain ⟨n, hn, hid, hkind, ⟨condition, heq⟩ | ⟨message, heq⟩⟩ := asks_of_graph hg hasks
    · cases heq
    · cases heq
      obtain rfl := calls_of_asks hg hpolicy hasks
      exact .inr ⟨n, hn, hkind, .inr ⟨message, by rw [hid]⟩⟩
  | askPanicked _ hasks =>
    obtain ⟨n, -, -, -, ⟨condition, heq⟩ | ⟨message, heq⟩⟩ := asks_of_graph hg hasks
    · cases heq
    · cases heq

end Flowgraph.Builtin
