/-
  Flowgraph/Proofs/Run/Course.lean
  ================================
  **What a run completes on its way** — the steps along a journey, each with the state or the
  decision that it gave (`Graph.Course`), and the events that tell of them (`Modes.select`).

  A run completes what is on its way and, if it comes to a good end, the finish
  (`Graph.Completes`).
-/
import Flowgraph.Proofs.Run.Journey

namespace Flowgraph

/-! ### Completed steps and their events -/

/-- A step that a run has completed. -/
inductive Milestone
  /-- An ordinary node, with the state after it. -/
  | worked (node : String) (state : State)
  /-- A router, with what it decided. -/
  | routed (node : String) (decision : Decision)

def Milestone.node : Milestone → String
  | worked node _ | routed node _ => node

/-- All that can be told of a completed step. -/
def Milestone.events : Milestone → List StreamEvent
  | worked node state => [.values state, .updates node state]
  | routed node decision => [.route node decision.condition decision.target]

namespace StreamEvent

def values? : StreamEvent → Option State
  | .values state => some state
  | _ => none

def updates? : StreamEvent → Option (String × State)
  | .updates node state => some (node, state)
  | _ => none

end StreamEvent

namespace Modes

def all : Modes := ⟨true, true, true⟩

/-- Whether a stream carries an event.  Failures are always carried. -/
def admits (modes : Modes) : StreamEvent → Bool
  | .values _ => modes.values
  | .updates .. => modes.updates
  | .route .. => modes.routes
  | .failed .. => true

/-- The events that a stream carries of some completed steps, in order. -/
def select (modes : Modes) (done : List Milestone) : List StreamEvent :=
  (done.flatMap Milestone.events).filter modes.admits

variable {modes : Modes}

theorem select_append (modes : Modes) (done done' : List Milestone) :
    modes.select (done ++ done') = modes.select done ++ modes.select done' := by
  rw [select, List.flatMap_append, List.filter_append]
  rfl

theorem failed_notMem_select (modes : Modes) (done : List Milestone) (node message : String) :
    .failed node message ∉ modes.select done := by
  intro hmem
  obtain ⟨m, -, hevent⟩ := List.mem_flatMap.1 (List.mem_filter.1 hmem).1
  cases m <;> simp [Milestone.events] at hevent

theorem filter_select_all (modes : Modes) (done : List Milestone) :
    (all.select done).filter modes.admits = modes.select done := by
  rw [select, select, List.filter_filter]
  refine List.filter_congr fun event _ => ?_
  cases event <;> simp [admits, all]

theorem select_worked (modes : Modes) (node : String) (state : State) :
    modes.select [.worked node state] = modes.update node state := by
  obtain ⟨values, updates, routes⟩ := modes
  cases values <;> cases updates <;> rfl

theorem select_routed (modes : Modes) (node : String) (decision : Decision) :
    modes.select [.routed node decision] = modes.decision node decision := by
  obtain ⟨values, updates, routes⟩ := modes
  cases routes <;> rfl

/-! ### The last state -/

variable {done : List Milestone} {node : String} {state : State}

/-- The last state that a stream carries is that of the last step. -/
theorem last_values_select (hvalues : modes.values = true) :
    ((modes.select (done ++ [.worked node state])).filterMap StreamEvent.values?).getLast? =
      some state := by
  have hlast : (modes.update node state).filterMap StreamEvent.values? = [state] := by
    obtain ⟨_, updates, routes⟩ := modes
    cases hvalues
    cases updates <;> rfl
  rw [select_append, select_worked, List.filterMap_append, hlast, List.getLast?_concat]

theorem last_updates_select (hupdates : modes.updates = true) :
    ((modes.select (done ++ [.worked node state])).filterMap StreamEvent.updates?).getLast? =
      some (node, state) := by
  have hlast : (modes.update node state).filterMap StreamEvent.updates? = [(node, state)] := by
    obtain ⟨values, _, routes⟩ := modes
    cases hupdates
    cases values <;> rfl
  rw [select_append, select_worked, List.filterMap_append, hlast, List.getLast?_concat]

end Modes

/-- The node that a run is stuck at, unless it ends well. -/
def Run.Ending.stuck? : Run.Ending → Option String
  | .completed .. => none
  | .failed error => some error.nodeId
  | .panicked node _ => some node

theorem Run.Ending.stuck?_eq_none_iff {ending : Run.Ending} :
    ending.stuck? = none ↔ ∃ s steps, ending = .completed s steps := by
  cases ending <;> simp [stuck?]

namespace Graph

/-! ### Courses -/

/-- A run that begins with a session and a state completes some steps along a walk, and comes to
    a node with a state. -/
inductive Course (g : Graph) (policy : RetryPolicy) (session : Session) (state : State) :
    List Milestone → List Edge → String → State → Prop
  | start : Course g policy session state [] [] g.start state
  | work {done : List Milestone} {walk : List Edge} {n : Node} {s s' : State} {k : Nat} {e : Edge} :
      Course g policy session state done walk n.id s → g.Works policy session n s k (.ok s') →
      g.outgoing n.id = [e] →
      Course g policy session state (done ++ [.worked n.id s']) (walk ++ [e]) e.target s'
  | branch {done : List Milestone} {walk : List Edge} {n : Node} {s : State} {k : Nat}
      {condition : String} {e : Edge} :
      Course g policy session state done walk n.id s →
      g.Asks policy session n s k (.ok condition) →
      e ∈ g.outgoing n.id → e.condition = some condition →
      Course g policy session state (done ++ [.routed n.id ⟨condition, e.target⟩]) (walk ++ [e])
        e.target s

variable {g : Graph} {policy : RetryPolicy} {session : Session} {state : State}

theorem Course.journey {done : List Milestone} {walk : List Edge} {id : String} {s : State}
    (h : g.Course policy session state done walk id s) :
    g.Journey policy session state walk id s := by
  induction h with
  | start => exact .start
  | work _ hworks hout ih => exact .work ih hworks hout
  | branch _ hasks he hcondition ih => exact .branch ih hasks he hcondition

/-- The steps are those of the nodes that the walk leaves. -/
theorem Course.nodes_eq {done : List Milestone} {walk : List Edge} {id : String} {s : State}
    (h : g.Course policy session state done walk id s) :
    done.map (·.node) = walk.map (·.source) := by
  induction h with
  | start => rfl
  | work _ _ hout ih =>
    have hsource := (mem_outgoing.1 (hout ▸ List.mem_singleton_self _)).2
    rw [List.map_append, List.map_append, ih, List.map_singleton, List.map_singleton, hsource]
    rfl
  | branch _ _ he _ ih =>
    have hsource := (mem_outgoing.1 he).2
    rw [List.map_append, List.map_append, ih, List.map_singleton, List.map_singleton, hsource]
    rfl

theorem Journey.exists_course {walk : List Edge} {id : String} {s : State}
    (h : g.Journey policy session state walk id s) :
    ∃ done, g.Course policy session state done walk id s := by
  induction h with
  | start => exact ⟨[], .start⟩
  | work _ hworks hout ih =>
    obtain ⟨done, hdone⟩ := ih
    exact ⟨_, .work hdone hworks hout⟩
  | branch _ hasks he hcondition ih =>
    obtain ⟨done, hdone⟩ := ih
    exact ⟨_, .branch hdone hasks he hcondition⟩

/-! ### There is one course along a walk -/

theorem Works.unique (hnodup : g.ids.Nodup) {m n : Node} {s : State} {k k' : Nat}
    {last last' : Outcome State} (h : g.Works policy session m s k last)
    (h' : g.Works policy session n s k' last') (hid : m.id = n.id) : k = k' ∧ last = last' := by
  obtain ⟨hm, run, hcall, hlast⟩ := h
  obtain ⟨hn, run', hcall', hlast'⟩ := h'
  obtain rfl := eq_of_id_eq hnodup hm hn hid
  cases hcall.symm.trans hcall'
  exact hlast.unique hlast'

theorem Works.id_ne_of_asks (hnodup : g.ids.Nodup) {m n : Node} {s s' : State} {k k' : Nat}
    {last : Outcome State} {last' : Outcome String} (h : g.Works policy session m s k last)
    (h' : g.Asks policy session n s' k' last') : m.id ≠ n.id := by
  intro hid
  obtain ⟨hm, run, hcall, -⟩ := h
  obtain ⟨hn, choose, hcall', -⟩ := h'
  obtain rfl := eq_of_id_eq hnodup hm hn hid
  cases hcall.symm.trans hcall'

theorem Course.unique (hnodup : g.ids.Nodup) {done done' : List Milestone} {walk : List Edge}
    {id id' : String} {s s' : State} (h : g.Course policy session state done walk id s)
    (h' : g.Course policy session state done' walk id' s') :
    done = done' ∧ id = id' ∧ s = s' := by
  induction h generalizing done' id' s' with
  | start =>
    generalize hnil : ([] : List Edge) = walk at h'
    cases h' with
    | start => exact ⟨rfl, rfl, rfl⟩
    | work | branch => simp at hnil
  | @work done walk n s _ k e _ hworks _ ih =>
    generalize hlast : walk ++ [e] = walk' at h'
    cases h' with
    | start => simp at hlast
    | work hc' hworks' =>
      obtain ⟨rfl, rfl⟩ := List.append_singleton_inj.1 hlast
      obtain ⟨rfl, hid, rfl⟩ := ih hc'
      obtain ⟨-, heq⟩ := hworks.unique hnodup hworks' hid
      cases heq
      exact ⟨by rw [hid], rfl, rfl⟩
    | branch hc' hasks' =>
      obtain ⟨rfl, rfl⟩ := List.append_singleton_inj.1 hlast
      exact absurd (ih hc').2.1 (hworks.id_ne_of_asks hnodup hasks')
  | @branch done walk n s k condition e _ hasks _ hcondition ih =>
    generalize hlast : walk ++ [e] = walk' at h'
    cases h' with
    | start => simp at hlast
    | work hc' hworks' =>
      obtain ⟨rfl, rfl⟩ := List.append_singleton_inj.1 hlast
      exact absurd (ih hc').2.1.symm (hworks'.id_ne_of_asks hnodup hasks)
    | branch hc' _ _ hcondition' =>
      obtain ⟨rfl, rfl⟩ := List.append_singleton_inj.1 hlast
      obtain ⟨rfl, hid, rfl⟩ := ih hc'
      cases hcondition.symm.trans hcondition'
      exact ⟨by rw [hid], rfl, rfl⟩

/-! ### Whole runs -/

/-- The last step of a run that ends well is that of the finish. -/
def lastMilestone (g : Graph) : Run.Ending → List Milestone
  | .completed s _ => [.worked g.finish s]
  | .failed _ | .panicked .. => []

/-- A run completes some steps and then comes to an end. -/
def Completes (g : Graph) (policy : RetryPolicy) (session : Session) (state : State)
    (done : List Milestone) (ending : Run.Ending) : Prop :=
  ∃ before walk id s, g.Course policy session state before walk id s ∧
    g.Stops policy session state walk ending ∧ done = before ++ g.lastMilestone ending

/-- A run comes to the nodes of its steps, and to the one that it is stuck at. -/
theorem Completes.exists_walk {done : List Milestone} {ending : Run.Ending}
    (h : g.Completes policy session state done ending) :
    ∃ walk, g.Stops policy session state walk ending ∧
      visits g.start walk = done.map (·.node) ++ ending.stuck?.toList := by
  obtain ⟨before, walk, id, s, hc, hstops, rfl⟩ := h
  refine ⟨walk, hstops, ?_⟩
  have hvisits : ∀ {id : String} {s : State}, g.Journey policy session state walk id s →
      visits g.start walk = before.map (·.node) ++ [id] := fun hj => by
    rw [hj.walk.visits_eq, hc.nodes_eq]
  rw [List.map_append, List.append_assoc]
  cases hstops with
  | completed hj _ hid => rw [hvisits hj, hid]; rfl
  | workFailed hj => exact hvisits hj
  | workPanicked hj => exact hvisits hj
  | unmatched hj => exact hvisits hj
  | askFailed hj => exact hvisits hj
  | askPanicked hj => exact hvisits hj

theorem Completes.of_completed {done : List Milestone} {s : State} {steps : Nat}
    (h : g.Completes policy session state done (.completed s steps)) :
    ∃ before, done = before ++ [.worked g.finish s] := by
  obtain ⟨before, -, -, -, -, -, rfl⟩ := h
  exact ⟨before, rfl⟩

end Graph

end Flowgraph
