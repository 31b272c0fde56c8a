/-
  Flowgraph/Proofs/Run/Journey.lean
  =================================
  **Journeys** — the walk of a run along the declared nodes and edges, said of the graph alone,
  without its plan and without the loop.

  A journey begins at the start with the given state (`Graph.Journey`).  An ordinary node
  replaces the state and is left along its edge, a router keeps the state and is left along the
  edge with the condition that it names.  In a sound graph every journey comes to a stop
  (`Sound.exists_stops`): the finish is done, a node fails for good or panics, or a router names a
  condition that none of its edges has (`Graph.Stops`).
-/
import Flowgraph.Proofs.Graph.Built
import Flowgraph.Proofs.Run.Steps

namespace Flowgraph.Graph

/-! ### What the calls at a node come to -/

/-- An ordinary node is called on a state, and the last of the calls comes to `last`.  All calls
    are on the same state, whatever came of those before. -/
def Works (g : Graph) (policy : RetryPolicy) (session : Session) (n : Node) (s : State)
    (calls : Nat) (last : Outcome State) : Prop :=
  n ∈ g.nodes ∧ ∃ run, n.callable = .ordinary run ∧
    (policyOf policy n).Attempts (session.outcomes n.id fun i => run i s) calls last

/-- A router is asked about a state, and the last of the calls comes to `last`. -/
def Asks (g : Graph) (policy : RetryPolicy) (session : Session) (n : Node) (s : State)
    (calls : Nat) (last : Outcome String) : Prop :=
  n ∈ g.nodes ∧ ∃ choose, n.callable = .router choose ∧
    (policyOf policy n).Attempts (session.outcomes n.id fun i => choose i s (g.feeding n.id))
      calls last

/-! ### Journeys and where they stop -/

/-- A run that begins with a session and a state comes along a walk to a node with a state. -/
inductive Journey (g : Graph) (policy : RetryPolicy) (session : Session) (state : State) :
    List Edge → String → State → Prop
  | start : Journey g policy session state [] g.start state
  | work {walk : List Edge} {n : Node} {s s' : State} {k : Nat} {e : Edge} :
      Journey g policy session state walk n.id s → g.Works policy session n s k (.ok s') →
      g.outgoing n.id = [e] → Journey g policy session state (walk ++ [e]) e.target s'
  | branch {walk : List Edge} {n : Node} {s : State} {k : Nat} {condition : String} {e : Edge} :
      Journey g policy session state walk n.id s → g.Asks policy session n s k (.ok condition) →
      e ∈ g.outgoing n.id → e.condition = some condition →
      Journey g policy session state (walk ++ [e]) e.target s

/-- How a journey comes to a stop at the end of a walk. -/
inductive Stops (g : Graph) (policy : RetryPolicy) (session : Session) (state : State) :
    List Edge → Run.Ending → Prop
  | completed {walk : List Edge} {n : Node} {s s' : State} {k : Nat} :
      g.Journey policy session state walk n.id s → g.Works policy session n s k (.ok s') →
      n.id = g.finish →
      Stops g policy session state walk (.completed s' (walk.length + 1))
  | workFailed {walk : List Edge} {n : Node} {s : State} {k : Nat} {error : NodeError} :
      g.Journey policy session state walk n.id s → g.Works policy session n s k (.failed error) →
      Stops g policy session state walk (.failed (.node n.id k error))
  | workPanicked {walk : List Edge} {n : Node} {s : State} {k : Nat} {text : Option String} :
      g.Journey policy session state walk n.id s → g.Works policy session n s k (.panicked text) →
      Stops g policy session state walk (.panicked n.id text)
  | unmatched {walk : List Edge} {n : Node} {s : State} {k : Nat} {condition : String} :
      g.Journey policy session state walk n.id s → g.Asks policy session n s k (.ok condition) →
      (∀ e ∈ g.outgoing n.id, e.condition ≠ some condition) →
      Stops g policy session state walk (.failed (.routing n.id condition))
  | askFailed {walk : List Edge} {n : Node} {s : State} {k : Nat} {error : NodeError} :
      g.Journey policy session state walk n.id s → g.Asks policy session n s k (.failed error) →
      Stops g policy session state walk (.failed (.node n.id k error))
  | askPanicked {walk : List Edge} {n : Node} {s : State} {k : Nat} {text : Option String} :
      g.Journey policy session state walk n.id s → g.Asks policy session n s k (.panicked text) →
      Stops g policy session state walk (.panicked n.id text)

variable {g : Graph} {policy : RetryPolicy} {session : Session} {state : State}

/-- An edge out of the last node makes a walk longer. -/
theorem Walk.snoc_outgoing {a id : String} {walk : List Edge} {e : Edge} (h : g.Walk a walk id)
    (he : e ∈ g.outgoing id) : g.Walk a (walk ++ [e]) e.target := by
  obtain ⟨hedge, rfl⟩ := mem_outgoing.1 he
  exact h.snoc hedge

theorem Journey.walk {walk : List Edge} {id : String} {s : State}
    (h : g.Journey policy session state walk id s) : g.Walk g.start walk id := by
  induction h with
  | start => exact .nil _
  | work _ _ hout ih => exact ih.snoc_outgoing (by simp [hout])
  | branch _ _ he _ ih => exact ih.snoc_outgoing he

/-- A journey has come to each id on its way, each time along the walk so far. -/
theorem Journey.exists_of_visits_eq {walk : List Edge} {id id' : String} {s : State}
    {before after : List String} (h : g.Journey policy session state walk id s)
    (hvisits : visits g.start walk = before ++ id' :: after) :
    ∃ walk' s', g.Journey policy session state walk' id' s' ∧ walk'.map (·.source) = before := by
  have hlast : ∀ {walk : List Edge} {id : String} {s : State},
      g.Journey policy session state walk id s → visits g.start walk = before ++ [id'] →
      ∃ walk' s', g.Journey policy session state walk' id' s' ∧
        walk'.map (·.source) = before := by
    intro walk id s hj hvisits
    rw [hj.walk.visits_eq] at hvisits
    obtain ⟨hbefore, rfl⟩ := List.append_singleton_inj.1 hvisits
    exact ⟨walk, s, hj, hbefore⟩
  have hfront : ∀ {walk : List Edge} {e : Edge} {last : String} {after : List String},
      visits g.start (walk ++ [e]) = before ++ id' :: (after ++ [last]) →
      visits g.start walk = before ++ id' :: after := by
    intro walk e last after hvisits
    rw [visits, List.map_append, List.map_singleton, ← List.cons_append, ← List.cons_append,
      ← List.append_assoc] at hvisits
    exact (List.append_singleton_inj.1 hvisits).1
  induction h generalizing after with
  | start =>
    have hafter : after = [] := by
      cases before with
      | nil => exact (List.cons.inj hvisits).2.symm
      | cons => simp [visits] at hvisits
    subst hafter
    exact hlast .start hvisits
  | work hj hworks hout ih =>
    rcases List.eq_nil_or_concat' after with rfl | ⟨after, last, rfl⟩
    · exact hlast (.work hj hworks hout) hvisits
    · exact ih (hfront hvisits)
  | branch hj hasks he hcondition ih =>
    rcases List.eq_nil_or_concat' after with rfl | ⟨after, last, rfl⟩
    · exact hlast (.branch hj hasks he hcondition) hvisits
    · exact ih (hfront hvisits)

theorem Stops.exists_journey {walk : List Edge} {ending : Run.Ending}
    (h : g.Stops policy session state walk ending) :
    ∃ id s, g.Journey policy session state walk id s := by
  cases h with
  | completed hj => exact ⟨_, _, hj⟩
  | workFailed hj => exact ⟨_, _, hj⟩
  | workPanicked hj => exact ⟨_, _, hj⟩
  | unmatched hj => exact ⟨_, _, hj⟩
  | askFailed hj => exact ⟨_, _, hj⟩
  | askPanicked hj => exact ⟨_, _, hj⟩

/-! ### Every journey stops -/

namespace Sound

/-- Where a journey has come it stops, or it goes on along an edge. -/
theorem stops_or_goes_on (hg : g.Sound) {walk : List Edge} {id : String} {s : State}
    (h : g.Journey policy session state walk id s) (hid : id ∈ g.ids) :
    (∃ ending, g.Stops policy session state walk ending) ∨
      ∃ e s', g.Journey policy session state (walk ++ [e]) e.target s' := by
  obtain ⟨n, hn, rfl⟩ := exists_of_mem_ids hid
  cases hcall : n.callable with
  | ordinary run =>
    obtain ⟨k, last, hlast⟩ :=
      (policyOf policy n).exists_attempts (session.outcomes n.id fun i => run i s)
    have hworks : g.Works policy session n s k last := ⟨hn, run, hcall, hlast⟩
    cases last with
    | ok s' =>
      by_cases hfinish : n.id = g.finish
      · exact .inl ⟨_, .completed h hworks hfinish⟩
      · have hordinary : n.isRouter = false := Node.isRouter_eq_false_iff.2 ⟨run, hcall⟩
        obtain ⟨e, he⟩ := List.length_eq_one_iff.1 (hg.ordinary_single n hn hordinary hfinish)
        exact .inr ⟨e, s', .work h hworks he⟩
    | failed error => exact .inl ⟨_, .workFailed h hworks⟩
    | panicked text => exact .inl ⟨_, .workPanicked h hworks⟩
  | router choose =>
    obtain ⟨k, last, hlast⟩ :=
      (policyOf policy n).exists_attempts (session.outcomes n.id fun i => choose i s (g.feeding n.id))
    have hasks : g.Asks policy session n s k last := ⟨hn, choose, hcall, hlast⟩
    cases last with
    | ok condition =>
      by_cases hroute : ∃ e ∈ g.outgoing n.id, e.condition = some condition
      · obtain ⟨e, he, hcondition⟩ := hroute
        exact .inr ⟨e, s, .branch h hasks he hcondition⟩
      · refine .inl ⟨_, .unmatched h hasks fun e he hcondition => ?_⟩
        exact hroute ⟨e, he, hcondition⟩
    | failed error => exact .inl ⟨_, .askFailed h hasks⟩
    | panicked text => exact .inl ⟨_, .askPanicked h hasks⟩

/-- A journey leads along a walk of fewer edges than there are nodes, to a declared node. -/
theorem journey_length_lt (hg : g.Sound) {walk : List Edge} {id : String} {s : State}
    (h : g.Journey policy session state walk id s) :
    walk.length < g.nodes.length ∧ id ∈ g.ids :=
  ⟨hg.length_lt h.walk hg.start_mem, hg.end_mem h.walk hg.start_mem⟩

/-- Every journey comes to a stop: it gets longer with every step, and cannot be longer than
    there are nodes. -/
theorem exists_stops (hg : g.Sound) (policy : RetryPolicy) (session : Session) (state : State) :
    ∃ walk ending, g.Stops policy session state walk ending := by
  have hstops : ∀ left walk id s, g.nodes.length = walk.length + left →
      g.Journey policy session state walk id s →
      ∃ walk ending, g.Stops policy session state walk ending := by
    intro left
    induction left with
    | zero =>
      intro walk id s hleft h
      have := (hg.journey_length_lt h).1
      omega
    | succ left ih =>
      intro walk id s hleft h
      rcases hg.stops_or_goes_on h (hg.journey_length_lt h).2 with hstop | ⟨e, s', hnext⟩
      · exact ⟨walk, hstop⟩
      · refine ih (walk ++ [e]) e.target s' ?_ hnext
        rw [List.length_append, List.length_singleton]
        omega
  exact hstops _ [] g.start state (Nat.zero_add _).symm .start

end Sound

end Flowgraph.Graph
