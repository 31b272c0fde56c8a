/-
  Flowgraph/Proofs/Run/Along.lean
  ===============================
  **The loop goes along the journey** — wherever a journey of a graph has come, the loop of its
  plan comes there too and tells of the steps on the way (`comes_of_course`), and where the
  journey stops, the loop ends in the same way (`tells_of_stops`).

  What carries the induction is that the loop never comes back to a node: so it has steps left,
  and the calls of the node it comes to are still to be counted from where the run began.
-/
import Flowgraph.Proofs.Run.Course

namespace Flowgraph.Graph

variable {g : Graph} {policy : RetryPolicy} {p : Plan} {modes : Modes}
variable {session session' : Session} {state s : State} {walk : List Edge} {n : Node} {k : Nat}
variable {done : List Milestone}

/-! ### Counting calls -/

/-- Between two sessions only the given nodes were called, and no node more often than its policy
    allows. -/
structure Spent (g : Graph) (policy : RetryPolicy) (session session' : Session)
    (ids : List String) : Prop where
  kept : ∀ id, id ∉ ids → session'.calls id = session.calls id
  le_budget : ∀ n ∈ g.nodes,
    session'.calls n.id ≤ session.calls n.id + (policyOf policy n).budget

theorem Spent.refl : g.Spent policy session session [] :=
  ⟨fun _ _ => rfl, fun _ _ => Nat.le_add_right _ _⟩

/-- A node that was not called yet may be called as often as its policy allows. -/
theorem Spent.addCalls {ids : List String} (h : g.Spent policy session session' ids)
    (hnodup : g.ids.Nodup) (hn : n ∈ g.nodes) (hnew : n.id ∉ ids)
    (hk : k ≤ (policyOf policy n).budget) :
    g.Spent policy session (session'.addCalls n.id k) (ids ++ [n.id]) := by
  constructor
  · intro id hid
    rw [List.mem_append, List.mem_singleton, not_or] at hid
    rw [Session.calls_addCalls, if_neg hid.2]
    exact h.kept id hid.1
  · intro m hm
    rw [Session.calls_addCalls]
    by_cases hid : m.id = n.id
    · have hmn : m = n := eq_of_id_eq hnodup hm hn hid
      subst hmn
      have hkept := h.kept m.id hnew
      rw [if_pos rfl]
      omega
    · rw [if_neg hid]
      exact h.le_budget m hm

/-! ### The steps of the plan -/

/-- The plan calls an ordinary node as the graph says, and goes on along its only edge. -/
theorem perform_of_works (h : g.build policy = .ok p) {last : Outcome State}
    (hworks : g.Works policy session n s k last)
    (hcalls : session'.calls n.id = session.calls n.id) (modes : Modes) :
    ∃ step next, p.step? n.id = some step ∧
      (step.perform modes session' n.id s).2 = (session'.addCalls n.id k,
        (last.result n.id k).map fun s' => ⟨modes.update n.id s', s', next⟩) ∧
      (n.id = g.finish → p.goesOn n.id next = none) ∧
      ∀ e, g.outgoing n.id = [e] → p.goesOn n.id next = some e.target := by
  obtain ⟨hn, run, hcall, hlast⟩ := hworks
  rw [← Session.outcomes_congr hcalls] at hlast
  have hfinish := finish_of_build h
  obtain ⟨run', hcall', hid, hstep⟩ | ⟨run', e, hcall', hid, hout, hstep⟩ |
    ⟨choose, routes, hcall', -⟩ := action_of_build h hn
  · cases hcall.symm.trans hcall'
    refine ⟨_, none, hstep, Step.perform_work rfl hlast, fun _ => ?_, fun e he => ?_⟩
    · simp [Plan.goesOn]
    · have hmem : e ∈ g.outgoing n.id := by simp [he]
      obtain ⟨hedge, hsource⟩ := mem_outgoing.1 hmem
      exact absurd (hsource.trans hid) ((sound_of_build h).finish_last e hedge)
  · cases hcall.symm.trans hcall'
    refine ⟨_, some e.target, hstep, Step.perform_work rfl hlast, fun hid' => absurd hid' hid,
      fun e' he' => ?_⟩
    cases hout.symm.trans he'
    simp [Plan.goesOn, hfinish, hid]
  · cases hcall.symm.trans hcall'

/-- The plan asks a router as the graph says, and its routes are those of the edges. -/
theorem perform_of_asks (h : g.build policy = .ok p) {last : Outcome String}
    (hasks : g.Asks policy session n s k last)
    (hcalls : session'.calls n.id = session.calls n.id) (modes : Modes) :
    ∃ step routes, p.step? n.id = some step ∧
      (step.perform modes session' n.id s).2 = (session'.addCalls n.id k,
        (resolve n.id routes (last.result n.id k)).2.map fun d =>
          ⟨modes.decision n.id d, s, some d.target⟩) ∧
      g.Routed n.id routes ∧ ∀ target, p.goesOn n.id (some target) = some target := by
  obtain ⟨hn, choose, hcall, hlast⟩ := hasks
  rw [← Session.outcomes_congr hcalls] at hlast
  have hfinish := finish_of_build h
  obtain ⟨run, hcall', -⟩ | ⟨run, e, hcall', -⟩ |
    ⟨choose', routes, hcall', hid, hroutes, hstep⟩ := action_of_build h hn
  · cases hcall.symm.trans hcall'
  · cases hcall.symm.trans hcall'
  · cases hcall.symm.trans hcall'
    refine ⟨_, routes, hstep, Step.perform_branch rfl hlast, hroutes, fun target => ?_⟩
    simp [Plan.goesOn, hfinish, hid]

/-! ### Where the loop comes -/

/-- The loop comes along a walk to a node with a session and a state: it has entered the nodes on
    the way and told of their steps, and what is left of it is a run from that node. -/
structure Comes (g : Graph) (policy : RetryPolicy) (p : Plan) (modes : Modes) (session : Session)
    (state : State) (done : List Milestone) (walk : List Edge) (session' : Session) (id : String)
    (s : State) : Prop where
  spent : g.Spent policy session session' (walk.map (·.source))
  loop_eq : ∃ log, log.filterMap LogEvent.enters? = walk.map (·.source) ∧
    p.loop modes session state =
      (p.runFrom modes (p.size - walk.length) walk.length session' id s).after log
        (modes.select done)

namespace Comes

theorem start (h : g.build policy = .ok p) (modes : Modes) (session : Session) (state : State) :
    g.Comes policy p modes session state [] [] session g.start state := by
  refine ⟨.refl, [], rfl, ?_⟩
  rw [Plan.loop, start_of_build h]
  rfl

/-- A step that leads along an edge takes the loop to its target. -/
theorem goesOn {e : Edge} {step : Step} {advance : Advance} {m : Milestone}
    (hcomes : g.Comes policy p modes session state done walk session' n.id s)
    (hsize : walk.length < p.size) (hsource : e.source = n.id)
    (hspent : g.Spent policy session (session'.addCalls n.id k) (walk.map (·.source) ++ [n.id]))
    (hstep : p.step? n.id = some step)
    (hperform : (step.perform modes session' n.id s).2 = (session'.addCalls n.id k, .ok advance))
    (hnext : p.goesOn n.id advance.next = some e.target)
    (hevents : modes.select [m] = advance.events) :
    g.Comes policy p modes session state (done ++ [m]) (walk ++ [e]) (session'.addCalls n.id k)
      e.target advance.state := by
  obtain ⟨-, log, hlog, hloop⟩ := hcomes
  have hleft : p.size - walk.length = p.size - (walk ++ [e]).length + 1 := by
    rw [List.length_append, List.length_singleton]
    omega
  rw [hleft, Plan.runFrom_goesOn hstep hperform hnext] at hloop
  have hsources : (walk ++ [e]).map (·.source) = walk.map (·.source) ++ [n.id] := by
    rw [List.map_append, List.map_singleton, hsource]
  refine ⟨hsources ▸ hspent, log ++ (Plan.stepLog modes session' n.id s step ++
    [.nodeCompleted n.id advance.next]), ?_, ?_⟩
  · rw [hsources, List.filterMap_append, hlog, Plan.enters_stepLog_completed]
  · rw [hloop, List.length_append, List.length_singleton, Modes.select_append, hevents]
    simp only [Run.after, List.append_assoc]

end Comes

/-- Where a journey has come, the loop has steps left, and was not there before. -/
theorem fresh_of_journey (h : g.build policy = .ok p) {id : String}
    (hj : g.Journey policy session state walk id s) :
    walk.length < p.size ∧ id ∉ walk.map (·.source) := by
  have hg := sound_of_build h
  exact ⟨size_of_build h ▸ (hg.journey_length_lt hj).1,
    Acyclic.notMem_sources hg.acyclic hj.walk⟩

/-- After the step of a node that the journey has come to, the calls are still within bounds. -/
theorem Comes.spent_addCalls (h : g.build policy = .ok p)
    (hcomes : g.Comes policy p modes session state done walk session' n.id s) (hn : n ∈ g.nodes)
    (hnew : n.id ∉ walk.map (·.source)) (hk : k ≤ (policyOf policy n).budget) :
    g.Spent policy session (session'.addCalls n.id k) (walk.map (·.source) ++ [n.id]) :=
  hcomes.spent.addCalls (sound_of_build h).ids_nodup hn hnew hk

/-- Wherever a run comes on its course, the loop comes too. -/
theorem comes_of_course (h : g.build policy = .ok p) (modes : Modes) {id : String}
    (hc : g.Course policy session state done walk id s) :
    ∃ session', g.Comes policy p modes session state done walk session' id s := by
  induction hc with
  | start => exact ⟨session, .start h modes session state⟩
  | work hc hworks hout ih =>
    obtain ⟨session', hcomes⟩ := ih
    obtain ⟨hsize, hnew⟩ := fresh_of_journey h hc.journey
    obtain ⟨step, next, hstep, hperform, -, hnext⟩ :=
      perform_of_works h hworks (hcomes.spent.kept _ hnew) modes
    obtain ⟨hn, run, -, hattempts⟩ := hworks
    have hspent := hcomes.spent_addCalls h hn hnew hattempts.le_budget
    have hsource := (mem_outgoing.1 (hout ▸ List.mem_singleton_self _)).2
    exact ⟨_, hcomes.goesOn hsize hsource hspent hstep hperform (hnext _ hout)
      (modes.select_worked _ _)⟩
  | branch hc hasks he hcondition ih =>
    obtain ⟨session', hcomes⟩ := ih
    obtain ⟨hsize, hnew⟩ := fresh_of_journey h hc.journey
    obtain ⟨step, routes, hstep, hperform, hrouted, hnext⟩ :=
      perform_of_asks h hasks (hcomes.spent.kept _ hnew) modes
    obtain ⟨hn, choose, -, hattempts⟩ := hasks
    have hspent := hcomes.spent_addCalls h hn hnew hattempts.le_budget
    have htarget := (hrouted _ _).2 ⟨_, he, hcondition, rfl⟩
    simp only [Outcome.result, resolve, htarget, StepResult.map] at hperform
    exact ⟨_, hcomes.goesOn hsize (mem_outgoing.1 he).2 hspent hstep hperform (hnext _)
      (modes.select_routed _ _)⟩

/-! ### Where the loop ends -/

/-- The loop enters the nodes of a walk from the start and ends in the given way, with the calls
    within bounds. -/
structure Ends (g : Graph) (policy : RetryPolicy) (session : Session) (walk : List Edge)
    (ending : Run.Ending) (r : Run) : Prop where
  entered_eq : r.entered = visits g.start walk
  ending_eq : r.ending = ending
  spent : g.Spent policy session r.session (visits g.start walk)

/-- The loop does so, and its events are those of some completed steps. -/
structure Tells (g : Graph) (policy : RetryPolicy) (modes : Modes) (session : Session)
    (done : List Milestone) (walk : List Edge) (ending : Run.Ending) (r : Run) : Prop
    extends Ends g policy session walk ending r where
  events_eq : r.events = modes.select done

variable {ending : Run.Ending} {more : List Milestone}

/-- If a run ends with the step of a node that its course has come to, so does the loop. -/
theorem tells_of_ending (h : g.build policy = .ok p)
    (hc : g.Course policy session state done walk n.id s) (hn : n ∈ g.nodes)
    (hk : k ≤ (policyOf policy n).budget)
    (hends : ∀ session', session'.calls n.id = session.calls n.id →
      ∃ step result, p.step? n.id = some step ∧
        (step.perform modes session' n.id s).2 = (session'.addCalls n.id k, result) ∧
        p.ending? n.id walk.length result = some ending ∧ modes.select more = result.events) :
    g.Tells policy modes session (done ++ more) walk ending (p.loop modes session state) := by
  obtain ⟨session', hcomes⟩ := comes_of_course h modes hc
  obtain ⟨hsize, hnew⟩ := fresh_of_journey h hc.journey
  have hspent := hcomes.spent_addCalls h hn hnew hk
  have hcalls := hcomes.spent.kept _ hnew
  obtain ⟨step, result, hstep, hperform, hending, hevents⟩ := hends session' hcalls
  obtain ⟨log', hlog', hrun⟩ := Plan.runFrom_ends hstep hperform hending
  obtain ⟨-, log, hlog, hloop⟩ := hcomes
  have hleft : p.size - walk.length = p.size - walk.length - 1 + 1 := by omega
  rw [hleft, hrun] at hloop
  have hvisits := hc.journey.walk.visits_eq
  rw [← hvisits] at hspent
  rw [hloop]
  refine ⟨⟨?_, rfl, hspent⟩, ?_⟩
  · rw [Run.entered, Run.after, List.filterMap_append, hlog, hlog', hvisits]
  · rw [Modes.select_append, hevents]
    rfl

theorem tells_of_works (h : g.build policy = .ok p)
    (hc : g.Course policy session state done walk n.id s) {last : Outcome State}
    (hworks : g.Works policy session n s k last) (modes : Modes)
    (hending : ∀ next, (n.id = g.finish → p.goesOn n.id next = none) →
      p.ending? n.id walk.length ((last.result n.id k).map fun s' =>
        ⟨modes.update n.id s', s', next⟩) = some ending)
    (hevents : ∀ next, modes.select more = ((last.result n.id k).map fun s' =>
      (⟨modes.update n.id s', s', next⟩ : Advance)).events) :
    g.Tells policy modes session (done ++ more) walk ending (p.loop modes session state) := by
  have ⟨hn, _, _, hattempts⟩ := hworks
  refine tells_of_ending h hc hn hattempts.le_budget fun session' hcalls => ?_
  obtain ⟨step, next, hstep, hperform, hnext, -⟩ := perform_of_works h hworks hcalls modes
  exact ⟨step, _, hstep, hperform, hending next hnext, hevents next⟩

theorem tells_of_asks (h : g.build policy = .ok p)
    (hc : g.Course policy session state done walk n.id s) {last : Outcome String}
    (hasks : g.Asks policy session n s k last) (modes : Modes)
    (hending : ∀ routes, g.Routed n.id routes →
      p.ending? n.id walk.length ((resolve n.id routes (last.result n.id k)).2.map fun d =>
        ⟨modes.decision n.id d, s, some d.target⟩) = some ending)
    (hevents : ∀ routes, g.Routed n.id routes →
      modes.select more = ((resolve n.id routes (last.result n.id k)).2.map fun d =>
        (⟨modes.decision n.id d, s, some d.target⟩ : Advance)).events) :
    g.Tells policy modes session (done ++ more) walk ending (p.loop modes session state) := by
  have ⟨hn, _, _, hattempts⟩ := hasks
  refine tells_of_ending h hc hn hattempts.le_budget fun session' hcalls => ?_
  obtain ⟨step, routes, hstep, hperform, hrouted, -⟩ := perform_of_asks h hasks hcalls modes
  exact ⟨step, _, hstep, hperform, hending routes hrouted, hevents routes hrouted⟩

/-- The loop ends where a call of a node panics. -/
theorem tells_of_panic (h : g.build policy = .ok p)
    (hc : g.Course policy session state done walk n.id s) {text : Option String}
    (hpanics : g.Works policy session n s k (.panicked text) ∨
      g.Asks policy session n s k (.panicked text)) (modes : Modes) :
    g.Tells policy modes session done walk (.panicked n.id text) (p.loop modes session state) := by
  rw [← List.append_nil done]
  rcases hpanics with hworks | hasks
  · exact tells_of_works h hc hworks modes (fun _ _ => rfl) fun _ => rfl
  · exact tells_of_asks h hc hasks modes (fun _ _ => rfl) fun _ _ => rfl

/-- Where a journey stops the loop ends, having told of the steps on its course and, if that is
    well done, of the finish. -/
theorem tells_of_course (h : g.build policy = .ok p) {id : String}
    (hc : g.Course policy session state done walk id s)
    (hstops : g.Stops policy session state walk ending) (modes : Modes) :
    g.Tells policy modes session (done ++ g.lastMilestone ending) walk ending
      (p.loop modes session state) := by
  have hcourse : ∀ {n : Node} {s : State}, g.Journey policy session state walk n.id s →
      g.Course policy session state done walk n.id s := by
    intro n s hj
    obtain ⟨done', hc'⟩ := hj.exists_course
    obtain ⟨rfl, -⟩ := hc.unique (sound_of_build h).ids_nodup hc'
    exact hc'
  cases hstops with
  | completed hj hworks hid =>
    refine tells_of_works h (hcourse hj) hworks modes (fun next hnext => ?_) fun _ => ?_
    · simp only [Outcome.result, StepResult.map, Plan.ending?, hnext hid, ↓reduceIte]
    · rw [lastMilestone, ← hid]
      exact modes.select_worked _ _
  | workFailed hj hworks =>
    exact tells_of_works h (hcourse hj) hworks modes (fun _ _ => rfl) fun _ => rfl
  | workPanicked hj hworks =>
    exact tells_of_works h (hcourse hj) hworks modes (fun _ _ => rfl) fun _ => rfl
  | unmatched hj hasks hnone =>
    have hroute : ∀ routes, g.Routed _ routes → routes.get? _ = none := fun routes hrouted =>
      hrouted.get?_eq_none_iff.2 hnone
    refine tells_of_asks h (hcourse hj) hasks modes (fun routes hrouted => ?_)
      fun routes hrouted => ?_
    · simp only [Outcome.result, resolve, hroute routes hrouted, StepResult.map, Plan.ending?]
    · simp only [Outcome.result, resolve, hroute routes hrouted]
      rfl
  | askFailed hj hasks =>
    exact tells_of_asks h (hcourse hj) hasks modes (fun _ _ => rfl) fun _ _ => rfl
  | askPanicked hj hasks =>
    exact tells_of_asks h (hcourse hj) hasks modes (fun _ _ => rfl) fun _ _ => rfl

theorem tells_of_stops (h : g.build policy = .ok p)
    (hstops : g.Stops policy session state walk ending) :
    ∃ done, g.Completes policy session state done ending ∧ ∀ modes,
      g.Tells policy modes session done walk ending (p.loop modes session state) := by
  obtain ⟨id, s, hj⟩ := hstops.exists_journey
  obtain ⟨done, hc⟩ := hj.exists_course
  exact ⟨_, ⟨done, walk, id, s, hc, hstops, rfl⟩, tells_of_course h hc hstops⟩

/-- Where a journey stops, the loop ends. -/
theorem loop_of_stops (h : g.build policy = .ok p)
    (hstops : g.Stops policy session state walk ending) (modes : Modes) :
    g.Ends policy session walk ending (p.loop modes session state) := by
  obtain ⟨done, -, htells⟩ := tells_of_stops h hstops
  exact (htells modes).toEnds

end Flowgraph.Graph
