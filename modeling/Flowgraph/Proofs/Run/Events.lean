/-
  Flowgraph/Proofs/Run/Events.lean
  ================================
  **What streams tell of runs** — a stream carries the events of the steps that the run completes,
  in order, and after them a failure exactly if the run does not end well.  If no call panics, the
  steps are those of the run without a stream (`stream_of_invoke`); if one does, they are those
  before the node that was called (`stream_of_panic`).

  The loop is one for all modes, and so are the steps that it completes: a run is told of in the
  same way whatever the modes, and the modes only select from what is told.
-/
import Flowgraph.Proofs.Run.Delivery
import Flowgraph.Proofs.Run.Endings

namespace Flowgraph.Graph

variable {g : Graph} {policy : RetryPolicy} {p : Plan} {modes : Modes}
variable {session : Session} {state : State} {done : List Milestone} {walk : List Edge}
variable {ending : Run.Ending}

/-! ### The events of a stream -/

theorem events_stream (htells : g.Tells policy modes session done walk ending
    (p.loop modes session state)) :
    (p.stream modes session state).events = modes.select done ++ (Plan.closing ending).2 := by
  rw [← htells.events_eq, ← htells.ending_eq]
  rfl

theorem entered_stream (p : Plan) (modes : Modes) (session : Session) (state : State) :
    (p.stream modes session state).entered = (p.loop modes session state).entered := by
  have hclosing : ∀ ending, (Plan.closingLog ending).filterMap LogEvent.enters? = [] ∧
      (Plan.closing ending).1.filterMap LogEvent.enters? = [] := by
    intro ending
    cases ending <;> exact ⟨rfl, rfl⟩
  simp only [Plan.stream, Run.entered, List.filterMap_cons, List.filterMap_append, hclosing,
    List.append_nil, LogEvent.enters?]

theorem filter_closing (modes : Modes) (ending : Run.Ending) :
    (Plan.closing ending).2.filter modes.admits = (Plan.closing ending).2 := by
  cases ending <;> rfl

theorem mem_events_stream_iff (htells : g.Tells policy modes session done walk ending
    (p.loop modes session state)) {node message : String} :
    .failed node message ∈ (p.stream modes session state).events ↔
      .failed node message ∈ (Plan.closing ending).2 := by
  rw [events_stream htells, List.mem_append,
    or_iff_right (modes.failed_notMem_select done node message)]

/-! ### Runs without panics -/

/-- What the streams of a run tell of it.  The steps are those that the run completes without a
    stream. -/
structure Recounts (g : Graph) (policy : RetryPolicy) (p : Plan) (session : Session)
    (state : State) (done : List Milestone) : Prop where
  completes : g.Completes policy session state done (p.invoke session state).ending
  entered_eq : (p.invoke session state).entered =
    done.map (·.node) ++ (p.invoke session state).ending.stuck?.toList
  ending_eq : ∀ modes, (p.stream modes session state).ending = (p.invoke session state).ending
  events_of_completed : ∀ modes s steps, (p.invoke session state).ending = .completed s steps →
    (p.stream modes session state).events = modes.select done
  events_of_failed : ∀ modes error, (p.invoke session state).ending = .failed error →
    (p.stream modes session state).events =
      modes.select done ++ [.failed error.nodeId error.message]
  /-- What is told of the steps holds no failure, so that this is the only one. -/
  failed_notMem : ∀ (modes : Modes) node message, .failed node message ∉ modes.select done
  failed_iff : ∀ modes,
    (∃ node message, .failed node message ∈ (p.stream modes session state).events) ↔
      ∃ error, (p.invoke session state).ending = .failed error
  filter_all : ∀ modes, (p.stream modes session state).events =
    (p.stream .all session state).events.filter modes.admits
  last_values : ∀ modes s steps, (p.invoke session state).ending = .completed s steps →
    modes.values = true →
    ((p.stream modes session state).events.filterMap StreamEvent.values?).getLast? = some s
  last_updates : ∀ modes s steps, (p.invoke session state).ending = .completed s steps →
    modes.updates = true →
    ((p.stream modes session state).events.filterMap StreamEvent.updates?).getLast? =
      some (g.finish, s)
  /-- The reader of the stream receives just that. -/
  delivered : ∀ modes room, 0 < room →
    (p.delivery modes session state).Brings room (p.stream modes session state).events

/-- A stream tells of the steps that a run of which no call panics completes without it, and of
    its failure if it fails. -/
theorem stream_of_invoke (h : g.build policy = .ok p) (session : Session) (state : State)
    (hcalm : ∀ node text, (p.invoke session state).ending ≠ .panicked node text) :
    ∃ done, g.Recounts policy p session state done := by
  obtain ⟨walk, ending, hstops⟩ := (sound_of_build h).exists_stops policy session state
  obtain ⟨done, hcompletes, htells⟩ := tells_of_stops h hstops
  have hinvoke : (p.invoke session state).ending = ending := (htells {}).ending_eq
  have hevents := fun modes => events_stream (htells modes)
  have hlast : ∀ modes s steps, (p.invoke session state).ending = .completed s steps →
      ∃ before, (p.stream modes session state).events =
        modes.select (before ++ [.worked g.finish s]) := by
    intro modes s steps hending
    rw [hinvoke] at hending
    subst hending
    obtain ⟨before, rfl⟩ := hcompletes.of_completed
    exact ⟨before, (hevents modes).trans (List.append_nil _)⟩
  rw [hinvoke] at hcalm
  refine ⟨done, ?_⟩
  constructor
  case completes => exact hinvoke ▸ hcompletes
  case entered_eq =>
    obtain ⟨walk', hstops', hvisits⟩ := hcompletes.exists_walk
    rw [entered_invoke, (loop_of_stops h hstops' {}).entered_eq, hvisits, hinvoke]
  case ending_eq => exact fun modes => (htells modes).ending_eq.trans hinvoke.symm
  case events_of_completed =>
    intro modes s steps hending
    rw [hevents, ← hinvoke, hending]
    exact List.append_nil _
  case events_of_failed =>
    intro modes error hending
    rw [hevents, ← hinvoke, hending]
    rfl
  case failed_notMem => exact fun modes => modes.failed_notMem_select done
  case failed_iff =>
    intro modes
    simp only [mem_events_stream_iff (htells modes), hinvoke]
    cases ending with
    | completed s steps => simp [Plan.closing]
    | failed error => simp [Plan.closing]
    | panicked node text => exact absurd rfl (hcalm node text)
  case filter_all =>
    intro modes
    -- no mode leaves out the failure at the end
    rw [hevents, hevents, List.filter_append, modes.filter_select_all, filter_closing]
  case last_values =>
    intro modes s steps hending hvalues
    obtain ⟨before, hbefore⟩ := hlast modes s steps hending
    rw [hbefore]
    exact Modes.last_values_select hvalues
  case last_updates =>
    intro modes s steps hending hupdates
    obtain ⟨before, hbefore⟩ := hlast modes s steps hending
    rw [hbefore]
    exact Modes.last_updates_select hupdates
  case delivered => exact fun modes room hroom => p.delivery_brings modes session state hroom

theorem stream_of_invoke_forked : ∃ p, forked.build {} = .ok p ∧
    (∀ node text, (p.invoke .fresh .empty).ending ≠ .panicked node text) ∧
    ∃ done, forked.Recounts {} p .fresh .empty done := by
  have hany : (forked.build {}).toOption.any (fun p =>
      (p.invoke .fresh .empty).ending.stuck?.isNone) = true := by decide +kernel
  obtain ⟨p, hp, hnone⟩ := exists_eq_ok_of_any hany
  have hcalm : ∀ node text, (p.invoke .fresh .empty).ending ≠ .panicked node text := by
    intro node text hending
    rw [hending] at hnone
    cases hnone
  exact ⟨p, hp, hcalm, stream_of_invoke hp .fresh .empty hcalm⟩

/-! ### Runs with panics -/

/-- What the streams of a run tell if a call panics, and what they tell by not telling of any
    failure. -/
structure ReportsPanics (g : Graph) (policy : RetryPolicy) (p : Plan) (session : Session)
    (state : State) : Prop where
  /-- If the calls of the node that a run has come to end with one that panics, the stream tells
      of the steps before, and then of the panic. -/
  events_of_panic : ∀ done walk n s k (payload : Payload),
    g.Course policy session state done walk n.id s →
    (g.Works policy session n s k (.panicked payload.text?) ∨
      g.Asks policy session n s k (.panicked payload.text?)) →
    ∃ message,
      (∀ modes, (p.stream modes session state).events =
          modes.select done ++ [.failed n.id message] ∧
        (p.stream modes session state).entered = done.map (·.node) ++ [n.id]) ∧
      (∀ text, payload = .static text ∨ payload = .owned text →
        message = "node panicked: " ++ text) ∧
      (payload = .other → message = "node panicked: unknown panic payload")
  failed_notMem : ∀ (modes : Modes) done node message, .failed node message ∉ modes.select done
  /-- There are no other panics: one that ends a run is that of a call as above. -/
  course_of_panicked : ∀ modes id text, (p.stream modes session state).ending = .panicked id text →
    ∃ done walk n s k, n.id = id ∧ g.Course policy session state done walk n.id s ∧
      (g.Works policy session n s k (.panicked text) ∨ g.Asks policy session n s k (.panicked text))
  /-- A stream without a failure is that of a run that has done the finish last. -/
  completed_of_no_failed : ∀ modes,
    (∀ node message, .failed node message ∉ (p.stream modes session state).events) →
    ∃ before s steps, (p.stream modes session state).ending = .completed s steps ∧
      (p.stream modes session state).entered.getLast? = some g.finish ∧
      g.Completes policy session state (before ++ [.worked g.finish s]) (.completed s steps)
  delivered : ∀ modes room, 0 < room →
    (p.delivery modes session state).Brings room (p.stream modes session state).events

/-- A stream tells of a panic as of a failure of the node that was called, after the steps that
    were completed before; without a failure it is that of a run that has done the finish. -/
theorem stream_of_panic (h : g.build policy = .ok p) (session : Session) (state : State) :
    g.ReportsPanics policy p session state := by
  constructor
  case events_of_panic =>
    intro done walk n s k payload hc hpanics
    refine ⟨panicMessage payload.text?, fun modes => ?_, ?_, ?_⟩
    · have htells := tells_of_panic h hc hpanics modes
      refine ⟨events_stream htells, ?_⟩
      rw [entered_stream, htells.entered_eq, hc.journey.walk.visits_eq, hc.nodes_eq]
    · rintro text (rfl | rfl) <;> rfl
    · rintro rfl
      rfl
  case failed_notMem => exact fun modes done => modes.failed_notMem_select done
  case course_of_panicked =>
    intro modes id text hending
    obtain ⟨walk, ending, hstops⟩ := (sound_of_build h).exists_stops policy session state
    obtain rfl : ending = .panicked id text :=
      (loop_of_stops h hstops modes).ending_eq.symm.trans hending
    cases hstops with
    | workPanicked hj hworks =>
      obtain ⟨done, hc⟩ := hj.exists_course
      exact ⟨done, walk, _, _, _, rfl, hc, .inl hworks⟩
    | askPanicked hj hasks =>
      obtain ⟨done, hc⟩ := hj.exists_course
      exact ⟨done, walk, _, _, _, rfl, hc, .inr hasks⟩
  case completed_of_no_failed =>
    intro modes hfailed
    obtain ⟨walk, ending, hstops⟩ := (sound_of_build h).exists_stops policy session state
    obtain ⟨done, hcompletes, htells⟩ := tells_of_stops h hstops
    simp only [mem_events_stream_iff (htells modes)] at hfailed
    -- any other ending has left a failure in the stream
    cases ending with
    | failed error => exact absurd (List.mem_singleton_self _) (hfailed _ _)
    | panicked node text => exact absurd (List.mem_singleton_self _) (hfailed _ _)
    | completed s steps =>
      obtain ⟨before, rfl⟩ := hcompletes.of_completed
      refine ⟨before, s, steps, (htells modes).ending_eq, ?_, hcompletes⟩
      obtain ⟨walk', hstops', hvisits⟩ := hcompletes.exists_walk
      rw [entered_stream, (loop_of_stops h hstops' modes).entered_eq, hvisits]
      simp [Run.Ending.stuck?, Milestone.node]
  case delivered => exact fun modes room hroom => p.delivery_brings modes session state hroom

/-- Its last node is short of breath on the first call, and panics on every other. -/
def crashing : Graph where
  nodes :=
    [{ id := "first", label := "First", callable := .ordinary fun _ s => .ok s },
     { id := "last", label := "Last"
       callable := .ordinary fun n _ =>
         if n = 0 then .failed (.rateLimited "wait") else .panicked (some "boom") }]
  edges := [⟨"first", "last", none⟩]
  start := "first"
  finish := "last"

theorem stream_of_panic_crashing : ∃ p, crashing.build {} = .ok p ∧
    (p.stream { updates := true } .fresh .empty).events =
      [.updates "first" .empty, .failed "last" "node panicked: boom"] := by
  have hany : (crashing.build {}).toOption.any (fun _ => true) = true := by decide +kernel
  obtain ⟨p, hp, -⟩ := exists_eq_ok_of_any hany
  have hfirst : crashing.Works {} .fresh crashing.nodes[0] .empty 1 (.ok .empty) :=
    ⟨by simp, _, rfl, by decide, by decide, rfl, by omega, by intro error herror; cases herror⟩
  have hlast : crashing.Works {} .fresh crashing.nodes[1] .empty 2
      (.panicked (Payload.static "boom").text?) := by
    refine ⟨by simp, _, rfl, by decide, by decide, rfl, fun i hpos hlt => ?_, ?_⟩
    · obtain rfl : i = 1 := by omega
      exact ⟨.rateLimited "wait", rfl, rfl⟩
    · intro error herror
      cases herror
  have hc : crashing.Course {} .fresh .empty [.worked "first" .empty] [crashing.edges[0]]
      "last" .empty := .work .start hfirst (by decide)
  obtain ⟨message, hevents, hmessage, -⟩ := (stream_of_panic hp .fresh .empty).events_of_panic
    _ _ crashing.nodes[1] _ _ (.static "boom") hc (.inl hlast)
  refine ⟨p, hp, ?_⟩
  rw [(hevents _).1, hmessage "boom" (.inl rfl)]
  rfl

end Flowgraph.Graph
