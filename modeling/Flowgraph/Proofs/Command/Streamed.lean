/-
  Flowgraph/Proofs/Command/Streamed.lean
  ======================================
  **A streamed run comes to the same** — whether a definition is run in one go or its events are
  followed as they are streamed, the result is the same (`streamWithConfig_agrees`): an error of
  the definition, the final state, or a failure, which the stream tells of in words.

  The reader of a stream never sees how the run ended.  The state that it holds is that of the
  last ordinary node (`Milestone.latest`), and the finish is one, so when the events end without
  a failure it holds the final state (`follow_stream`).
-/
import Flowgraph.Proofs.Command.Validated
import Flowgraph.Proofs.Run.Events

namespace Flowgraph

open Relation

/-! ### Following the events -/

/-- The state after some completed steps: a router leaves it as it is. -/
def Milestone.latest (state : State) : List Milestone → State
  | [] => state
  | .worked _ s :: done => latest s done
  | .routed .. :: done => latest state done

theorem Milestone.latest_worked (state : State) (done : List Milestone) (node : String)
    (s : State) : latest state (done ++ [.worked node s]) = s := by
  induction done generalizing state with
  | nil => rfl
  | cons m done ih =>
    cases m with
    | worked _ s' => exact ih s'
    | routed => exact ih state

variable {modes : Modes} {state : State}

/-- The events of completed steps bring a reader to the state after them. -/
theorem follow_select (hupdates : modes.updates = true) (state : State) (done : List Milestone)
    (events : List StreamEvent) :
    (follow state (modes.select done ++ events)).2 =
      (follow (Milestone.latest state done) events).2 := by
  induction done generalizing state with
  | nil => rfl
  | cons m done ih =>
    have hselect : modes.select (m :: done) = modes.select [m] ++ modes.select done :=
      modes.select_append [m] done
    rw [hselect, List.append_assoc]
    cases m with
    | worked node s =>
      rw [Modes.select_worked, Modes.update, hupdates]
      cases modes.values <;> exact ih s
    | routed node decision =>
      rw [Modes.select_routed, Modes.decision]
      cases modes.routes <;> exact ih state

/-- What the reader of a stream makes of the end of the run. -/
def Run.Ending.followed : Run.Ending → Except CommandError State
  | .completed s _ => .ok s
  | .failed e => .error (.endedAt e.nodeId e.message)
  | .panicked id text => .error (.endedAt id (panicMessage text))

variable {g : Graph} {policy : RetryPolicy} {p : Plan}

theorem follow_stream (h : g.build policy = .ok p) (hupdates : modes.updates = true)
    (session : Session) (state : State) :
    (follow state (p.stream modes session state).events).2 =
      (p.invoke session state).ending.followed := by
  obtain ⟨walk, ending, hstops⟩ := (Graph.sound_of_build h).exists_stops policy session state
  obtain ⟨done, hcompletes, htells⟩ := Graph.tells_of_stops h hstops
  have hinvoke : (p.invoke session state).ending = ending := (htells {}).ending_eq
  rw [Graph.events_stream (htells modes), follow_select hupdates, hinvoke]
  cases ending with
  | failed error => rfl
  | panicked node text => rfl
  | completed s steps =>
    -- the last step is that of the finish, which is no router
    obtain ⟨before, rfl⟩ := hcompletes.of_completed
    rw [Milestone.latest_worked]
    rfl

/-! ### Commands -/

variable {c : Config} {d : Definition} {s : State}

theorem streamWithConfig_of_compile (h : (d.compile Builtin.registry c.policy).2 = .ok p) :
    (streamWithConfig c d s).result = (p.invoke .fresh s).ending.followed := by
  obtain ⟨g, -, hbuild⟩ := Definition.compile_eq_ok_iff.1 h
  rw [streamWithConfig, Attempt.result_andThen, compileDefinition_eq_ok_iff.2 h]
  exact follow_stream hbuild rfl .fresh s

/-- Following what the channel brings comes to the result, in whatever order the run, the watch
    and the reader take their steps. -/
theorem follow_received (h : (d.compile Builtin.registry c.policy).2 = .ok p) {room : Nat}
    (hroom : 0 < room) {delivery : Delivery}
    (hreach : ReflTransGen (Delivery.Step room)
      (p.delivery { updates := true, routes := true } .fresh s) delivery)
    (hstuck : ∀ delivery', ¬ Delivery.Step room delivery delivery') :
    (follow s delivery.received).2 = (streamWithConfig c d s).result := by
  obtain ⟨g, -, hbuild⟩ := Definition.compile_eq_ok_iff.1 h
  have hbrings := p.delivery_brings { updates := true, routes := true } .fresh s hroom
  rw [hbrings.received_all delivery hreach hstuck, streamWithConfig_of_compile h]
  exact follow_stream hbuild rfl .fresh s

/-- A definition that is run and one that is streamed come to the same: neither compiles, and for
    the same reason; or both give the same state; or the run fails, and the stream tells in words
    at which node and why. -/
theorem streamWithConfig_agrees (c : Config) (d : Definition) (s : State) :
    (∃ e, (compileDefinition d c).result = .error (.definition e) ∧
      (runWithConfig c d s).result = .error (.definition e) ∧
      (streamWithConfig c d s).result = .error (.definition e)) ∨
    (∃ s', (runWithConfig c d s).result = .ok s' ∧ (streamWithConfig c d s).result = .ok s') ∨
    ∃ e id message, (runWithConfig c d s).result = .error (.run e) ∧
      (streamWithConfig c d s).result = .error (.endedAt id message) ∧
      (CommandError.endedAt id message).message =
        "run failed at '" ++ e.nodeId ++ "': " ++ e.message := by
  cases hcompile : (d.compile Builtin.registry c.policy).2 with
  | error e =>
    have hresult : (compileDefinition d c).result = .error (.definition e) :=
      congrArg (Except.mapError CommandError.definition) hcompile
    refine .inl ⟨e, hresult, ?_, ?_⟩
    · rw [runWithConfig, Attempt.result_andThen, hresult]
      rfl
    · rw [streamWithConfig, Attempt.result_andThen, hresult]
      rfl
  | ok p =>
    right
    rw [(runWithConfig_of_compile hcompile).1, streamWithConfig_of_compile hcompile]
    -- a call that panics would be told of as a failure, but no node of a definition panics
    rcases ending_of_compile hcompile s with ⟨s', steps, hending⟩ | ⟨n, -, -, hfails⟩
    · rw [hending]
      exact .inl ⟨s', rfl, rfl⟩
    · rcases hfails with ⟨condition, hending⟩ | ⟨message, hending⟩
      · rw [hending]
        exact .inr ⟨_, _, _, rfl, rfl, rfl⟩
      · rw [hending]
        exact .inr ⟨_, _, _, rfl, rfl, rfl⟩

end Flowgraph
