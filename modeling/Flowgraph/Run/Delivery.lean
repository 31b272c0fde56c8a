/-
  Flowgraph/Run/Delivery.lean
  ===========================
  **Delivering a stream** — three parties take part in a streamed run.  The run notes every node
  it comes to before it calls it, and sends its events into a channel that has room for some of
  them.  The watch waits until the run has ended; if a call panicked, the run is cut off there,
  and the watch sends a failure of the node noted last.  The reader receives the events.

  `Plan.script` is what the run does, one thing after the other, and `Delivery.Step` a step of any
  of the three.  They take their steps in any order.
-/
import Flowgraph.Run

namespace Flowgraph

/-! ### The run -/

/-- What a run does that others can see. -/
inductive Act
  /-- Notes the node that it comes to. -/
  | note (node : String)
  | send (event : StreamEvent)

/-- How the task of a run ends: it returns, or a call panics. -/
inductive Joined
  | returned
  | panicked (text : Option String)

/-- What a run does, in order, and how it ends. -/
structure Script where
  acts : List Act
  joined : Joined

namespace Script

def after (acts : List Act) (s : Script) : Script := { s with acts := acts ++ s.acts }

def done : Script := ⟨[], .returned⟩

/-- A run that fails sends its failure itself, and returns. -/
def failing (error : RunError) : Script := ⟨[.send (.failed error.nodeId error.message)], .returned⟩

end Script

namespace Plan

/-- What a run does from a node on.  The first number is that of the steps still allowed. -/
def scriptFrom (p : Plan) (modes : Modes) : Nat → Session → String → State → Script
  | 0, _, id, _ => .failing (.stepLimit id p.size)
  | allowed + 1, session, id, state =>
    match p.step? id with
    | none => .failing (.unknownNode id)
    | some step =>
      let (_, session, result) := step.perform modes session id state
      let rest :=
        match result with
        | .ok advance =>
          let rest :=
            match p.goesOn id advance.next with
            | some next => p.scriptFrom modes allowed session next advance.state
            | none => .done
          rest.after (advance.events.map .send)
        | .failed error => .failing error
        | .panicked text => ⟨[], .panicked text⟩
      rest.after [.note id]

def script (p : Plan) (modes : Modes) (session : Session) (state : State) : Script :=
  p.scriptFrom modes p.size session p.start state

end Plan

/-! ### All three -/

/-- What the watch is at. -/
inductive Watch
  /-- The run has not ended. -/
  | waits
  | reports (event : StreamEvent)
  | rests

/-- A stream on its way to the reader. -/
structure Delivery where
  /-- What the run has still to do, and how it will end. -/
  script : Script
  noted : String
  watch : Watch
  channel : List StreamEvent
  received : List StreamEvent

/-- A step of one of the parties.  Who sends waits for room in the channel, the watch for the end
    of the run, and the reader for an event. -/
inductive Delivery.Step (room : Nat) : Delivery → Delivery → Prop
  | notes {node : String} {acts : List Act} {joined : Joined} {noted : String} {watch : Watch}
      {channel received : List StreamEvent} :
      Step room ⟨⟨.note node :: acts, joined⟩, noted, watch, channel, received⟩
        ⟨⟨acts, joined⟩, node, watch, channel, received⟩
  | sends {event : StreamEvent} {acts : List Act} {joined : Joined} {noted : String}
      {watch : Watch} {channel received : List StreamEvent} :
      channel.length < room →
      Step room ⟨⟨.send event :: acts, joined⟩, noted, watch, channel, received⟩
        ⟨⟨acts, joined⟩, noted, watch, channel ++ [event], received⟩
  | returns {noted : String} {channel received : List StreamEvent} :
      Step room ⟨⟨[], .returned⟩, noted, .waits, channel, received⟩
        ⟨⟨[], .returned⟩, noted, .rests, channel, received⟩
  | aborts {text : Option String} {noted : String} {channel received : List StreamEvent} :
      Step room ⟨⟨[], .panicked text⟩, noted, .waits, channel, received⟩
        ⟨⟨[], .panicked text⟩, noted, .reports (.failed noted (panicMessage text)), channel,
          received⟩
  | reports {event : StreamEvent} {joined : Joined} {noted : String}
      {channel received : List StreamEvent} :
      channel.length < room →
      Step room ⟨⟨[], joined⟩, noted, .reports event, channel, received⟩
        ⟨⟨[], joined⟩, noted, .rests, channel ++ [event], received⟩
  | receives {event : StreamEvent} {script : Script} {noted : String} {watch : Watch}
      {channel received : List StreamEvent} :
      Step room ⟨script, noted, watch, event :: channel, received⟩
        ⟨script, noted, watch, channel, received ++ [event]⟩

/-- The stream of a run before anything is done; the start counts as noted. -/
def Plan.delivery (p : Plan) (modes : Modes) (session : Session) (state : State) : Delivery :=
  ⟨p.script modes session state, p.start, .waits, [], []⟩

end Flowgraph
