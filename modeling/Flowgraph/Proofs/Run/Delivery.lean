/-
  Flowgraph/Proofs/Run/Delivery.lean
  ==================================
  **The reader receives the stream** — in whatever order the run, the watch and the reader take
  their steps, the reader receives the events of `Plan.stream`, in their order and no others
  (`Plan.delivery_brings`).

  What is received, what is in the channel and what is still to be sent make up the same list of
  events at any time (`Delivery.Step.total_eq`); every step uses something up
  (`Delivery.Step.effort_lt`); and as long as anything is left, somebody can take a step
  (`Delivery.received_of_stuck`).
-/
import Mathlib.Logic.Relation
import Flowgraph.Run.Delivery

namespace Flowgraph

open Relation

/-! ### What is still to be sent -/

def Act.sent? : Act → Option StreamEvent
  | .note _ => none
  | .send event => some event

namespace Script

/-- The node noted last when a run has done all that it does. -/
def lastNoted (noted : String) : List Act → String
  | [] => noted
  | .note node :: acts => lastNoted node acts
  | .send _ :: acts => lastNoted noted acts

/-- What the watch will send when a run has ended. -/
def report (noted : String) (s : Script) : List StreamEvent :=
  match s.joined with
  | .returned => []
  | .panicked text => [.failed (lastNoted noted s.acts) (panicMessage text)]

/-- What a run and then the watch will send. -/
def sends (noted : String) (s : Script) : List StreamEvent :=
  s.acts.filterMap Act.sent? ++ s.report noted

theorem sends_note (noted node : String) (s : Script) :
    (s.after [.note node]).sends noted = s.sends node := rfl

theorem sends_send (noted : String) (events : List StreamEvent) (s : Script) :
    (s.after (events.map .send)).sends noted = events ++ s.sends noted := by
  induction events with
  | nil => rfl
  | cons event events ih => exact congrArg (event :: ·) ih

end Script

/-- A run and its watch send the events of the run, and what its ending asks for. -/
theorem Plan.sends_scriptFrom (p : Plan) (modes : Modes) (allowed taken : Nat) (session : Session)
    (noted id : String) (state : State) :
    (p.scriptFrom modes allowed session id state).sends noted =
      (p.runFrom modes allowed taken session id state).events ++
        (closing (p.runFrom modes allowed taken session id state).ending).2 := by
  induction allowed generalizing taken session noted id state with
  | zero => rfl
  | succ allowed ih =>
    rw [scriptFrom, runFrom]
    cases p.step? id with
    | none => rfl
    | some step =>
      dsimp only
      rw [Script.sends_note]
      cases (step.perform modes session id state).2.2 with
      | failed error => rfl
      | panicked text => rfl
      | ok advance =>
        dsimp only
        rw [Script.sends_send]
        cases p.goesOn id advance.next with
        | none => rfl
        | some next =>
          dsimp only
          rw [ih (taken + 1), Run.after, List.append_assoc]

namespace Delivery

/-- What the run and the watch have still to send. -/
def unsent (d : Delivery) : List StreamEvent :=
  match d.watch with
  | .waits => d.script.sends d.noted
  | .reports event => d.script.acts.filterMap Act.sent? ++ [event]
  | .rests => d.script.acts.filterMap Act.sent?

/-- All events, wherever they are. -/
def total (d : Delivery) : List StreamEvent := d.received ++ d.channel ++ d.unsent

variable {room : Nat} {d d' : Delivery}

/-! ### Steps -/

/-- No step loses an event or changes the order. -/
theorem Step.total_eq (h : Step room d d') : d'.total = d.total := by
  cases h with
  | @notes _ _ _ _ watch => cases watch <;> rfl
  | @sends event acts joined noted watch channel received _ =>
    -- whatever the watch is at, the event is the first that is still to be sent
    have hunsent : (Delivery.mk ⟨.send event :: acts, joined⟩ noted watch channel received).unsent =
        event :: (Delivery.mk ⟨acts, joined⟩ noted watch channel received).unsent := by
      cases watch <;> rfl
    rw [total, total, hunsent]
    simp only [List.append_assoc, List.singleton_append]
    rfl
  | returns => rfl
  | aborts => rfl
  | reports => simp [total, unsent]
  | receives => simp [total, unsent]

/-- A bound on the steps that may still be taken. -/
def effort (d : Delivery) : Nat :=
  2 * d.script.acts.length + d.channel.length +
    match d.watch with
    | .waits => 3
    | .reports _ => 2
    | .rests => 0

theorem Step.effort_lt (h : Step room d d') : d'.effort < d.effort := by
  cases h with
  | notes => simp only [effort, List.length_cons]; omega
  | sends => simp only [effort, List.length_cons, List.length_append, List.length_nil]; omega
  | returns => simp only [effort]; omega
  | aborts => simp only [effort]; omega
  | reports => simp only [effort, List.length_append, List.length_cons, List.length_nil]; omega
  | receives => simp only [effort, List.length_cons]; omega

/-- If nobody can take a step, all has been received: the reader has emptied the channel, so that
    there is room for whoever has something to send. -/
theorem received_of_stuck (hroom : 0 < room) (h : ∀ d', ¬ Step room d d') :
    d.received = d.total := by
  obtain ⟨⟨acts, joined⟩, noted, watch, channel, received⟩ := d
  cases channel with
  | cons event channel => exact absurd .receives (h _)
  | nil =>
    cases acts with
    | cons act acts =>
      cases act with
      | note node => exact absurd .notes (h _)
      | send event => exact absurd (.sends hroom) (h _)
    | nil =>
      cases watch with
      | waits =>
        cases joined with
        | returned => exact absurd .returns (h _)
        | panicked text => exact absurd .aborts (h _)
      | reports event => exact absurd (.reports hroom) (h _)
      | rests => simp [total, unsent]

/-! ### Runs of steps -/

theorem total_eq_of_reach (h : ReflTransGen (Step room) d d') : d'.total = d.total := by
  induction h with
  | refl => rfl
  | tail _ hstep ih => rw [hstep.total_eq, ih]

/-- In whatever order steps are taken, the reader receives some events in turn, and in the end
    has received them all. -/
structure Brings (room : Nat) (d : Delivery) (events : List StreamEvent) : Prop where
  received_prefix : ∀ d', ReflTransGen (Step room) d d' → d'.received <+: events
  /-- When nobody can take a step any more, nothing is left out. -/
  received_all : ∀ d', ReflTransGen (Step room) d d' → (∀ d'', ¬ Step room d' d'') →
    d'.received = events
  /-- Nobody goes on for ever. -/
  ends : Acc (fun d' d => Step room d d') d

theorem brings_total (hroom : 0 < room) (d : Delivery) : d.Brings room d.total := by
  constructor
  case received_prefix =>
    intro d' h
    rw [← total_eq_of_reach h, total, List.append_assoc]
    exact List.prefix_append _ _
  case received_all =>
    intro d' h hstuck
    rw [← total_eq_of_reach h]
    exact received_of_stuck hroom hstuck
  case ends =>
    have hsub : ∀ d' d, Step room d d' → d'.effort < d.effort := fun _ _ h => h.effort_lt
    exact (Subrelation.wf (hsub _ _) (measure effort).wf).apply d

end Delivery

theorem Plan.delivery_brings (p : Plan) (modes : Modes) (session : Session) (state : State)
    {room : Nat} (hroom : 0 < room) :
    (p.delivery modes session state).Brings room (p.stream modes session state).events := by
  have htotal : (p.delivery modes session state).total = (p.stream modes session state).events :=
    p.sends_scriptFrom modes p.size 0 session p.start p.start state
  rw [← htotal]
  exact Delivery.brings_total hroom _

end Flowgraph
