/-
  Flowgraph/Proofs/Recording.lean
  ===============================
  **Recording one output after the other** — every history is the one that was there before, with
  the outputs under its name added in their order; the latest output is the last of all, and
  nothing is written besides (`State.Records`).

  The state before may hold anything.  A value that is no history counts as an empty one when it
  is looked up and gives way to one when it is written, so the two agree from the first output on.
-/
import Flowgraph.State

namespace Flowgraph.State

/-- Records outputs, each under its name, the first of them first. -/
def recordOutputs (s : State) (outputs : List (String × Json)) : State :=
  outputs.foldl (fun s output => s.recordOutput output.1 output.2) s

/-- What is recorded under a name. -/
def recordedUnder (name : String) (outputs : List (String × Json)) : List Json :=
  (outputs.filter (·.1 = name)).map (·.2)

/-- Recording the outputs makes the one state of the other. -/
structure Records (state : State) (outputs : List (String × Json)) (s : State) : Prop where
  outputsOf_eq : ∀ name, s.outputsOf name = state.outputsOf name ++ recordedUnder name outputs
  lastOutput_eq : s.lastOutput = (outputs.getLast?.map (·.2)).or state.lastOutput
  get?_eq : ∀ key, key ≠ outputsKey → key ≠ lastOutputKey → s.get? key = state.get? key

variable {state s : State} {outputs : List (String × Json)}

/-! ### One output -/

theorem recordedUnder_concat (name : String) (outputs : List (String × Json))
    (output : String × Json) :
    recordedUnder name (outputs ++ [output]) =
      recordedUnder name outputs ++ if output.1 = name then [output.2] else [] := by
  by_cases h : output.1 = name
  · simp [recordedUnder, h]
  · simp [recordedUnder, h]

theorem Records.refl : state.Records [] state := by
  constructor
  · intro name
    exact (List.append_nil _).symm
  · rfl
  · intro key _ _
    rfl

theorem Records.recordOutput (h : state.Records outputs s) (output : String × Json) :
    state.Records (outputs ++ [output]) (s.recordOutput output.1 output.2) := by
  constructor
  case outputsOf_eq =>
    intro name
    rw [outputsOf_recordOutput, recordedUnder_concat, ← List.append_assoc, ← h.outputsOf_eq]
    by_cases hname : output.1 = name
    · rw [if_pos hname, if_pos hname, hname]
    · rw [if_neg hname, if_neg hname, List.append_nil]
  case lastOutput_eq =>
    rw [lastOutput_recordOutput, List.getLast?_concat]
    rfl
  case get?_eq =>
    intro key houtputs hlast
    rw [get?_recordOutput houtputs hlast]
    exact h.get?_eq key houtputs hlast

/-! ### All outputs -/

theorem Records.recordOutputs (h : state.Records outputs s) (later : List (String × Json)) :
    state.Records (outputs ++ later) (s.recordOutputs later) := by
  induction later generalizing outputs s with
  | nil =>
    rw [List.append_nil]
    exact h
  | cons output later ih =>
    rw [List.append_cons]
    exact ih (h.recordOutput output)

/-- The latest output of some names is that of the first of them that has a history. -/
theorem outputFromAny_eq_some_iff {names : List String} {output : Json} :
    s.outputFromAny names = some output ↔
      ∃ before name after, names = before ++ name :: after ∧
        (∀ earlier ∈ before, s.outputsOf earlier = []) ∧
        (s.outputsOf name).getLast? = some output := by
  unfold outputFromAny
  rw [List.findSome?_eq_some_iff]
  simp only [List.getLast?_eq_none_iff, and_comm (b := ∀ _, _)]

/-- Whatever the state holds, outputs that are recorded are found, under their names and as the
    latest, and nothing else is changed. -/
theorem records_recordOutputs (state : State) (outputs : List (String × Json)) :
    let s := state.recordOutputs outputs
    state.Records outputs s ∧
      ∀ names output, s.outputFromAny names = some output ↔
        ∃ before name after, names = before ++ name :: after ∧
          (∀ earlier ∈ before, s.outputsOf earlier = []) ∧
          (s.outputsOf name).getLast? = some output := by
  intro s
  refine ⟨?_, ?_⟩
  · exact Records.refl.recordOutputs outputs
  · intro names output
    exact outputFromAny_eq_some_iff

end Flowgraph.State
