/-
  Flowgraph/Proofs/Builtin/StoredValue.lean
  =========================================
  **What a node with a fixed value leaves in the state** — the value is the latest output and is
  added to the history under the node's id (`stores_of_setValue`).  The other histories are kept
  as long as the value is not stored where the histories are: then it takes the place of all of
  them before it is recorded, whatever the state has held (`histories_lost_to_value`).
-/
import Flowgraph.Proofs.Builtin.Kinds

namespace Flowgraph.Builtin

namespace SetValue

variable {params : SetValue} {id : String}

/-- The node adds its value to its own history and keeps every other one. -/
def KeepsHistories (params : SetValue) (id : String) : Prop :=
  ∀ s name, (params.run id s).outputsOf name =
    s.outputsOf name ++ if id = name then [params.value] else []

/-- What the node does in any state. -/
structure Stores (params : SetValue) (id : String) : Prop where
  lastOutput_eq : ∀ s, (params.run id s).lastOutput = some params.value
  outputsOf_eq : ∀ s name, (params.run id s).outputsOf name =
    params.historyBefore s name ++ if id = name then [params.value] else []
  keeps_iff : params.KeepsHistories id ↔ params.key ≠ some State.outputsKey
  get?_eq : ∀ s key, key ≠ State.outputsKey → key ≠ State.lastOutputKey →
    (params.run id s).get? key = if params.key = some key then some params.value else s.get? key

theorem keepsHistories_of_key_ne (h : params.key ≠ some State.outputsKey) :
    params.KeepsHistories id := by
  intro s name
  rw [outputsOf_run_eq, historyBefore, if_neg h]

/-- A value in the place of the histories makes the same history of any two. -/
theorem not_keepsHistories (h : params.key = some State.outputsKey) :
    ¬ params.KeepsHistories id := by
  intro hkeeps
  have hsame : ∀ s : State, s.outputsOf id = State.historyIn (some params.value) id := by
    intro s
    have hrun := hkeeps s id
    rw [outputsOf_run_eq, historyBefore, if_pos h] at hrun
    exact (List.append_cancel_right hrun).symm
  have hspoken : (State.empty.recordOutput id .null).outputsOf id = [.null] := by
    rw [State.outputsOf_recordOutput, if_pos rfl]
    rfl
  have hsilent : State.empty.outputsOf id = [] := rfl
  rw [hsame, ← hsame State.empty, hsilent] at hspoken
  cases hspoken

end SetValue

/-- A node whose parameters are taken does the same whatever the state: the value is recorded,
    and the histories are kept exactly if the value is not stored in their place. -/
theorem stores_of_setValue {n : NodeSpec} {callable : Callable} (h : setValue n = .ok callable) :
    ∃ params : SetValue, n.readParams SetValue.record.decode = .ok params ∧
      callable = steady (params.run n.id) ∧ params.Stores n.id := by
  obtain ⟨params, hparams, hmake⟩ := bind_eq_ok_iff.1 h
  cases hmake
  refine ⟨params, hparams, rfl, ?_⟩
  constructor
  case lastOutput_eq =>
    intro s
    exact SetValue.lastOutput_run params n.id s
  case outputsOf_eq =>
    intro s name
    exact SetValue.outputsOf_run_eq params n.id s name
  case keeps_iff =>
    constructor
    · intro hkeeps hkey
      exact SetValue.not_keepsHistories hkey hkeeps
    · intro hkey
      exact SetValue.keepsHistories_of_key_ne hkey
  case get?_eq =>
    intro s key houtputs hlast
    exact SetValue.get?_run houtputs hlast params n.id s

/-- A node that answers with an apology, and keeps it under a key of its own. -/
def apology : NodeSpec where
  id := "apologise"
  kind := "set_value"
  params := .object [("value", .str "I am sorry"), ("key", .str "answer")]

theorem stores_of_setValue_apology :
    setValue apology = .ok (steady (SetValue.run ⟨.str "I am sorry", some "answer"⟩ "apologise")) ∧
      ∃ params : SetValue, apology.readParams SetValue.record.decode = .ok params ∧
        params.Stores "apologise" ∧ params.KeepsHistories "apologise" := by
  have hmake : setValue apology =
      .ok (steady (SetValue.run ⟨.str "I am sorry", some "answer"⟩ "apologise")) := rfl
  have hread : apology.readParams SetValue.record.decode =
      .ok ⟨.str "I am sorry", some "answer"⟩ := rfl
  obtain ⟨params, hparams, -, hstores⟩ := stores_of_setValue hmake
  have hkey : params.key ≠ some State.outputsKey := by
    cases hread.symm.trans hparams
    decide
  exact ⟨hmake, params, hparams, hstores, hstores.keeps_iff.2 hkey⟩

/-- A node that stores its value, with a history of another name in it, where the histories are. -/
def usurper : NodeSpec where
  id := "answer"
  kind := "set_value"
  params := .object [("value", .obj [("echo", .arr [.str "never said"])]), ("key", .str "outputs")]

/-- What was recorded is lost, and there is a history that no node has made. -/
theorem histories_lost_to_value :
    ∃ f : State → State, setValue usurper = .ok (steady f) ∧
      let s := State.empty.recordOutput "greet" (.str "hi")
      s.outputsOf "greet" = [.str "hi"] ∧ (f s).outputsOf "greet" = [] ∧
        s.outputsOf "echo" = [] ∧ (f s).outputsOf "echo" = [.str "never said"] := by
  have hmake : setValue usurper = .ok (steady
      (SetValue.run ⟨.obj [("echo", .arr [.str "never said"])], some "outputs"⟩ "answer")) := rfl
  refine ⟨_, hmake, ?_, ?_, ?_, ?_⟩
  · rfl
  · rfl
  · rfl
  · rfl

end Flowgraph.Builtin
