/-
  Flowgraph/Proofs/Builtin/Kinds.lean
  ===================================
  **What nodes of the built-in kinds do** — an ordinary one always succeeds: it may store a value
  under a key, and then records an output under its own id (`ordinary_of_create`).  A router does
  the same at every call, and fails with a message if it does (`router_of_create`).
-/
import Flowgraph.Builtin
import Flowgraph.Proofs.Except
import Flowgraph.Proofs.Lookup

namespace Flowgraph.Builtin

variable {n : NodeSpec} {callable : Callable}

def routerKinds : List String := ["state_key_router", "keyword_router"]

/-- The key that a node stores its value under, besides recording it. -/
def storeKey? (n : NodeSpec) : Option String :=
  if n.kind = "set_value" then (n.readParams SetValue.record.decode).toOption.bind (·.key)
  else none

/-! ### Which factory makes a node -/

theorem mem_kinds_of_create (h : registry.create n = .ok callable) :
    ∃ factory, (n.kind, factory) ∈ kinds ∧ factory n = .ok callable := by
  unfold Registry.create at h
  split at h
  · next factory hfactory => exact ⟨factory, Fields.mem_of_get?_ofList hfactory, h⟩
  · cases h

theorem create_cases (h : registry.create n = .ok callable) :
    (n.kind ∈ ["start", "end", "passthrough"] ∧ passthrough n = .ok callable) ∨
    (n.kind = "set_value" ∧ setValue n = .ok callable) ∨
    (n.kind = "template" ∧ template n = .ok callable) ∨
    (n.kind = "state_key_router" ∧ stateKeyRouter n = .ok callable) ∨
    (n.kind = "keyword_router" ∧ keywordRouter n = .ok callable) := by
  obtain ⟨factory, hmem, hfactory⟩ := mem_kinds_of_create h
  simp only [kinds, List.mem_cons, Prod.mk.injEq, List.not_mem_nil, or_false] at hmem
  rcases hmem with ⟨hkind, rfl⟩ | ⟨hkind, rfl⟩ | ⟨hkind, rfl⟩ | ⟨hkind, rfl⟩ | ⟨hkind, rfl⟩ |
    ⟨hkind, rfl⟩ | ⟨hkind, rfl⟩
  · exact .inl ⟨by simp [hkind], hfactory⟩
  · exact .inl ⟨by simp [hkind], hfactory⟩
  · exact .inl ⟨by simp [hkind], hfactory⟩
  · exact .inr (.inl ⟨hkind, hfactory⟩)
  · exact .inr (.inr (.inl ⟨hkind, hfactory⟩))
  · exact .inr (.inr (.inr (.inl ⟨hkind, hfactory⟩)))
  · exact .inr (.inr (.inr (.inr ⟨hkind, hfactory⟩)))

/-! ### Ordinary nodes -/

theorem storeKey?_eq_none (h : n.kind ≠ "set_value") : storeKey? n = none := if_neg h

/-- Whatever the state, an ordinary node does what `set_value` does with some value. -/
theorem ordinary_of_create (h : registry.create n = .ok callable) (hkind : n.kind ∉ routerKinds) :
    ∃ f, callable = steady f ∧ ∀ s, ∃ output, f s = SetValue.run ⟨output, storeKey? n⟩ n.id s := by
  rcases create_cases h with ⟨hpass, hmake⟩ | ⟨hset, hmake⟩ | ⟨htemplate, hmake⟩ | ⟨hrouter, -⟩ |
    ⟨hrouter, -⟩
  · have hnone : storeKey? n = none := storeKey?_eq_none fun hset => by simp [hset] at hpass
    cases hmake
    refine ⟨_, rfl, fun s => ⟨s.lastOutput.getD .null, ?_⟩⟩
    rw [hnone]
    rfl
  · obtain ⟨params, hparams, hmake⟩ := bind_eq_ok_iff.1 hmake
    have hkey : storeKey? n = params.key := by
      rw [storeKey?, if_pos hset, hparams]
      rfl
    cases hmake
    refine ⟨_, rfl, fun s => ⟨params.value, ?_⟩⟩
    rw [hkey]
  · have hnone : storeKey? n = none := storeKey?_eq_none fun hset => by simp [hset] at htemplate
    obtain ⟨text, -, hmake⟩ := bind_eq_ok_iff.1 hmake
    cases hmake
    refine ⟨_, rfl, fun s => ⟨.str (fillTemplate text s), ?_⟩⟩
    rw [hnone]
    rfl
  · simp [routerKinds, hrouter] at hkind
  · simp [routerKinds, hrouter] at hkind

section Run

variable {params : SetValue} {id : String}

/-- The history under a name when the value is about to be recorded.  Where the histories are, the
    value itself has been stored in their place. -/
def SetValue.historyBefore (p : SetValue) (s : State) (name : String) : List Json :=
  if p.key = some State.outputsKey then State.historyIn (some p.value) name else s.outputsOf name

/-- Whatever its key, the value is added to what is then the history under the node's id. -/
theorem SetValue.outputsOf_run_eq (params : SetValue) (id : String) (s : State) (name : String) :
    (params.run id s).outputsOf name =
      params.historyBefore s name ++ if id = name then [params.value] else [] := by
  have hstored : ∀ stored : State, (∀ name, stored.outputsOf name = params.historyBefore s name) →
      (stored.recordOutput id params.value).outputsOf name =
        params.historyBefore s name ++ if id = name then [params.value] else [] := by
    intro stored hbefore
    rw [State.outputsOf_recordOutput]
    by_cases hname : id = name
    · rw [if_pos hname, if_pos hname, hbefore, hname]
    · rw [if_neg hname, if_neg hname, hbefore, List.append_nil]
  unfold SetValue.run
  apply hstored
  intro name
  cases hkey : params.key with
  | none => simp [historyBefore, hkey]
  | some key => simp [historyBefore, hkey, State.outputsOf_insert]

theorem SetValue.outputsOf_run (h : params.key ≠ some State.outputsKey) (s : State) (id' : String) :
    (params.run id s).outputsOf id' =
      if id = id' then s.outputsOf id ++ [params.value] else s.outputsOf id' := by
  rw [outputsOf_run_eq, historyBefore, if_neg h]
  by_cases hid : id = id'
  · rw [if_pos hid, if_pos hid, hid]
  · rw [if_neg hid, if_neg hid, List.append_nil]

theorem SetValue.lastOutput_run (params : SetValue) (id : String) (s : State) :
    (params.run id s).lastOutput = some params.value :=
  State.lastOutput_recordOutput _ _ _

/-- Only the two reserved keys are written, and the key of the value. -/
theorem SetValue.get?_run {key : String} (houtputs : key ≠ State.outputsKey)
    (hlast : key ≠ State.lastOutputKey) (params : SetValue) (id : String) (s : State) :
    (params.run id s).get? key =
      if params.key = some key then some params.value else s.get? key := by
  unfold SetValue.run
  rw [State.get?_recordOutput houtputs hlast]
  cases hkey : params.key with
  | none => rfl
  | some key' => simp [State.get?_insert]

end Run

/-! ### Routers -/

theorem keywords_of_keywordRouter (h : keywordRouter n = .ok callable) :
    ∃ params, n.readParams Keywords.record.decode = .ok params ∧
      callable = chooser params.choose := by
  obtain ⟨params, hparams, hmake⟩ := bind_eq_ok_iff.1 h
  refine ⟨params, hparams, ?_⟩
  split at hmake
  · cases hmake
  · cases hmake
    rfl

theorem keywords_of_create (h : registry.create n = .ok callable)
    (hkind : n.kind = "keyword_router") :
    ∃ params, n.readParams Keywords.record.decode = .ok params ∧
      callable = chooser params.choose := by
  rcases create_cases h with ⟨hother, -⟩ | ⟨hother, -⟩ | ⟨hother, -⟩ | ⟨hother, -⟩ | ⟨-, hmake⟩
  · simp [hkind] at hother
  · simp [hkind] at hother
  · simp [hkind] at hother
  · simp [hkind] at hother
  · exact keywords_of_keywordRouter hmake

theorem router_of_create (h : registry.create n = .ok callable) (hkind : n.kind ∈ routerKinds) :
    ∃ f, callable = chooser f := by
  rcases create_cases h with ⟨hother, -⟩ | ⟨hother, -⟩ | ⟨hother, -⟩ | ⟨-, hmake⟩ | ⟨hrouter, -⟩
  · simp only [List.mem_cons, List.not_mem_nil, or_false] at hother
    rcases hother with hother | hother | hother <;> simp [routerKinds, hother] at hkind
  · simp [routerKinds, hother] at hkind
  · simp [routerKinds, hother] at hkind
  · obtain ⟨params, -, hmake⟩ := bind_eq_ok_iff.1 hmake
    cases hmake
    exact ⟨_, rfl⟩
  · obtain ⟨params, -, rfl⟩ := keywords_of_create h hrouter
    exact ⟨_, rfl⟩

theorem isRouter_of_create (h : registry.create n = .ok callable) :
    callable.isRouter = true ↔ n.kind ∈ routerKinds := by
  by_cases hkind : n.kind ∈ routerKinds
  · obtain ⟨f, rfl⟩ := router_of_create h hkind
    simp [chooser, Callable.isRouter, hkind]
  · obtain ⟨f, rfl, -⟩ := ordinary_of_create h hkind
    simp [steady, Callable.isRouter, hkind]

/-! ### Failures -/

theorem ok_of_create {run : Nat → State → Outcome State}
    (h : registry.create n = .ok (.ordinary run)) (i : Nat) (s : State) :
    ∃ s', run i s = .ok s' := by
  have hkind : n.kind ∉ routerKinds := by
    intro hkind
    cases (isRouter_of_create h).2 hkind
  obtain ⟨f, hf, -⟩ := ordinary_of_create h hkind
  cases hf
  exact ⟨f s, rfl⟩

theorem executionFailed_of_create {choose : Nat → State → List String → Outcome String}
    (h : registry.create n = .ok (.router choose)) {i : Nat} {s : State} {incoming : List String}
    {error : NodeError} (hfailed : choose i s incoming = .failed error) :
    ∃ message, error = .executionFailed message := by
  obtain ⟨f, hf⟩ := router_of_create h ((isRouter_of_create h).1 rfl)
  cases hf
  dsimp only at hfailed
  split at hfailed
  · cases hfailed
  · next message _ =>
    cases hfailed
    exact ⟨message, rfl⟩

end Flowgraph.Builtin
