/-
  Flowgraph/Proofs/Builtin/Histories.lean
  =======================================
  **What a run leaves in the state** — with nodes of the built-in kinds, each ordinary node on the
  way adds one output to its own history, and nothing else is written but the latest output and
  the keys that `set_value` nodes on the way store under (`leaves_of_invoke`).

  Histories may be missing or malformed at first.  What the steps leave is carried along the
  course of the run (`leaves_of_course`), one step at a time (`Leaves.work`, `Leaves.branch`);
  that no node is done twice is why a history grows by one output and no more.
-/
import Flowgraph.Proofs.Builtin.Calls
import Flowgraph.Proofs.Run.Endings

namespace Flowgraph

open Builtin (SetValue routerKinds storeKey?)

namespace Definition

/-- No node stores a value where the histories are. -/
def SparesHistories (d : Definition) : Prop := ∀ n ∈ d.nodes, storeKey? n ≠ some State.outputsKey

/-- A run that does the nodes of the given ids makes the one state of the other. -/
structure Leaves (d : Definition) (ids : List String) (state s : State) : Prop where
  recorded : ∀ n ∈ d.nodes, n.kind ∉ routerKinds → n.id ∈ ids →
    ∃ output, s.outputsOf n.id = state.outputsOf n.id ++ [output]
  /-- Every other name has the history that it had. -/
  outputsOf_eq : ∀ name, (∀ n ∈ d.nodes, n.kind ∉ routerKinds → n.id ∈ ids → n.id ≠ name) →
    s.outputsOf name = state.outputsOf name
  get?_eq : ∀ key, key ≠ State.outputsKey → key ≠ State.lastOutputKey →
    (∀ n ∈ d.nodes, n.id ∈ ids → storeKey? n ≠ some key) → s.get? key = state.get? key

variable {d : Definition} {ids : List String} {state s : State} {n : NodeSpec}

theorem Leaves.refl : d.Leaves [] state state := by
  constructor
  · intro n _ _ hid
    cases hid
  · intro name _
    rfl
  · intro key _ _ _
    rfl

/-! ### One step -/

/-- An ordinary node that was not done before adds an output to its history. -/
theorem Leaves.work (h : d.Leaves ids state s) (hspares : d.SparesHistories) (hn : n ∈ d.nodes)
    (hkind : n.kind ∉ routerKinds) (hnew : n.id ∉ ids) (output : Json) :
    d.Leaves (ids ++ [n.id]) state (SetValue.run ⟨output, storeKey? n⟩ n.id s) := by
  have houtputs : ∀ name, (SetValue.run ⟨output, storeKey? n⟩ n.id s).outputsOf name =
      if n.id = name then s.outputsOf n.id ++ [output] else s.outputsOf name :=
    SetValue.outputsOf_run (hspares n hn) s
  have hbefore : s.outputsOf n.id = state.outputsOf n.id := by
    apply h.outputsOf_eq
    intro m hm _ hid heq
    exact hnew (heq ▸ hid)
  constructor
  case recorded =>
    intro m hm hordinary hid
    rw [houtputs]
    rcases List.mem_append.1 hid with hid | hid
    · have hne : n.id ≠ m.id := fun heq => hnew (heq ▸ hid)
      rw [if_neg hne]
      exact h.recorded m hm hordinary hid
    · rw [if_pos (List.mem_singleton.1 hid).symm, hbefore, List.mem_singleton.1 hid]
      exact ⟨output, rfl⟩
  case outputsOf_eq =>
    intro name hname
    have hne : n.id ≠ name := hname n hn hkind (by simp)
    rw [houtputs, if_neg hne]
    apply h.outputsOf_eq
    intro m hm hordinary hid
    exact hname m hm hordinary (List.mem_append_left _ hid)
  case get?_eq =>
    intro key hreserved hlast hkey
    rw [SetValue.get?_run hreserved hlast, if_neg (hkey n hn (by simp))]
    apply h.get?_eq key hreserved hlast
    intro m hm hid
    exact hkey m hm (List.mem_append_left _ hid)

/-- A router leaves everything as it is. -/
theorem Leaves.branch (h : d.Leaves ids state s) (hnodup : (d.nodes.map (·.id)).Nodup)
    (hn : n ∈ d.nodes) (hkind : n.kind ∈ routerKinds) : d.Leaves (ids ++ [n.id]) state s := by
  have hmem : ∀ m ∈ d.nodes, m.kind ∉ routerKinds → m.id ∈ ids ++ [n.id] → m.id ∈ ids := by
    intro m hm hordinary hid
    rcases List.mem_append.1 hid with hid | hid
    · exact hid
    · obtain rfl := List.inj_on_of_nodup_map hnodup hm hn (List.mem_singleton.1 hid)
      exact absurd hkind hordinary
  constructor
  case recorded =>
    intro m hm hordinary hid
    exact h.recorded m hm hordinary (hmem m hm hordinary hid)
  case outputsOf_eq =>
    intro name hname
    apply h.outputsOf_eq
    intro m hm hordinary hid
    exact hname m hm hordinary (List.mem_append_left _ hid)
  case get?_eq =>
    intro key hreserved hlast hkey
    apply h.get?_eq key hreserved hlast
    intro m hm hid
    exact hkey m hm (List.mem_append_left _ hid)

/-! ### All steps -/

section Course

variable {policy : RetryPolicy} {g : Graph} {session : Session} {done : List Milestone}
variable {walk : List Edge} {id : String} {node : Node} {k : Nat}

theorem notMem_done (hsound : g.Sound) (hc : g.Course policy session state done walk id s) :
    id ∉ done.map (·.node) := by
  rw [hc.nodes_eq]
  exact Graph.Acyclic.notMem_sources hsound.acyclic hc.journey.walk

/-- The step of an ordinary node that a course has come to, with its output. -/
theorem leaves_of_works (hg : d.graph Builtin.registry policy = .ok g) (hsound : g.Sound)
    (hspares : d.SparesHistories) (hc : g.Course policy session state done walk node.id s)
    (h : d.Leaves (done.map (·.node)) state s) {s' : State}
    (hworks : g.Works policy session node s k (.ok s')) :
    d.Leaves (done.map (·.node) ++ [node.id]) state s' ∧
      ∃ output, s'.lastOutput = some output ∧ (s'.outputsOf node.id).getLast? = some output := by
  obtain ⟨n, hn, hid, hkind, output, heq⟩ := Builtin.works_of_graph hg hworks
  have hnew := notMem_done hsound hc
  cases heq
  rw [← hid] at hnew ⊢
  refine ⟨h.work hspares hn hkind hnew output, output, ?_, ?_⟩
  · exact SetValue.lastOutput_run _ _ _
  · rw [SetValue.outputsOf_run (hspares n hn), if_pos rfl, List.getLast?_concat]

theorem leaves_of_course (hg : d.graph Builtin.registry policy = .ok g) (hsound : g.Sound)
    (hspares : d.SparesHistories) (hc : g.Course policy session state done walk id s) :
    d.Leaves (done.map (·.node)) state s := by
  induction hc with
  | start => exact .refl
  | work hc hworks _ ih =>
    rw [List.map_append]
    exact (leaves_of_works hg hsound hspares hc ih hworks).1
  | branch _ hasks _ _ ih =>
    obtain ⟨n, hn, hid, hkind, -⟩ := Builtin.asks_of_graph hg hasks
    rw [List.map_append, List.map_singleton, Milestone.node, ← hid]
    exact ih.branch (nodup_of_graph hg hsound) hn hkind

end Course

/-! ### Whole runs -/

/-- A run that succeeds leaves one output more in the history of every ordinary node that it
    enters, the last of them under the finish, and spares the rest of the state. -/
theorem leaves_of_invoke {policy : RetryPolicy} {p : Plan}
    (h : (d.compile Builtin.registry policy).2 = .ok p) (hspares : d.SparesHistories)
    (session : Session) (state : State) {s : State} {steps : Nat}
    (hcompleted : (p.invoke session state).ending = .completed s steps) :
    d.Leaves (p.invoke session state).entered state s ∧
      ∃ output, s.lastOutput = some output ∧
        (s.outputsOf d.finish).getLast? = some output := by
  obtain ⟨g, hg, hbuild⟩ := compile_eq_ok_iff.1 h
  have hsound := Graph.sound_of_build hbuild
  obtain ⟨walk, ending, hstops⟩ := hsound.exists_stops policy session state
  obtain ⟨hentered, hending, -⟩ := Graph.loop_of_stops hbuild hstops {}
  rw [Graph.entered_invoke, hentered, ← finish_of_graph hg]
  obtain rfl : ending = .completed s steps := hending.symm.trans hcompleted
  cases hstops with
  | completed hj hworks hid =>
    obtain ⟨done, hc⟩ := hj.exists_course
    have hleaves := leaves_of_course hg hsound hspares hc
    rw [hj.walk.visits_eq, ← hc.nodes_eq, ← hid]
    exact leaves_of_works hg hsound hspares hc hleaves hworks

/-! ### An example -/

/-- A desk that answers a message with the word `bug` by an apology, and checks what it says. -/
def desk : Definition where
  start := "start"
  finish := "end"
  nodes :=
    [{ id := "start", kind := "start" },
     { id := "ask", kind := "keyword_router"
       params := .object [("keywords", .arr [.str "bug"]), ("default", .str "other")] },
     { id := "other", kind := "passthrough" },
     { id := "bug", kind := "set_value"
       params := .object [("value", .str "sorry"), ("key", .str "answer")] },
     { id := "check", kind := "keyword_router"
       params := .object [("keywords", .arr [.str "sorry"]), ("default", .str "fine")] },
     { id := "end", kind := "end" }]
  edges :=
    [⟨"start", "ask", none⟩, ⟨"ask", "bug", some "bug"⟩, ⟨"ask", "other", some "other"⟩,
     ⟨"other", "check", none⟩, ⟨"bug", "check", none⟩, ⟨"check", "end", some "sorry"⟩,
     ⟨"check", "end", some "fine"⟩]

theorem desk_sparesHistories : desk.SparesHistories := by
  unfold SparesHistories
  decide +kernel

/-- Also where a text stands in place of the histories. -/
theorem leaves_of_invoke_desk :
    let state := (State.ofInput (.str "a bug")).insert State.outputsKey (.str "none")
    ∃ p s steps, (desk.compile Builtin.registry {}).2 = .ok p ∧
      (p.invoke .fresh state).ending = .completed s steps ∧
      desk.Leaves (p.invoke .fresh state).entered state s ∧
      (s.outputsOf "end").getLast? = s.lastOutput ∧ s.outputsOf "ask" = [] := by
  intro state
  have hany : (desk.compile Builtin.registry {}).2.toOption.any (fun p =>
      (p.invoke .fresh state).ending.stuck? = none) = true := by decide +kernel
  obtain ⟨p, hp, hstuck⟩ := exists_eq_ok_of_any hany
  obtain ⟨s, steps, hs⟩ := Run.Ending.stuck?_eq_none_iff.1 (of_decide_eq_true hstuck)
  obtain ⟨hleaves, output, hlast, houtput⟩ :=
    leaves_of_invoke hp desk_sparesHistories .fresh state hs
  have hrouter : ∀ n ∈ desk.nodes, n.kind ∉ routerKinds → n.id ≠ "ask" := by decide +kernel
  have hask : s.outputsOf "ask" = state.outputsOf "ask" := by
    apply hleaves.outputsOf_eq
    intro n hn hordinary _
    exact hrouter n hn hordinary
  exact ⟨p, s, steps, hp, hs, hleaves, houtput.trans hlast.symm, hask⟩

end Definition

end Flowgraph
