/-
  Flowgraph/Proofs/Command/Validated.lean
  =======================================
  **What a valid definition is good for** — if a definition in a file is found valid, it compiles
  under every configuration, and a run of it on whatever state comes to an end or fails at one of
  the routers of the summary, without a retry (`validated_of_validate`).

  It was found valid under the default configuration.  What carries over to the others is the
  shape of the graph (`Definition.exists_compile`).
-/
import Flowgraph.Command
import Flowgraph.Proofs.Builtin.Calls

namespace Flowgraph

open Builtin (registry routerKinds)

/-! ### Files -/

theorem readText_of_read {w : Workspace} {path text : String}
    (h : w.read path = .ok text.toUTF8) : w.readText path = .ok text := by
  have htext : String.fromUTF8? text.toUTF8 = some text := dif_pos text.isValidUTF8
  rw [Workspace.readText, h]
  simp only [bind, Except.bind, htext]
  rfl

theorem loadDefinition_of_read {w : Workspace} {path text : String}
    (h : w.read path = .ok text.toUTF8) :
    loadDefinition w path = (Definition.ofText text).mapError .definition := by
  rw [loadDefinition, readText_of_read h]
  rfl

/-! ### Commands one after the other -/

namespace Attempt

variable {α β : Type} {a : Attempt α} {next : α → Attempt β}

theorem result_andThen (a : Attempt α) (next : α → Attempt β) :
    (a.andThen next).result = a.result >>= fun value => (next value).result := by
  unfold andThen
  cases a.result <;> rfl

theorem log_andThen {value : α} (h : a.result = .ok value) :
    (a.andThen next).log = a.log ++ (next value).log := by
  unfold andThen
  rw [h]

end Attempt

variable {c : Config} {d : Definition} {p : Plan} {s : State}

theorem compileDefinition_eq_ok_iff :
    (compileDefinition d c).result = .ok p ↔ (d.compile registry c.policy).2 = .ok p :=
  mapError_eq_ok_iff

theorem runWithConfig_of_compile (h : (d.compile registry c.policy).2 = .ok p) :
    (runWithConfig c d s).result = (p.invoke .fresh s).ending.result ∧
      (runWithConfig c d s).log = (d.compile registry c.policy).1 ++
        .compiled p.start p.size c.maxAttempts.toNat :: (p.invoke .fresh s).log := by
  have hresult := compileDefinition_eq_ok_iff.2 h
  constructor
  · rw [runWithConfig, Attempt.result_andThen, hresult]
    rfl
  · exact Attempt.log_andThen hresult

/-! ### The routers of the summary -/

variable {g : Graph} {policy : RetryPolicy}

/-- The routes of an entry are the conditions of its edges if it is a router, and else it has
    none. -/
theorem routes?_of_graph (hg : d.graph registry policy = .ok g) (hbuild : g.build policy = .ok p)
    {n : NodeSpec} (hn : n ∈ d.nodes) :
    (p.routes? n.id).map (fun t => t.conditions.map some) =
      if n.kind ∈ routerKinds then some ((d.edges.filter (·.source = n.id)).map (·.condition))
      else none := by
  obtain ⟨node, hnode, hid, hkind⟩ := Builtin.isRouter_iff_of_graph hg hn
  rw [← hid]
  split
  · next hrouter =>
    obtain ⟨choose, routes, -, hconditions, -, hstep⟩ :=
      Graph.branch_of_build hbuild hnode (hkind.2 hrouter)
    rw [Plan.routes?, hstep, ← Definition.edges_of_graph hg]
    exact congrArg some hconditions
  · next hordinary =>
    have hfalse : node.isRouter = false := by
      rw [← Bool.not_eq_true, hkind]
      exact hordinary
    obtain ⟨run, next, -, hstep⟩ := Graph.work_of_build hbuild hnode hfalse
    rw [Plan.routes?, hstep]
    rfl

theorem routers_ofPlan (hg : d.graph registry policy = .ok g) (hbuild : g.build policy = .ok p) :
    (Summary.ofPlan d p).routers.map (fun r => (r.1, r.2.map some)) =
      (d.nodes.filter (·.kind ∈ routerKinds)).map fun n =>
        (n.id, (d.edges.filter (·.source = n.id)).map (·.condition)) := by
  rw [Summary.ofPlan, List.map_filterMap]
  conv_rhs => rw [← List.filterMap_eq_map, List.filterMap_filter]
  refine List.filterMap_congr fun n hn => ?_
  have hroutes := congrArg (Option.map fun conditions => (n.id, conditions))
    (routes?_of_graph hg hbuild hn)
  rw [Option.map_map] at hroutes ⊢
  refine hroutes.trans ?_
  by_cases hkind : n.kind ∈ routerKinds <;> simp [hkind]

theorem mem_routers_iff (hg : d.graph registry policy = .ok g) (hbuild : g.build policy = .ok p)
    {id : String} : id ∈ (Summary.ofPlan d p).routers.map (·.1) ↔
      ∃ n ∈ d.nodes, n.kind ∈ routerKinds ∧ n.id = id := by
  have hids := congrArg (List.map Prod.fst) (routers_ofPlan hg hbuild)
  simp only [List.map_map, Function.comp_def] at hids
  rw [hids]
  simp [and_assoc]

/-! ### Runs of a definition that compiles -/

theorem retryOn_executionFailed (c : Config) (message : String) :
    c.policy.retryOn (.executionFailed message) = false := rfl

theorem ending_of_compile (h : (d.compile registry c.policy).2 = .ok p) (s : State) :
    (∃ s' steps, (p.invoke .fresh s).ending = .completed s' steps) ∨
      Builtin.FailsAtRouter d (p.invoke .fresh s).ending := by
  obtain ⟨g, hg, hbuild⟩ := Definition.compile_eq_ok_iff.1 h
  obtain ⟨walk, ending, hstops⟩ := (Graph.sound_of_build hbuild).exists_stops c.policy .fresh s
  have hending : (p.invoke .fresh s).ending = ending :=
    (Graph.loop_of_stops hbuild hstops {}).ending_eq
  rw [hending]
  exact Builtin.ending_of_stops hg (retryOn_executionFailed c) hstops

theorem ends_of_compile (h : (d.compile registry c.policy).2 = .ok p) (s : State) :
    (∃ s', (runWithConfig c d s).result = .ok s') ∨ ∃ n ∈ d.nodes, n.kind ∈ routerKinds ∧
      ((∃ condition, (runWithConfig c d s).result = .error (.run (.routing n.id condition))) ∨
        ∃ message, (runWithConfig c d s).result =
          .error (.run (.node n.id 1 (.executionFailed message)))) := by
  rw [(runWithConfig_of_compile h).1]
  rcases ending_of_compile h s with ⟨s', steps, hending⟩ | ⟨n, hn, hkind, hfails⟩
  · rw [hending]
    exact .inl ⟨s', rfl⟩
  · refine .inr ⟨n, hn, hkind, ?_⟩
    rcases hfails with ⟨condition, hending⟩ | ⟨message, hending⟩
    · rw [hending]
      exact .inl ⟨condition, rfl⟩
    · rw [hending]
      exact .inr ⟨message, rfl⟩

theorem retrying_notMem_runWithConfig (h : (d.compile registry c.policy).2 = .ok p) (s : State)
    (id : String) (retry : Retry) (budget : Nat) :
    LogEvent.retrying id retry budget ∉ (runWithConfig c d s).log := by
  intro hmem
  obtain ⟨g, hg, hbuild⟩ := Definition.compile_eq_ok_iff.1 h
  rw [(runWithConfig_of_compile h).2] at hmem
  rcases List.mem_append.1 hmem with hmem | hmem
  · obtain ⟨id', kind, heq⟩ := Registry.mem_createNodes_fst hmem
    cases heq
  · rcases List.mem_cons.1 hmem with heq | hmem
    · cases heq
    · obtain ⟨id', step, s', hstep, hfails, hretry⟩ := Plan.fails_of_retrying hmem
      rw [Builtin.retryOn_of_fails hg hbuild (retryOn_executionFailed c) hstep hfails] at hretry
      cases hretry

/-! ### Valid definitions -/

/-- What the summary of a valid definition tells of its nodes and of its runs. -/
structure Validated (d : Definition) (summary : Summary) : Prop where
  /-- The routers in the order of the definition, with the conditions of their edges in order. -/
  routers_eq : summary.routers.map (fun r => (r.1, r.2.map some)) =
    (d.nodes.filter (·.kind ∈ routerKinds)).map fun n =>
      (n.id, (d.edges.filter (·.source = n.id)).map (·.condition))
  ordinary : ∀ n ∈ d.nodes, n.kind ∉ routerKinds → n.id ∉ summary.routers.map (·.1)
  compiles : ∀ c, ∃ p, (compileDefinition d c).result = .ok p
  ends : ∀ c s, (∃ s', (runWithConfig c d s).result = .ok s') ∨
    ∃ id ∈ summary.routers.map (·.1),
      (∃ condition, (runWithConfig c d s).result = .error (.run (.routing id condition))) ∨
      ∃ message, (runWithConfig c d s).result =
        .error (.run (.node id 1 (.executionFailed message)))
  never_retries : ∀ c s id retry budget,
    LogEvent.retrying id retry budget ∉ (runWithConfig c d s).log

theorem exists_ofPlan_of_validate {w : Workspace} {path : String} {summary : Summary}
    (h : (validate w path).result = .ok summary) :
    ∃ d p, loadDefinition w path = .ok d ∧
      (d.compile registry (Config.policy {})).2 = .ok p ∧ summary = .ofPlan d p := by
  rw [validate, Attempt.result_andThen] at h
  obtain ⟨d, hd, h⟩ := bind_eq_ok_iff.1 h
  rw [Attempt.result_andThen] at h
  obtain ⟨p, hp, h⟩ := bind_eq_ok_iff.1 h
  cases h
  exact ⟨d, p, hd, compileDefinition_eq_ok_iff.1 hp, rfl⟩

/-- A definition in a file that is found valid compiles under every configuration; its runs fail
    at a router or not at all, and retry nothing. -/
theorem validated_of_validate {w : Workspace} {path : String} {summary : Summary}
    (h : (validate w path).result = .ok summary) :
    ∃ d, loadDefinition w path = .ok d ∧ Validated d summary := by
  obtain ⟨d, p, hd, hp, rfl⟩ := exists_ofPlan_of_validate h
  obtain ⟨g, hg, hbuild⟩ := Definition.compile_eq_ok_iff.1 hp
  have hcompile : ∀ c : Config, ∃ p', (d.compile registry c.policy).2 = .ok p' :=
    fun c => Definition.exists_compile hp c.policy
  refine ⟨d, hd, ?_⟩
  constructor
  case routers_eq => exact routers_ofPlan hg hbuild
  case ordinary =>
    intro n hn hkind hmem
    obtain ⟨n', hn', hkind', hid⟩ := (mem_routers_iff hg hbuild).1 hmem
    have hnodup := Definition.nodup_of_graph hg (Graph.sound_of_build hbuild)
    obtain rfl := List.inj_on_of_nodup_map hnodup hn' hn hid
    exact hkind hkind'
  case compiles =>
    intro c
    obtain ⟨p', hp'⟩ := hcompile c
    exact ⟨p', compileDefinition_eq_ok_iff.2 hp'⟩
  case ends =>
    intro c s
    obtain ⟨p', hp'⟩ := hcompile c
    rcases ends_of_compile hp' s with hok | ⟨n, hn, hkind, hfails⟩
    · exact .inl hok
    · exact .inr ⟨n.id, (mem_routers_iff hg hbuild).2 ⟨n, hn, hkind, rfl⟩, hfails⟩
  case never_retries =>
    intro c s id retry budget
    obtain ⟨p', hp'⟩ := hcompile c
    exact retrying_notMem_runWithConfig hp' s id retry budget

/-- A file with a router that knows one word and has no default. -/
def hotlineText : String :=
  "\x7b\"start\":\"ask\",\"end\":\"end\",\"nodes\":[" ++
  "\x7b\"id\":\"ask\",\"kind\":\"keyword_router\",\"params\":\x7b\"keywords\":[\"bug\"]\x7d\x7d," ++
  "\x7b\"id\":\"end\",\"kind\":\"end\"\x7d]," ++
  "\"edges\":[\x7b\"source\":\"ask\",\"target\":\"end\",\"condition\":\"bug\"\x7d]\x7d"

theorem validated_of_validate_hotline :
    let w : Workspace := ⟨[], fun _ => .ok hotlineText.toUTF8, none⟩
    let summary : Summary := ⟨"ask", "end", 2, [("ask", ["bug"])]⟩
    (validate w "hotline.json").result = .ok summary ∧
      ∃ d, loadDefinition w "hotline.json" = .ok d ∧ Validated d summary := by
  intro w summary
  have hany : (validate w "hotline.json").result.toOption.any (· = summary) = true := by
    rw [validate, loadDefinition_of_read rfl]
    decide +kernel
  obtain ⟨summary', hvalid, heq⟩ := exists_eq_ok_of_any hany
  obtain rfl : summary' = summary := of_decide_eq_true heq
  exact ⟨hvalid, validated_of_validate hvalid⟩

end Flowgraph
