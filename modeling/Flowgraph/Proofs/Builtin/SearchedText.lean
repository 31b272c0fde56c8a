/-
  Flowgraph/Proofs/Builtin/SearchedText.lean
  ==========================================
  **The text that a keyword router searches** — the router looks for a history under every node
  with an edge to it, in the order of the edges, and not under the one that the run came from.
  Still what it finds is the output of the ordinary node that ran last
  (`searches_input_of_compile`).

  An ordinary node has a single edge, and no run comes to a node twice.  So when a run is at the
  router, no ordinary node with an edge to it can have run but the one just before
  (`Course.latest_of_mem_feeding`); a run that has not begun with histories finds none under the others.
-/
import Flowgraph.Proofs.Builtin.Histories
import Flowgraph.Proofs.Run.Represents

namespace Flowgraph

open Builtin (Keywords chooser registry routerKinds searched)

/-! ### The latest of the ordinary nodes -/

def Milestone.worker? : Milestone → Option String
  | worked node _ => some node
  | routed .. => none

/-- The ordinary node whose step was completed last. -/
def latest? (done : List Milestone) : Option String := (done.filterMap Milestone.worker?).getLast?

section Latest

variable {done : List Milestone} {node : String}

theorem latest?_worked (s : State) : latest? (done ++ [.worked node s]) = some node := by
  simp [latest?, Milestone.worker?]

theorem latest?_routed (decision : Decision) :
    latest? (done ++ [.routed node decision]) = latest? done := by
  simp [latest?, Milestone.worker?]

end Latest

namespace Graph

variable {g : Graph} {policy : RetryPolicy} {session : Session} {state s : State}
variable {done : List Milestone} {walk : List Edge} {id : String}

theorem Course.eq_of_latest?_eq_none (hc : g.Course policy session state done walk id s)
    (hlatest : latest? done = none) : s = state := by
  induction hc with
  | start => rfl
  | work =>
    rw [latest?_worked] at hlatest
    cases hlatest
  | branch _ _ _ _ ih =>
    rw [latest?_routed] at hlatest
    exact ih hlatest

/-- An ordinary node on the way that feeds the one where the course has come is the one just
    before. -/
theorem Course.latest_of_mem_feeding (hc : g.Course policy session state done walk id s)
    (hsound : g.Sound) {n : Node} (hn : n ∈ g.nodes)
    (hordinary : n.isRouter = false) (hdone : n.id ∈ done.map (·.node))
    (hfeeds : n.id ∈ g.feeding id) : latest? done = some n.id := by
  -- a course that left the node before its last step would have been here already
  have hfront : ∀ {front : List Edge} {e : Edge}, g.Walk g.start (front ++ [e]) e.target →
      n.id ∈ g.feeding e.target → n.id ∉ front.map (·.source) := by
    intro front e hwalk hfeeds hmem
    obtain ⟨e', he', hsource⟩ := List.mem_map.1 hmem
    have hedge := hwalk.mem_edges (List.mem_append_left _ he')
    have htarget := hsound.target_eq_of_mem_feeding hn hordinary hfeeds hedge hsource
    exact Acyclic.target_ne_of_mem_front hsound.acyclic hwalk e' he' htarget
  have hwalk := hc.journey.walk
  cases hc with
  | start => cases hdone
  | @work done front m _ _ _ _ hc =>
    rw [List.map_append, hc.nodes_eq] at hdone
    rcases List.mem_append.1 hdone with hmem | hlast
    · exact absurd hmem (hfront hwalk hfeeds)
    · rw [List.mem_singleton.1 hlast]
      exact latest?_worked _
  | @branch done front m _ _ _ _ hc hasks =>
    rw [List.map_append, hc.nodes_eq] at hdone
    rcases List.mem_append.1 hdone with hmem | hlast
    · exact absurd hmem (hfront hwalk hfeeds)
    · obtain ⟨hm, choose, hcall, -⟩ := hasks
      obtain rfl := eq_of_id_eq hsound.ids_nodup hn hm (List.mem_singleton.1 hlast)
      rw [Node.isRouter_eq_true_iff.2 ⟨choose, hcall⟩] at hordinary
      cases hordinary

end Graph

namespace Definition

variable {d : Definition} {policy : RetryPolicy} {g : Graph} {p : Plan} {session : Session}
variable {state s : State} {done : List Milestone} {walk : List Edge} {id m : String}

/-- The latest output is that of the ordinary node that ran last, and all of its history. -/
theorem outputsOf_latest (hg : d.graph registry policy = .ok g) (hsound : g.Sound)
    (hspares : d.SparesHistories) (hempty : ∀ name, state.outputsOf name = [])
    (hc : g.Course policy session state done walk id s) (hlatest : latest? done = some m) :
    ∃ output, s.outputsOf m = [output] ∧ s.lastOutput = some output := by
  induction hc with
  | start => cases hlatest
  | @work done _ n _ s' _ _ hc hworks _ _ =>
    rw [latest?_worked] at hlatest
    cases hlatest
    have hbefore := leaves_of_course hg hsound hspares hc
    obtain ⟨hleaves, output, hlast, hhistory⟩ := leaves_of_works hg hsound hspares hc hbefore hworks
    obtain ⟨entry, hentry, hid, hordinary, -⟩ := Builtin.works_of_graph hg hworks
    obtain ⟨output', heq⟩ := hleaves.recorded entry hentry hordinary (by simp [hid])
    rw [hid, hempty, List.nil_append] at heq
    rw [heq, List.getLast?_singleton] at hhistory
    obtain rfl := Option.some.inj hhistory
    exact ⟨_, heq, hlast⟩
  | branch _ _ _ _ ih =>
    rw [latest?_routed] at hlatest
    exact ih hlatest

/-! ### What the router finds -/

/-- What a router searches on a state that a run has come to it with, after some steps. -/
structure FindsInput (incoming : List String) (state : State) (done : List Milestone)
    (s : State) : Prop where
  searched_eq : searched s incoming = s.inputText
  /-- If no ordinary node ran, it is the input of the run. -/
  input : latest? done = none → s.inputText = state.inputText
  /-- If one did, it is the output of the latest, which has just this one. -/
  output : ∀ m, latest? done = some m →
    ∃ output, s.outputsOf m = [output] ∧ s.lastOutput = some output ∧
      s.inputText = output.plainText
  /-- The nodes with an edge to the router have no other history to be found. -/
  only : ∀ m ∈ incoming, s.outputsOf m ≠ [] → latest? done = some m

theorem outputsOf_eq_nil (hstate : state.contains State.outputsKey = false) (name : String) :
    state.outputsOf name = [] := by
  rw [State.contains, Fields.contains, Option.isSome_eq_false_iff, Option.isNone_iff_eq_none]
    at hstate
  rw [State.outputsOf, State.get?, hstate]
  rfl

/-- Of the nodes that feed the router, only the ordinary one that ran last has a history. -/
theorem latest_of_outputsOf_ne_nil (hg : d.graph registry policy = .ok g) (hsound : g.Sound)
    (hspares : d.SparesHistories) (hempty : ∀ name, state.outputsOf name = [])
    (hc : g.Course policy session state done walk id s) (hfeeds : m ∈ g.feeding id)
    (hhistory : s.outputsOf m ≠ []) : latest? done = some m := by
  have hleaves := leaves_of_course hg hsound hspares hc
  obtain ⟨n, hn, hordinary, hdone, rfl⟩ : ∃ n ∈ d.nodes, n.kind ∉ routerKinds ∧
      n.id ∈ done.map (·.node) ∧ n.id = m := by
    by_contra hnone
    apply hhistory
    rw [hleaves.outputsOf_eq, hempty]
    intro n hn hordinary hdone heq
    exact hnone ⟨n, hn, hordinary, hdone, heq⟩
  obtain ⟨node, hnode, hid, hkind⟩ := Builtin.isRouter_iff_of_graph hg hn
  rw [← hid] at hdone hfeeds ⊢
  apply hc.latest_of_mem_feeding hsound hnode _ hdone hfeeds
  rw [← Bool.not_eq_true, hkind]
  exact hordinary

theorem findsInput_of_course (hg : d.graph registry policy = .ok g) (hsound : g.Sound)
    (hspares : d.SparesHistories) (hstate : state.contains State.outputsKey = false)
    (hc : g.Course policy session state done walk id s) :
    FindsInput (g.feeding id) state done s := by
  have hempty := outputsOf_eq_nil hstate
  have hlatest : ∀ m, latest? done = some m →
      ∃ output, s.outputsOf m = [output] ∧ s.lastOutput = some output :=
    fun m => outputsOf_latest hg hsound hspares hempty hc
  have honly : ∀ m ∈ g.feeding id, s.outputsOf m ≠ [] → latest? done = some m :=
    fun m => latest_of_outputsOf_ne_nil hg hsound hspares hempty hc
  constructor
  case searched_eq =>
    unfold searched State.inputText
    cases hfound : s.outputFromAny (g.feeding id) with
    | none => rw [Option.none_or]
    | some found =>
      obtain ⟨m, hm, hhistory⟩ := List.exists_of_findSome?_eq_some hfound
      have hne : s.outputsOf m ≠ [] := by
        intro hnil
        rw [hnil] at hhistory
        cases hhistory
      obtain ⟨output, heq, hlast⟩ := hlatest m (honly m hm hne)
      rw [heq] at hhistory
      cases hhistory
      rw [hlast]
      rfl
  case input =>
    intro hnone
    rw [hc.eq_of_latest?_eq_none hnone]
  case output =>
    intro m hm
    obtain ⟨output, heq, hlast⟩ := hlatest m hm
    refine ⟨output, heq, hlast, ?_⟩
    rw [State.inputText, hlast]
    rfl
  case only => exact honly

/-! ### Whole runs -/

/-- What a keyword router does in the runs of a plan: it calls the function that searches, with
    the nodes that feed it, and whenever a run comes to it that finds the input. -/
structure SearchesInput (g : Graph) (policy : RetryPolicy) (p : Plan) (session : Session)
    (state : State) (n : NodeSpec) : Prop where
  callable_eq : ∃ params, n.readParams Keywords.record.decode = .ok params ∧
    (p.step? n.id).map (·.action.callable) = some (chooser params.choose)
  incoming_eq : p.incoming? n.id = some (g.feeding n.id)
  /-- Each time that a run enters the router it has come on a course of the graph. -/
  comes : ∀ before after, (p.invoke session state).entered = before ++ n.id :: after ∨
      (∃ modes, (p.stream modes session state).entered = before ++ n.id :: after) →
    ∃ done walk s, walk.map (·.source) = before ∧
      g.Course policy session state done walk n.id s
  course : ∀ done walk s, g.Course policy session state done walk n.id s →
    (∀ modes, ∃ session', g.Comes policy p modes session state done walk session' n.id s) ∧
    FindsInput (g.feeding n.id) state done s

/-- The keyword routers of a definition search the input, in every run on a state without
    histories. -/
theorem searches_input_of_compile (h : (d.compile registry policy).2 = .ok p)
    (hspares : d.SparesHistories) (hstate : state.contains State.outputsKey = false)
    (session : Session) :
    ∃ g, d.graph registry policy = .ok g ∧ g.build policy = .ok p ∧
      ∀ n ∈ d.nodes, n.kind = "keyword_router" →
        SearchesInput g policy p session state n := by
  obtain ⟨g, hg, hbuild⟩ := compile_eq_ok_iff.1 h
  have hsound := Graph.sound_of_build hbuild
  refine ⟨g, hg, hbuild, fun n hn hkind => ?_⟩
  obtain ⟨callable, hcreate, hmem⟩ := exists_node_of_graph hg hn
  obtain ⟨params, hparams, rfl⟩ := Builtin.keywords_of_create hcreate hkind
  constructor
  case callable_eq =>
    obtain ⟨action, haction, hstep⟩ := Graph.step?_of_build hbuild hmem
    refine ⟨params, hparams, ?_⟩
    rw [NodeSpec.toNode] at hstep
    rw [hstep]
    exact congrArg some (Graph.callable_of_actionOf haction)
  case incoming_eq => exact Graph.incoming?_of_build hbuild hmem rfl
  case comes =>
    intro before after hentered
    obtain ⟨walk, ending, hstops⟩ := hsound.exists_stops policy session state
    obtain ⟨id, s, hj⟩ := hstops.exists_journey
    have hvisits : Graph.visits g.start walk = before ++ n.id :: after := by
      rcases hentered with hentered | ⟨modes, hentered⟩
      · rwa [Graph.entered_invoke, (Graph.loop_of_stops hbuild hstops {}).entered_eq] at hentered
      · rwa [Graph.entered_stream, (Graph.loop_of_stops hbuild hstops modes).entered_eq]
          at hentered
    obtain ⟨walk', s', hj', hbefore⟩ := hj.exists_of_visits_eq hvisits
    obtain ⟨done, hc⟩ := hj'.exists_course
    exact ⟨done, walk', s', hbefore, hc⟩
  case course =>
    intro done walk s hc
    exact ⟨fun modes => Graph.comes_of_course hbuild modes hc,
      findsInput_of_course hg hsound hspares hstate hc⟩

/-- The node that the run did not come by stands first among those that feed the router. -/
theorem searches_input_of_compile_desk :
    let state := State.ofInput (.str "a bug")
    ∃ (p : Plan) (g : Graph) (done : List Milestone) (walk : List Edge) (s : State),
      (desk.compile registry {}).2 = .ok p ∧ walk.map (·.source) = ["start", "ask", "bug"] ∧
      g.Course {} .fresh state done walk "check" s ∧ g.feeding "check" = ["other", "bug"] ∧
      FindsInput ["other", "bug"] state done s := by
  intro state
  have hany : (desk.compile registry {}).2.toOption.any (fun p =>
      (p.invoke .fresh state).entered = ["start", "ask", "bug", "check", "end"] ∧
        p.incoming? "check" = some ["other", "bug"]) = true := by decide +kernel
  obtain ⟨p, hp, hrun⟩ := exists_eq_ok_of_any hany
  obtain ⟨hentered, hincoming⟩ := of_decide_eq_true hrun
  have hstate : state.contains State.outputsKey = false := by decide +kernel
  obtain ⟨g, -, -, hall⟩ := searches_input_of_compile hp desk_sparesHistories hstate .fresh
  have hcheck : desk.nodes[4] ∈ desk.nodes := by simp
  obtain ⟨-, hfeeding, hcomes, hcourse⟩ := hall _ hcheck rfl
  obtain ⟨done, walk, s, hwalk, hc⟩ := hcomes ["start", "ask", "bug"] ["end"] (.inl hentered)
  have hfed : g.feeding "check" = ["other", "bug"] :=
    Option.some.inj (hfeeding.symm.trans hincoming)
  have hsearches := (hcourse done walk s hc).2
  change FindsInput (g.feeding "check") state done s at hsearches
  rw [hfed] at hsearches
  exact ⟨p, g, done, walk, s, hp, hwalk, hc, hfed, hsearches⟩

end Definition

end Flowgraph
