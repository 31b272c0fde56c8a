/-
  Flowgraph/Proofs/Run/Delays.lean
  ================================
  **Errors that are retried in time leave no trace** — a node may fail a few times before it
  answers.  As long as its policy retries these errors and allows one more call, a run is the
  same as if the node had answered at once (`runs_alike_of_delays`); only a node that fails for
  good is reported with more attempts.

  The two runs are those of one graph with different callables (`Graph.recast`).  The course of
  the first run is a course of the second (`course_recast`), and it stops in the same way
  (`stops_recast`).
-/
import Flowgraph.Proofs.Graph.Shape
import Flowgraph.Proofs.Run.Decisions

namespace Flowgraph

/-! ### Answers after some failures -/

namespace RetryPolicy

variable {α : Type} {p : RetryPolicy} {call : Nat → Outcome α} {j : Nat} {answer : Outcome α}

/-- The first `j` calls fail with errors that the policy retries, the next one gives the answer,
    and the policy lets that stand. -/
structure AnswersAfter (p : RetryPolicy) (call : Nat → Outcome α) (j : Nat) (answer : Outcome α) :
    Prop where
  lt_budget : j < p.budget
  retried : ∀ i, 0 < i → i ≤ j → ∃ error, call i = .failed error ∧ p.retryOn error = true
  answers : call (j + 1) = answer
  stands : ∀ error, answer = .failed error → p.retryOn error = false

theorem AnswersAfter.attempts (h : p.AnswersAfter call j answer) :
    p.Attempts call (j + 1) answer := by
  refine ⟨Nat.succ_pos j, h.lt_budget, h.answers, ?_, ?_⟩
  · intro i hpos hlt
    exact h.retried i hpos (Nat.le_of_lt_succ hlt)
  · intro error herror
    exact .inr (h.stands error herror)

end RetryPolicy

/-- What a node answers to its input, however often it is called. -/
inductive Answer
  | ordinary (run : State → Outcome State)
  | router (choose : State → List String → Outcome String)

/-- From a session on, the node answers whatever its input after `j` calls that fail. -/
def Node.AnswersAfter (policy : RetryPolicy) (session : Session) (n : Node) (j : Nat) :
    Answer → Prop
  | .ordinary result => ∃ run, n.callable = .ordinary run ∧
      ∀ s, policy.AnswersAfter (session.outcomes n.id fun i => run i s) j (result s)
  | .router result => ∃ choose, n.callable = .router choose ∧
      ∀ s incoming, policy.AnswersAfter (session.outcomes n.id fun i => choose i s incoming) j
        (result s incoming)

def Node.recast (n : Node) (callable : Callable) : Node := { n with callable }

/-- An ending in which a node that fails for good has failed so many times more. -/
def Run.Ending.delayed (delays : String → Nat) : Run.Ending → Run.Ending
  | .failed (.node id k error) => .failed (.node id (delays id + k) error)
  | ending => ending

namespace Graph

def AnswersAfter (g : Graph) (policy : RetryPolicy) (session : Session) (delays : String → Nat)
    (answers : String → Answer) : Prop :=
  ∀ n ∈ g.nodes, n.AnswersAfter (policyOf policy n) session (delays n.id) (answers n.id)

/-- The graph with other callables at its nodes. -/
def recast (g : Graph) (callable : Node → Callable) : Graph :=
  { g with nodes := g.nodes.map fun n => n.recast (callable n) }

variable {g : Graph} {policy : RetryPolicy} {session session' : Session} {state s : State}
variable {delays delays' : String → Nat} {answers : String → Answer} {callable : Node → Callable}
variable {n : Node} {k : Nat}

theorem mem_recast (hn : n ∈ g.nodes) :
    n.recast (callable n) ∈ (g.recast callable).nodes :=
  List.mem_map.2 ⟨n, hn, rfl⟩

/-! ### The calls of a node -/

theorem AnswersAfter.of_works (h : g.AnswersAfter policy session delays answers)
    {last : Outcome State} (hworks : g.Works policy session n s k last) :
    k = delays n.id + 1 ∧ ∃ result, answers n.id = .ordinary result ∧ last = result s := by
  obtain ⟨hn, run, hcall, hlast⟩ := hworks
  have hanswer := h n hn
  cases hresult : answers n.id with
  | ordinary result =>
    rw [hresult] at hanswer
    obtain ⟨run', hcall', hcalls⟩ := hanswer
    cases hcall.symm.trans hcall'
    obtain ⟨hk, heq⟩ := hlast.unique (hcalls s).attempts
    exact ⟨hk, result, rfl, heq⟩
  | router result =>
    rw [hresult] at hanswer
    obtain ⟨choose, hcall', -⟩ := hanswer
    cases hcall.symm.trans hcall'

theorem AnswersAfter.of_asks (h : g.AnswersAfter policy session delays answers)
    {last : Outcome String} (hasks : g.Asks policy session n s k last) :
    k = delays n.id + 1 ∧
      ∃ result, answers n.id = .router result ∧ last = result s (g.feeding n.id) := by
  obtain ⟨hn, choose, hcall, hlast⟩ := hasks
  have hanswer := h n hn
  cases hresult : answers n.id with
  | ordinary result =>
    rw [hresult] at hanswer
    obtain ⟨run, hcall', -⟩ := hanswer
    cases hcall.symm.trans hcall'
  | router result =>
    rw [hresult] at hanswer
    obtain ⟨choose', hcall', hcalls⟩ := hanswer
    cases hcall.symm.trans hcall'
    obtain ⟨hk, heq⟩ := hlast.unique (hcalls s (g.feeding n.id)).attempts
    exact ⟨hk, result, rfl, heq⟩

theorem AnswersAfter.works (h : g.AnswersAfter policy session delays answers) (hn : n ∈ g.nodes)
    {result : State → Outcome State} (hresult : answers n.id = .ordinary result) (s : State) :
    g.Works policy session n s (delays n.id + 1) (result s) := by
  have hanswer := h n hn
  rw [hresult] at hanswer
  obtain ⟨run, hcall, hcalls⟩ := hanswer
  exact ⟨hn, run, hcall, (hcalls s).attempts⟩

theorem AnswersAfter.asks (h : g.AnswersAfter policy session delays answers) (hn : n ∈ g.nodes)
    {result : State → List String → Outcome String} (hresult : answers n.id = .router result)
    (s : State) :
    g.Asks policy session n s (delays n.id + 1) (result s (g.feeding n.id)) := by
  have hanswer := h n hn
  rw [hresult] at hanswer
  obtain ⟨choose, hcall, hcalls⟩ := hanswer
  exact ⟨hn, choose, hcall, (hcalls s (g.feeding n.id)).attempts⟩

/-! ### From the one graph to the other -/

section Recast

variable (h : g.AnswersAfter policy session (fun _ => 0) answers)
variable (h' : (g.recast callable).AnswersAfter policy session' delays answers)

include h h'

theorem works_recast {last : Outcome State} (hworks : g.Works policy session n s k last) :
    k = 1 ∧ (g.recast callable).Works policy session' (n.recast (callable n)) s
      (delays n.id + 1) last := by
  obtain ⟨hk, result, hresult, rfl⟩ := h.of_works hworks
  exact ⟨hk, h'.works (mem_recast hworks.1) hresult s⟩

theorem asks_recast {last : Outcome String} (hasks : g.Asks policy session n s k last) :
    k = 1 ∧ (g.recast callable).Asks policy session' (n.recast (callable n)) s
      (delays n.id + 1) last := by
  obtain ⟨hk, result, hresult, rfl⟩ := h.of_asks hasks
  exact ⟨hk, h'.asks (mem_recast hasks.1) hresult s⟩

theorem course_recast {done : List Milestone} {walk : List Edge} {id : String}
    (hc : g.Course policy session state done walk id s) :
    (g.recast callable).Course policy session' state done walk id s := by
  induction hc with
  | start => exact .start
  | work _ hworks hout ih =>
    have hworks' := (works_recast h h' hworks).2
    exact .work (n := .recast _ (callable _)) ih hworks' hout
  | branch _ hasks he hcondition ih =>
    have hasks' := (asks_recast h h' hasks).2
    exact .branch (n := .recast _ (callable _)) ih hasks' he hcondition

theorem journey_recast {walk : List Edge} {id : String}
    (hj : g.Journey policy session state walk id s) :
    (g.recast callable).Journey policy session' state walk id s := by
  obtain ⟨done, hc⟩ := hj.exists_course
  exact (course_recast h h' hc).journey

theorem stops_recast {walk : List Edge} {ending : Run.Ending}
    (hstops : g.Stops policy session state walk ending) :
    (g.recast callable).Stops policy session' state walk (ending.delayed delays) := by
  cases hstops with
  | completed hj hworks hid =>
    have hworks' := (works_recast h h' hworks).2
    exact .completed (n := .recast _ (callable _)) (journey_recast h h' hj) hworks' hid
  | workFailed hj hworks =>
    obtain ⟨rfl, hworks'⟩ := works_recast h h' hworks
    exact .workFailed (n := .recast _ (callable _)) (journey_recast h h' hj) hworks'
  | workPanicked hj hworks =>
    have hworks' := (works_recast h h' hworks).2
    exact .workPanicked (n := .recast _ (callable _)) (journey_recast h h' hj) hworks'
  | unmatched hj hasks hnone =>
    have hasks' := (asks_recast h h' hasks).2
    exact .unmatched (n := .recast _ (callable _)) (journey_recast h h' hj) hasks' hnone
  | askFailed hj hasks =>
    obtain ⟨rfl, hasks'⟩ := asks_recast h h' hasks
    exact .askFailed (n := .recast _ (callable _)) (journey_recast h h' hj) hasks'
  | askPanicked hj hasks =>
    have hasks' := (asks_recast h h' hasks).2
    exact .askPanicked (n := .recast _ (callable _)) (journey_recast h h' hj) hasks'

/-- A node that fails for good in the first run has been called once. -/
theorem attempts_eq_one {walk : List Edge} {id : String} {error : NodeError}
    (hstops : g.Stops policy session state walk (.failed (.node id k error))) : k = 1 := by
  cases hstops with
  | workFailed _ hworks => exact (works_recast h h' hworks).1
  | askFailed _ hasks => exact (asks_recast h h' hasks).1

theorem sameShape_recast : g.SameShape (g.recast callable) := by
  refine ⟨?_, rfl, rfl, rfl⟩
  rw [recast, List.map_map]
  refine List.map_congr_left fun n hn => Prod.ext rfl ?_
  have hfirst := h n hn
  have hsecond := h' _ (mem_recast hn)
  change Node.AnswersAfter _ _ _ _ (answers n.id) at hsecond
  cases hresult : answers n.id with
  | ordinary result =>
    rw [hresult] at hfirst hsecond
    obtain ⟨run, hcall, -⟩ := hfirst
    obtain ⟨run', hcall', -⟩ := hsecond
    exact (Node.isRouter_eq_false_iff.2 ⟨run', hcall'⟩).trans
      (Node.isRouter_eq_false_iff.2 ⟨run, hcall⟩).symm
  | router result =>
    rw [hresult] at hfirst hsecond
    obtain ⟨choose, hcall, -⟩ := hfirst
    obtain ⟨choose', hcall', -⟩ := hsecond
    exact (Node.isRouter_eq_true_iff.2 ⟨choose', hcall'⟩).trans
      (Node.isRouter_eq_true_iff.2 ⟨choose, hcall⟩).symm

end Recast

end Graph

/-! ### Both runs -/

/-- The second run differs from the first only in how often nodes were called. -/
structure Run.Alike (delays : String → Nat) (r r' : Run) : Prop where
  entered_eq : r'.entered = r.entered
  decided_eq : r'.decided = r.decided
  ending_eq : r'.ending = r.ending.delayed delays
  attempts_eq_one : ∀ id k error, r.ending = .failed (.node id k error) → k = 1

namespace Graph

variable {g : Graph} {policy : RetryPolicy} {p : Plan} {session session' : Session}
variable {delays : String → Nat} {answers : String → Answer} {callable : Node → Callable}

/-- Nodes that fail a few times in time before they answer make for the same run as nodes that
    answer at once, and for the same events. -/
theorem runs_alike_of_delays (hp : g.build policy = .ok p)
    (h : g.AnswersAfter policy session (fun _ => 0) answers)
    (h' : (g.recast callable).AnswersAfter policy session' delays answers) (state : State) :
    ∃ p', (g.recast callable).build policy = .ok p' ∧
      (p.invoke session state).Alike delays (p'.invoke session' state) ∧
      ∀ modes, (p.stream modes session state).Alike delays (p'.stream modes session' state) ∧
        ∃ told, (∀ node message, .failed node message ∉ told) ∧
          (p.stream modes session state).events =
            told ++ (Plan.closing (p.stream modes session state).ending).2 ∧
          (p'.stream modes session' state).events =
            told ++ (Plan.closing (p'.stream modes session' state).ending).2 := by
  obtain ⟨p', hp'⟩ := (sameShape_recast h h').exists_build hp policy
  obtain ⟨walk, ending, hstops⟩ := (sound_of_build hp).exists_stops policy session state
  obtain ⟨id, s, hj⟩ := hstops.exists_journey
  obtain ⟨done, hc⟩ := hj.exists_course
  -- one course, and one walk that both loops tell of
  have htells := tells_of_course hp hc hstops
  have htells' := tells_of_course hp' (course_recast h h' hc) (stops_recast h h' hstops)
  have hlast : (g.recast callable).lastMilestone (ending.delayed delays) =
      g.lastMilestone ending := by
    rcases ending with _ | ⟨_ | _ | _ | _ | _⟩ | _ <;> rfl
  rw [hlast] at htells'
  have halike : ∀ modes,
      (p.loop modes session state).Alike delays (p'.loop modes session' state) := by
    intro modes
    constructor
    case entered_eq => rw [(htells modes).entered_eq, (htells' modes).entered_eq]; rfl
    case decided_eq =>
      rw [p.decided_loop, p'.decided_loop, (htells .all).events_eq, (htells' .all).events_eq]
    case ending_eq => rw [(htells modes).ending_eq, (htells' modes).ending_eq]
    case attempts_eq_one =>
      intro id k error hending
      rw [(htells modes).ending_eq] at hending
      exact attempts_eq_one h h' (hending ▸ hstops)
  refine ⟨p', hp', ?_, fun modes => ⟨?_, ?_⟩⟩
  · obtain ⟨hentered, hdecided, hending, hattempts⟩ := halike {}
    rw [← entered_invoke, ← entered_invoke] at hentered
    rw [← p.decided_invoke, ← p'.decided_invoke] at hdecided
    exact ⟨hentered, hdecided, hending, hattempts⟩
  · obtain ⟨hentered, hdecided, hending, hattempts⟩ := halike modes
    rw [← entered_stream, ← entered_stream] at hentered
    rw [← p.decided_stream, ← p'.decided_stream] at hdecided
    exact ⟨hentered, hdecided, hending, hattempts⟩
  · refine ⟨modes.select (done ++ g.lastMilestone ending), modes.failed_notMem_select _, ?_, ?_⟩
    · exact (events_stream (htells modes)).trans (by rw [← (htells modes).ending_eq]; rfl)
    · exact (events_stream (htells' modes)).trans (by rw [← (htells' modes).ending_eq]; rfl)

/-- Its router always leads on, and its last node always fails. -/
def failing : Graph where
  nodes :=
    [{ id := "ask", label := "Ask", callable := .router fun _ _ _ => .ok "on" },
     { id := "last", label := "Last"
       callable := .ordinary fun _ _ => .failed (.executionFailed "no") }]
  edges := [⟨"ask", "last", some "on"⟩]
  start := "ask"
  finish := "last"

/-- The same after two calls of the router, and one of the last node, that came too fast. -/
def hurried (n : Node) : Callable :=
  if n.id = "ask" then
    .router fun i _ _ => if i < 2 then .failed (.rateLimited "wait") else .ok "on"
  else
    .ordinary fun i _ =>
      if i < 1 then .failed (.rateLimited "wait") else .failed (.executionFailed "no")

theorem runs_alike_of_delays_failing : ∃ p p', failing.build {} = .ok p ∧
    (failing.recast hurried).build {} = .ok p' ∧
    (p.invoke .fresh .empty).ending = .failed (.node "last" 1 (.executionFailed "no")) ∧
    (p'.invoke .fresh .empty).ending = .failed (.node "last" 2 (.executionFailed "no")) ∧
    (p'.invoke .fresh .empty).entered = (p.invoke .fresh .empty).entered := by
  have hany : (failing.build {}).toOption.any (fun p =>
      match (p.invoke .fresh .empty).ending with
      | .failed error => error = .node "last" 1 (.executionFailed "no")
      | _ => false) = true := by decide +kernel
  obtain ⟨p, hp, hfailed⟩ := exists_eq_ok_of_any hany
  have hending : (p.invoke .fresh .empty).ending =
      .failed (.node "last" 1 (.executionFailed "no")) := by
    revert hfailed
    cases (p.invoke .fresh .empty).ending with
    | failed error => intro h; rw [of_decide_eq_true h]
    | completed | panicked => intro h; cases h
  let answers : String → Answer := fun id =>
    if id = "ask" then .router fun _ _ => .ok "on"
    else .ordinary fun _ => .failed (.executionFailed "no")
  let delays : String → Nat := fun id => if id = "ask" then 2 else 1
  have h : failing.AnswersAfter {} .fresh (fun _ => 0) answers := by
    intro n hn
    simp only [failing, List.mem_cons, List.not_mem_nil, or_false] at hn
    rcases hn with rfl | rfl
    · refine ⟨_, rfl, fun s incoming => ⟨by decide, ?_, rfl, ?_⟩⟩
      · intro i hpos hle
        exact absurd hpos (Nat.not_lt.2 hle)
      · intro error herror
        cases herror
    · refine ⟨_, rfl, fun s => ⟨by decide, ?_, rfl, ?_⟩⟩
      · intro i hpos hle
        exact absurd hpos (Nat.not_lt.2 hle)
      · intro error herror
        cases herror
        rfl
  have h' : (failing.recast hurried).AnswersAfter {} .fresh delays answers := by
    intro n hn
    simp only [recast, failing, List.map_cons, List.map_nil, List.mem_cons, List.not_mem_nil,
      or_false] at hn
    rcases hn with rfl | rfl
    · refine ⟨_, rfl, fun s incoming => ⟨by decide, ?_, rfl, ?_⟩⟩
      · intro i hpos hle
        obtain rfl | rfl : i = 1 ∨ i = 2 := by
          change i ≤ 2 at hle
          omega
        · exact ⟨_, rfl, rfl⟩
        · exact ⟨_, rfl, rfl⟩
      · intro error herror
        cases herror
    · refine ⟨_, rfl, fun s => ⟨by decide, ?_, rfl, ?_⟩⟩
      · intro i hpos hle
        obtain rfl : i = 1 := by
          change i ≤ 1 at hle
          omega
        exact ⟨_, rfl, rfl⟩
      · intro error herror
        cases herror
        rfl
  obtain ⟨p', hp', ⟨hentered, -, hending', -⟩, -⟩ := runs_alike_of_delays hp h h' .empty
  rw [hending] at hending'
  exact ⟨p, p', hp, hp', hending, hending', hentered⟩

end Graph

end Flowgraph
