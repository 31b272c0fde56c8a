/-
  Flowgraph/Proofs/Graph/FirstFault.lean
  ======================================
  **Which faulty edge is told** — the edges are checked one after the other, each for its ends and
  then for its condition, and the first that fails decides the error of `Graph.build`
  (`build_of_first_fault`).

  So an edge without a node at one end is told only if no edge before it has a wrong condition:
  the ends of all edges are not checked before the conditions (`build_of_loose_edge`,
  `condition_before_loose_edge`).
-/
import Flowgraph.Proofs.Graph.Faults

namespace Flowgraph

/-- What is wrong with an edge that has a condition and leaves no router, or leaves one and has no
    condition. -/
def Edge.conditionFault (e : Edge) : BuildError :=
  match e.condition with
  | none => .missingCondition e.source e.target
  | some condition => .unexpectedCondition e.source e.target condition

/-- Of the members of a list that fail a test, one is the first. -/
theorem exists_first_not {α : Type} {p : α → Prop} {xs : List α} (h : ∃ x ∈ xs, ¬ p x) :
    ∃ before x after, xs = before ++ x :: after ∧ (∀ y ∈ before, p y) ∧ ¬ p x := by
  induction xs with
  | nil => simp at h
  | cons a xs ih =>
    by_cases ha : p a
    · obtain ⟨before, x, after, rfl, hbefore, hx⟩ := ih (by simpa [ha] using h)
      exact ⟨a :: before, x, after, rfl, List.forall_mem_cons.2 ⟨ha, hbefore⟩, hx⟩
    · exact ⟨[], a, xs, rfl, by simp, ha⟩

namespace Graph

variable {g : Graph} {e : Edge}

/-! ### Faults of one edge -/

/-- The edge joins nodes. -/
def Joins (g : Graph) (e : Edge) : Prop := e.source ∈ g.ids ∧ e.target ∈ g.ids

/-- The edge has a condition exactly if it leaves a router. -/
def Conditioned (g : Graph) (e : Edge) : Prop :=
  ∀ n ∈ g.nodes, n.id = e.source → (e.condition.isSome = true ↔ n.isRouter = true)

/-- The end of the edge at which no node is, the source before the target. -/
def looseEnd (g : Graph) (e : Edge) : String := if e.source ∈ g.ids then e.target else e.source

theorem checkEdge_of_not_joins (h : ¬ g.Joins e) :
    g.checkEdge e = .error (.nodeNotFound (g.looseEnd e)) := by
  unfold checkEdge looseEnd
  cases hsource : g.node? e.source with
  | none => rw [if_neg (node?_eq_none_iff.1 hsource)]
  | some n =>
    have hmem : e.source ∈ g.ids := by
      by_contra hmem
      rw [node?_eq_none_iff.2 hmem] at hsource
      cases hsource
    have htarget : e.target ∉ g.ids := fun htarget => h ⟨hmem, htarget⟩
    dsimp only
    rw [if_pos htarget, if_pos hmem]

/-- Nodes of one id being the same, the condition is right or wrong for the node that is found. -/
theorem conditioned_iff (hnodes : g.NodesSound) {n : Node} (hn : g.node? e.source = some n) :
    g.Conditioned e ↔ e.condition.isSome = n.isRouter := by
  obtain ⟨hmem, hid⟩ := (node?_eq_some_iff hnodes.ids_nodup).1 hn
  rw [Bool.eq_iff_iff]
  constructor
  · intro h
    exact h n hmem hid
  · intro h m hm hid'
    rw [eq_of_id_eq hnodes.ids_nodup hm hmem (hid'.trans hid.symm)]
    exact h

theorem checkEdge_of_not_conditioned (hnodes : g.NodesSound) (hjoins : g.Joins e)
    (h : ¬ g.Conditioned e) : g.checkEdge e = .error e.conditionFault := by
  cases hn : g.node? e.source with
  | none => exact absurd hjoins.1 (node?_eq_none_iff.1 hn)
  | some n =>
    rw [conditioned_iff hnodes hn] at h
    unfold checkEdge Edge.conditionFault
    rw [hn]
    dsimp only
    rw [if_neg (not_not.2 hjoins.2)]
    cases hrouter : n.isRouter <;> cases hcondition : e.condition
    · simp [hrouter, hcondition] at h
    · rfl
    · rfl
    · simp [hrouter, hcondition] at h

theorem checkEdge_of_conditioned (hnodes : g.NodesSound) (hjoins : g.Joins e)
    (h : g.Conditioned e) : g.checkEdge e = .ok () := by
  rw [checkEdge_eq_ok_iff]
  refine ⟨hjoins.2, ?_⟩
  cases hn : g.node? e.source with
  | none => exact absurd hjoins.1 (node?_eq_none_iff.1 hn)
  | some n => exact ⟨n, rfl, (conditioned_iff hnodes hn).1 h⟩

/-! ### The first faulty edge -/

/-- No check after that of an edge is made if the check fails. -/
theorem build_of_first_fault (hnodes : g.NodesSound) {before after : List Edge}
    (hedges : g.edges = before ++ e :: after)
    (hbefore : ∀ l ∈ before, g.Joins l ∧ g.Conditioned l) {error : BuildError}
    (h : g.checkEdge e = .error error) (policy : RetryPolicy) :
    g.build policy = .error error := by
  have hfirst : g.checkNodes = .ok () :=
    checkNodes_eq_ok_iff.2 ⟨hnodes.ids_nodup, hnodes.start_mem, hnodes.finish_mem⟩
  have hpass : ∀ l ∈ before, g.checkEdge l = .ok () := by
    intro l hl
    obtain ⟨hjoins, hcondition⟩ := hbefore l hl
    exact checkEdge_of_conditioned hnodes hjoins hcondition
  have hfail : g.checkEdges = .error error :=
    forM_eq_error_iff.2 ⟨before, e, after, hedges, hpass, h⟩
  unfold build
  rw [hfirst, hfail]
  rfl

/-- If an edge does not join nodes, the first such edge is told, or else the first before it with
    a wrong condition. -/
theorem build_of_loose_edge (hnodes : g.NodesSound) (hloose : ∃ e ∈ g.edges, ¬ g.Joins e)
    (policy : RetryPolicy) :
    ∃ before e after, g.edges = before ++ e :: after ∧ (∀ l ∈ before, g.Joins l) ∧ ¬ g.Joins e ∧
      (((∀ l ∈ before, g.Conditioned l) ∧
          g.build policy = .error (.nodeNotFound (g.looseEnd e))) ∨
        ∃ first l rest, before = first ++ l :: rest ∧ (∀ l' ∈ first, g.Conditioned l') ∧
          ¬ g.Conditioned l ∧ g.build policy = .error l.conditionFault) := by
  obtain ⟨before, e, after, hedges, hjoins, he⟩ := exists_first_not hloose
  refine ⟨before, e, after, hedges, hjoins, he, ?_⟩
  by_cases hall : ∀ l ∈ before, g.Conditioned l
  · refine .inl ⟨hall, ?_⟩
    have hbefore : ∀ l ∈ before, g.Joins l ∧ g.Conditioned l := fun l hl => ⟨hjoins l hl, hall l hl⟩
    exact build_of_first_fault hnodes hedges hbefore (checkEdge_of_not_joins he) policy
  · obtain ⟨first, l, rest, rfl, hfirst, hl⟩ := exists_first_not (by simpa using hall)
    refine .inr ⟨first, l, rest, rfl, hfirst, hl, ?_⟩
    rw [List.append_assoc] at hedges
    have hbefore : ∀ l' ∈ first, g.Joins l' ∧ g.Conditioned l' := by
      intro l' hl'
      exact ⟨hjoins l' (List.mem_append_left _ hl'), hfirst l' hl'⟩
    have hfault : g.checkEdge l = .error l.conditionFault :=
      checkEdge_of_not_conditioned hnodes (hjoins l (by simp)) hl
    exact build_of_first_fault hnodes hedges hbefore hfault policy

/-- A greeting after which one is put through to somebody and to nobody. -/
def misdialled : Graph where
  nodes :=
    [{ id := "greet", label := "Greet", callable := .ordinary fun _ s => .ok s },
     { id := "answer", label := "Answer", callable := .ordinary fun _ s => .ok s }]
  edges := [⟨"greet", "answer", none⟩, ⟨"greet", "nobody", none⟩]
  start := "greet"
  finish := "answer"

theorem build_of_loose_edge_misdialled :
    misdialled.NodesSound ∧ ∃ e ∈ misdialled.edges, ¬ misdialled.Joins e ∧
      misdialled.build {} = .error (.nodeNotFound (misdialled.looseEnd e)) := by
  have hnodes : misdialled.NodesSound := nodesSound_of_checkNodes rfl
  have hloose : ∃ e ∈ misdialled.edges, ¬ misdialled.Joins e :=
    ⟨⟨"greet", "nobody", none⟩, by decide, fun h => absurd h.2 (by decide)⟩
  have hconditions : ∀ e ∈ misdialled.edges, misdialled.Conditioned e := by
    unfold Conditioned
    decide
  obtain ⟨before, e, after, hedges, -, he, ⟨-, hbuild⟩ | ⟨first, l, rest, rfl, -, hl, -⟩⟩ :=
    build_of_loose_edge hnodes hloose {}
  · have hmem : e ∈ misdialled.edges := by simp [hedges]
    exact ⟨hnodes, e, hmem, he, hbuild⟩
  · have hmem : l ∈ misdialled.edges := by simp [hedges]
    exact absurd (hconditions l hmem) hl

/-- The same, where the answer is given only in the morning, though no router asks the time. -/
def misdialledEarly : Graph :=
  { misdialled with edges := [⟨"greet", "answer", some "morning"⟩, ⟨"greet", "nobody", none⟩] }

/-- The wrong condition is told, and not that there is nobody. -/
theorem condition_before_loose_edge :
    misdialledEarly.NodesSound ∧
      (∃ e ∈ misdialledEarly.edges, e.target = "nobody" ∧ "nobody" ∉ misdialledEarly.ids) ∧
      misdialledEarly.build {} = .error (.unexpectedCondition "greet" "answer" "morning") := by
  have hnodes : misdialledEarly.NodesSound := nodesSound_of_checkNodes rfl
  have hedges : misdialledEarly.edges =
      [] ++ ⟨"greet", "answer", some "morning"⟩ :: [⟨"greet", "nobody", none⟩] := rfl
  have hfault : misdialledEarly.checkEdge ⟨"greet", "answer", some "morning"⟩ =
      .error (.unexpectedCondition "greet" "answer" "morning") := rfl
  refine ⟨hnodes, ⟨⟨"greet", "nobody", none⟩, ?_, rfl, ?_⟩, ?_⟩
  · decide
  · decide
  · exact build_of_first_fault hnodes hedges (by simp) hfault {}

end Graph

end Flowgraph
