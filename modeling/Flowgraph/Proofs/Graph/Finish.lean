/-
  Flowgraph/Proofs/Graph/Finish.lean
  ==================================
  **All walks lead to the finish** — in a sound graph a walk from any node can be gone on with
  until it comes to the finish, and no further (`Sound.leadsToFinish`).

  None of the checks asks for this.  A node that is not the finish has an edge, so a walk can be
  made longer wherever else it has come, and as no walk comes to a node twice, it cannot be made
  longer for ever.
-/
import Flowgraph.Proofs.Graph.Sound

namespace Flowgraph.Graph

/-- Every walk from a declared node can be gone on with up to the finish and no further. -/
structure LeadsToFinish (g : Graph) : Prop where
  /-- No other node is without edges that leave it. -/
  outgoing_iff : ∀ id ∈ g.ids, (g.outgoing id = [] ↔ id = g.finish)
  /-- No other node is without edges that lead to it. -/
  incoming_iff : ∀ id ∈ g.ids, ((∀ e ∈ g.edges, e.target ≠ id) ↔ id = g.start)
  reaches : ∀ id ∈ g.ids, ∃ walk, g.Walk id walk g.finish
  extends_to : ∀ id ∈ g.ids, ∀ walk id', g.Walk id walk id' →
    ∃ more, g.Walk id (walk ++ more) g.finish
  ends_at : ∀ id walk more id', g.Walk id walk g.finish → g.Walk id (walk ++ more) id' →
    more = []
  /-- A walk that cannot be made longer is at the finish. -/
  stuck_at : ∀ id ∈ g.ids, ∀ walk id', g.Walk id walk id' →
    (∀ e ∈ g.edges, ¬ g.Walk id (walk ++ [e]) e.target) → id' = g.finish
  /-- No walk goes on for ever. -/
  length_lt : ∀ id ∈ g.ids, ∀ walk id', g.Walk id walk id' → walk.length < g.nodes.length

variable {g : Graph}

/-! ### Parts of walks -/

theorem Walk.append_iff {a c : String} {walk more : List Edge} :
    g.Walk a (walk ++ more) c ↔ ∃ b, g.Walk a walk b ∧ g.Walk b more c := by
  constructor
  · intro h
    induction walk generalizing a with
    | nil => exact ⟨a, .nil a, h⟩
    | cons e rest ih =>
      cases h with
      | cons he ha hrest =>
        obtain ⟨b, hfront, hmore⟩ := ih hrest
        exact ⟨b, .cons he ha hfront, hmore⟩
  · rintro ⟨b, hfront, hmore⟩
    exact hfront.append hmore

/-- The edges of a walk tell where it ends. -/
theorem Walk.end_unique {a b b' : String} {walk : List Edge} (h : g.Walk a walk b)
    (h' : g.Walk a walk b') : b = b' := by
  induction h with
  | nil id =>
    cases h'
    rfl
  | cons _ _ _ ih =>
    cases h' with
    | cons _ _ hrest => exact ih hrest

namespace Sound

/-! ### The first and the last node -/

theorem outgoing_iff (hg : g.Sound) {id : String} (hid : id ∈ g.ids) :
    g.outgoing id = [] ↔ id = g.finish := by
  rw [outgoing_eq_nil_iff]
  constructor
  · intro hnone
    obtain ⟨n, hn, rfl⟩ := exists_of_mem_ids hid
    by_contra hfinish
    rw [← outgoing_eq_nil_iff] at hnone
    cases hrouter : n.isRouter with
    | false =>
      have hsingle := hg.ordinary_single n hn hrouter hfinish
      rw [hnone] at hsingle
      cases hsingle
    | true => exact (hg.router_branches n hn hrouter).1 hnone
  · intro hfinish e he
    rw [hfinish]
    exact hg.finish_last e he

/-- An edge to the start would close a walk, as its source can be reached from there. -/
theorem incoming_iff (hg : g.Sound) {id : String} (hid : id ∈ g.ids) :
    (∀ e ∈ g.edges, e.target ≠ id) ↔ id = g.start := by
  constructor
  · intro hnone
    obtain ⟨walk, hwalk⟩ := hg.reachable id hid
    by_contra hstart
    have hne : walk ≠ [] := by
      rintro rfl
      cases hwalk
      exact hstart rfl
    obtain ⟨front, e, he, -, -, htarget⟩ := hwalk.exists_last hne
    exact hnone e he htarget
  · rintro rfl e he htarget
    obtain ⟨walk, hwalk⟩ := hg.reachable e.source (hg.ends_mem e he).1
    have hclosed := hwalk.snoc he
    rw [htarget] at hclosed
    have hnil := hg.acyclic _ _ hclosed
    simp at hnil

/-! ### Going on to the finish -/

/-- A walk can be made longer unless it has come to the finish. -/
theorem exists_edge (hg : g.Sound) {a b : String} {walk : List Edge} (h : g.Walk a walk b)
    (ha : a ∈ g.ids) (hb : b ≠ g.finish) : ∃ e ∈ g.edges, g.Walk a (walk ++ [e]) e.target := by
  have hout : g.outgoing b ≠ [] := (hg.outgoing_iff (hg.end_mem h ha)).not.2 hb
  obtain ⟨e, he⟩ := List.exists_mem_of_ne_nil _ hout
  obtain ⟨hedge, rfl⟩ := mem_outgoing.1 he
  exact ⟨e, hedge, h.snoc hedge⟩

/-- A walk that is not at the finish is made longer until it is. -/
theorem exists_extension (hg : g.Sound) {a b : String} {walk : List Edge} (h : g.Walk a walk b)
    (ha : a ∈ g.ids) : ∃ more, g.Walk a (walk ++ more) g.finish := by
  have hextends : ∀ left walk b, g.nodes.length = walk.length + left → g.Walk a walk b →
      ∃ more, g.Walk a (walk ++ more) g.finish := by
    intro left
    induction left with
    | zero =>
      intro walk b hleft h
      have := hg.length_lt h ha
      omega
    | succ left ih =>
      intro walk b hleft h
      by_cases hb : b = g.finish
      · exact ⟨[], by rwa [List.append_nil, ← hb]⟩
      · obtain ⟨e, -, hlonger⟩ := hg.exists_edge h ha hb
        have hleft' : g.nodes.length = (walk ++ [e]).length + left := by
          rw [List.length_append, List.length_singleton]
          omega
        obtain ⟨more, hmore⟩ := ih (walk ++ [e]) e.target hleft' hlonger
        rw [List.append_assoc] at hmore
        exact ⟨[e] ++ more, hmore⟩
  have hlength := hg.length_lt h ha
  exact hextends (g.nodes.length - walk.length) walk b (by omega) h

theorem eq_nil_of_walk_finish (hg : g.Sound) {b : String} {more : List Edge}
    (h : g.Walk g.finish more b) : more = [] := by
  cases h with
  | nil => rfl
  | cons he hsource _ => exact absurd hsource (hg.finish_last _ he)

theorem leadsToFinish (hg : g.Sound) : g.LeadsToFinish := by
  constructor
  case outgoing_iff => exact fun id hid => hg.outgoing_iff hid
  case incoming_iff => exact fun id hid => hg.incoming_iff hid
  case reaches => exact fun id hid => hg.exists_extension (.nil id) hid
  case extends_to => exact fun id hid walk id' h => hg.exists_extension h hid
  case ends_at =>
    intro id walk more id' h hmore
    obtain ⟨b, hfront, hrest⟩ := Walk.append_iff.1 hmore
    rw [← h.end_unique hfront] at hrest
    exact hg.eq_nil_of_walk_finish hrest
  case stuck_at =>
    intro id hid walk id' h hstuck
    by_contra hfinish
    obtain ⟨e, he, hlonger⟩ := hg.exists_edge h hid hfinish
    exact hstuck e he hlonger
  case length_lt => exact fun id hid walk id' h => hg.length_lt h hid

end Sound

end Flowgraph.Graph
