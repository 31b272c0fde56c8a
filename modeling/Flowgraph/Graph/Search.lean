/-
  Flowgraph/Graph/Search.lean
  ===========================
  **Searching a graph** — a node on a cycle (`findCycle`) and the nodes that can be reached
  (`reachableFrom`).  Both go through nodes and edges in the order given, so what is found first
  is determined.

  The search for a cycle is depth first and paints every id: white before it is met, grey while
  it stands on the way, black once all it leads to has been gone through.  `Visit.step` is one
  step of it and `Visit.run` the loop.  Each search ends because a step uses up a link: a link
  counts as long as its source has not been met, and an id that is met puts no more into the way
  or the queue than the links it had (`openLinks_remove`).
-/
import Flowgraph.Fields

namespace Flowgraph

/-- Links from id to id, in order. -/
abbrev Links := List (String × String)

namespace Links

/-- The ids linked to from an id, in order and as often as they are. -/
def successors (links : Links) (id : String) : List String :=
  (links.filter fun link => link.1 = id).map (·.2)

/-- Whether an id links to another. -/
def Leads (links : Links) (a b : String) : Prop := (a, b) ∈ links

theorem mem_successors {links : Links} {a b : String} :
    b ∈ links.successors a ↔ links.Leads a b := by
  simp only [successors, Leads, List.mem_map, List.mem_filter, decide_eq_true_eq]
  constructor
  · rintro ⟨⟨a', b'⟩, ⟨hmem, rfl⟩, rfl⟩
    exact hmem
  · intro hmem
    exact ⟨(a, b), ⟨hmem, rfl⟩, rfl⟩

/-! ### Counting links -/

def openLinks (links : Links) (isOpen : String → Bool) : Nat :=
  links.countP fun link => isOpen link.1

theorem openLinks_mono (links : Links) {p q : String → Bool} (h : ∀ id, q id = true → p id = true) :
    links.openLinks q ≤ links.openLinks p :=
  List.countP_mono_left fun link _ => h link.1

/-- The links of an id that is no longer open are those that the count loses. -/
theorem openLinks_remove (links : Links) {p q : String → Bool} {id : String} (hid : p id = true)
    (hq : ∀ id', q id' = (p id' && id' != id)) :
    links.openLinks q + (links.successors id).length = links.openLinks p := by
  induction links with
  | nil => rfl
  | cons link links ih =>
    obtain ⟨source, target⟩ := link
    simp only [openLinks, successors] at ih ⊢
    by_cases h : source = id
    · subst h
      have hn : q source = false := by simp [hq]
      simp only [List.countP_cons, List.filter_cons, hid, hn, decide_true, Bool.false_eq_true,
        ↓reduceIte, List.map_cons, List.length_cons]
      omega
    · have hpq : q source = p source := by simp [hq, h]
      simp only [List.countP_cons, List.filter_cons, hpq, h, decide_false, Bool.false_eq_true,
        ↓reduceIte]
      omega

/-! ### Cycles -/

/-- How far a search has come with an id. -/
inductive Colour
  | white
  /-- Met, and on the way. -/
  | grey
  /-- Gone through, with all it leads to. -/
  | black
deriving DecidableEq, Repr

/-- The colours of the ids; an id without one is white. -/
abbrev Colours := Fields Colour

def Colours.of (colours : Colours) (id : String) : Colour := (colours.get? id).getD .white

theorem Colours.of_insert (colours : Colours) (id id' : String) (c : Colour) :
    Colours.of (colours.insert id c) id' = if id = id' then c else colours.of id' := by
  unfold Colours.of
  rw [Fields.get?_insert]
  split <;> rfl

/-- An id on the way, with the ids it links to that have not been looked at. -/
structure Frame where
  id : String
  rest : List String

/-- A search that has come some way.  The way is that from an id to the one looked at, which
    stands first. -/
structure Visit where
  colours : Colours
  way : List Frame

/-- What a step of a search comes to. -/
inductive Visit.Next
  | goesOn (visit : Visit)
  /-- An id on the way is met again. -/
  | meets (id : String)
  /-- There is no way left to go. -/
  | ends

namespace Visit

/-- Goes on to an id that has not been met. -/
def enter (links : Links) (colours : Colours) (id : String) (way : List Frame) : Visit :=
  ⟨colours.insert id .grey, ⟨id, links.successors id⟩ :: way⟩

/-- Looks at the next id that the first of the way links to, or goes back if there is none. -/
def step (links : Links) (v : Visit) : Next :=
  match v.way with
  | [] => .ends
  | ⟨id, []⟩ :: way => .goesOn ⟨v.colours.insert id .black, way⟩
  | ⟨id, child :: rest⟩ :: way =>
    match v.colours.of child with
    | .grey => .meets child
    | .white => .goesOn (enter links v.colours child (⟨id, rest⟩ :: way))
    | .black => .goesOn ⟨v.colours, ⟨id, rest⟩ :: way⟩

/-- A step goes back from an id with nothing left to look at, enters a white id, or passes by a
    black one. -/
theorem step_eq_goesOn {links : Links} {v v' : Visit} (h : v.step links = .goesOn v') :
    (∃ id way, v.way = ⟨id, []⟩ :: way ∧ v' = ⟨v.colours.insert id .black, way⟩) ∨
    (∃ id child rest way, v.way = ⟨id, child :: rest⟩ :: way ∧ v.colours.of child = .white ∧
      v' = enter links v.colours child (⟨id, rest⟩ :: way)) ∨
    (∃ id child rest way, v.way = ⟨id, child :: rest⟩ :: way ∧ v.colours.of child = .black ∧
      v' = ⟨v.colours, ⟨id, rest⟩ :: way⟩) := by
  obtain ⟨colours, way⟩ := v
  unfold step at h
  dsimp only at h
  split at h
  · cases h
  · next id way =>
    cases h
    exact Or.inl ⟨id, way, rfl, rfl⟩
  · next id child rest way =>
    split at h
    · cases h
    · next hc =>
      cases h
      exact Or.inr (Or.inl ⟨id, child, rest, way, rfl, hc, rfl⟩)
    · next hc =>
      cases h
      exact Or.inr (Or.inr ⟨id, child, rest, way, rfl, hc, rfl⟩)

/-- A step meets an id again that is grey and that the first of the way links to. -/
theorem step_eq_meets {links : Links} {v : Visit} {child : String}
    (h : v.step links = .meets child) :
    ∃ id rest way, v.way = ⟨id, child :: rest⟩ :: way ∧ v.colours.of child = .grey := by
  obtain ⟨colours, way⟩ := v
  unfold step at h
  dsimp only at h
  split at h
  · cases h
  · cases h
  · next id child' rest way =>
    split at h
    · next hc =>
      cases h
      exact ⟨id, rest, way, rfl, hc⟩
    · cases h
    · cases h

theorem step_eq_ends {links : Links} {v : Visit} (h : v.step links = .ends) : v.way = [] := by
  obtain ⟨colours, way⟩ := v
  unfold step at h
  dsimp only at h
  split at h
  · rfl
  · cases h
  · split at h <;> cases h

/-! ### The search for a cycle ends -/

def unmet (links : Links) (colours : Colours) : Nat :=
  links.openLinks fun id => colours.of id = .white

/-- A bound on the steps that the ids on a way ask for: two for each link that is to be looked at,
    and one for each id. -/
def wayEffort : List Frame → Nat
  | [] => 0
  | frame :: way => 2 * frame.rest.length + 1 + wayEffort way

/-- A bound on the steps that a search may still take. -/
def effort (links : Links) (v : Visit) : Nat := 2 * unmet links v.colours + wayEffort v.way

theorem unmet_insert_le (links : Links) (colours : Colours) (id : String) {c : Colour}
    (hc : c ≠ .white) : unmet links (colours.insert id c) ≤ unmet links colours := by
  refine openLinks_mono links fun id' h => ?_
  simp only [Colours.of_insert, decide_eq_true_eq] at h ⊢
  split at h
  · exact absurd h hc
  · exact h

theorem unmet_insert_grey (links : Links) {colours : Colours} {id : String}
    (h : colours.of id = .white) :
    unmet links (colours.insert id .grey) + (links.successors id).length =
      unmet links colours := by
  refine openLinks_remove links (by simpa using h) fun id' => ?_
  by_cases h' : id = id'
  · simp [Colours.of_insert, h']
  · simp [Colours.of_insert, h', Ne.symm h']

theorem effort_step {links : Links} {v v' : Visit} (h : v.step links = .goesOn v') :
    v'.effort links < v.effort links := by
  obtain ⟨colours, way⟩ := v
  obtain ⟨id, way, rfl, rfl⟩ | ⟨id, child, rest, way, rfl, hc, rfl⟩ |
    ⟨id, child, rest, way, rfl, hc, rfl⟩ := step_eq_goesOn h
  · have := unmet_insert_le links colours id (c := .black) (by decide)
    simp only [effort, wayEffort, List.length_nil]
    omega
  · have : unmet links (colours.insert child .grey) + (links.successors child).length =
        unmet links colours := unmet_insert_grey links hc
    simp only [effort, enter, wayEffort, List.length_cons]
    omega
  · simp only [effort, wayEffort, List.length_cons]
    omega

/-- Takes steps to the end: the colours then, or as the error an id on the way that was met
    again. -/
def run (links : Links) (v : Visit) : Except String Colours :=
  match _h : v.step links with
  | .goesOn v' => v'.run links
  | .meets id => .error id
  | .ends => .ok v.colours
termination_by v.effort links
decreasing_by exact effort_step _h

end Visit

/-- Goes through an id and all it leads to, unless that has been done. -/
def visit (links : Links) (colours : Colours) (id : String) : Except String Colours :=
  if colours.of id = .white then (Visit.enter links colours id []).run links else .ok colours

/-- An id on a cycle that can be reached from one of the ids, if there is one. -/
def findCycle (links : Links) (ids : List String) : Option String :=
  match ids.foldlM links.visit [] with
  | .error id => some id
  | .ok _ => none

/-! ### Reach -/

theorem openLinks_notMem_cons (links : Links) {id : String} {seen : List String} (h : id ∉ seen) :
    links.openLinks (· ∉ id :: seen) + (links.successors id).length =
      links.openLinks (· ∉ seen) := by
  refine links.openLinks_remove (decide_eq_true h) fun id' => ?_
  by_cases h' : id' = id <;> simp [h']

/-- Goes through the ids of a queue and what they lead to, breadth first.  `seen` holds the ids
    gone through; what an id links to joins the queue unless it is among them. -/
def flood (links : Links) (queue seen : List String) : List String :=
  match queue with
  | [] => seen
  | id :: queue =>
    if id ∈ seen then links.flood queue seen
    else links.flood (queue ++ (links.successors id).filter (· ∉ id :: seen)) (id :: seen)
termination_by links.openLinks (· ∉ seen) + queue.length
decreasing_by
  · simp only [List.length_cons]
    omega
  · next h =>
    have := links.openLinks_notMem_cons h
    have := (links.successors id).length_filter_le (· ∉ id :: seen)
    simp only [List.length_append, List.length_cons]
    omega

/-- The ids that can be reached from an id, itself included. -/
def reachableFrom (links : Links) (start : String) : List String := links.flood [start] []

end Links

end Flowgraph
