/-
  Flowgraph/Proofs/Search/Cycle.lean
  ==================================
  **The search for a cycle is right** — it ends, an id that `findCycle` gives leads back to itself
  (`findCycle_sound`), and if it gives none, no cycle can be reached from the ids it was given
  (`findCycle_complete`).  `findCycle_spec` says so of the ways that the links lead, for any links
  (`exists_successors_eq`) and any ids.

  What a search keeps is in `Visit.Valid`: the grey ids are those on the way, each of which leads
  to the one before it in the list; what an id on the way leads to is still to be looked at,
  black, or the id that was entered from it; and black ids lead only to black ids and lie on no
  cycle.  An id turns black when nothing is left to look at.  A cycle through it would go through
  a black id next, and from there on through black ids alone, so it could not come back to an id
  that is still grey.
-/
import Mathlib.Logic.Relation
import Mathlib.Data.List.Chain
import Flowgraph.Graph.Search

namespace Flowgraph.Links

open Relation

variable {links : Links}

/-! ### Colours between two visits -/

/-- Black ids lead only to black ids, and lie on no cycle. -/
structure Colours.Clean (links : Links) (colours : Colours) : Prop where
  closed : ∀ {a b}, colours.of a = .black → links.Leads a b → colours.of b = .black
  acyclic : ∀ {a}, colours.of a = .black → ¬ TransGen links.Leads a a

theorem Colours.clean_nil : Colours.Clean links [] where
  closed h := nomatch h
  acyclic h := nomatch h

/-- All that can be reached from a black id is black. -/
theorem Colours.Clean.reach {colours : Colours} (hc : Colours.Clean links colours) {a b : String}
    (ha : colours.of a = .black) (hab : ReflTransGen links.Leads a b) :
    colours.of b = .black := by
  induction hab with
  | refl => exact ha
  | tail _ hstep ih => exact hc.closed ih hstep

/-- A grey id turns black once all it leads to is black. -/
theorem Colours.Clean.insert_black {colours : Colours} (hc : Colours.Clean links colours)
    {id : String} (hid : colours.of id ≠ .black)
    (hnext : ∀ b, links.Leads id b → colours.of b = .black) :
    Colours.Clean links (colours.insert id .black) := by
  constructor
  · intro a b ha hab
    rw [Colours.of_insert] at ha ⊢
    split
    · rfl
    · split at ha
      · next h => exact hnext b (h ▸ hab)
      · exact hc.closed ha hab
  · intro a ha hcycle
    rw [Colours.of_insert] at ha
    split at ha
    · next h =>
      subst h
      -- the second id of the cycle is black, and so is the last, which is `id` itself
      obtain ⟨b, hb, hback⟩ := TransGen.head'_iff.1 hcycle
      exact hid (hc.reach (hnext b hb) hback)
    · exact hc.acyclic ha hcycle

/-- Painting grey an id that is not black changes nothing about the black ids. -/
theorem Colours.Clean.insert_grey {colours : Colours} (hc : Colours.Clean links colours)
    {id : String} (hid : colours.of id ≠ .black) :
    Colours.Clean links (colours.insert id .grey) := by
  constructor
  · intro a b ha hab
    rw [Colours.of_insert] at ha ⊢
    split at ha
    · cases ha
    · have hb := hc.closed ha hab
      rw [if_neg]
      · exact hb
      · rintro rfl
        exact hid hb
  · intro a ha
    rw [Colours.of_insert] at ha
    split at ha
    · cases ha
    · exact hc.acyclic ha

theorem Colour.eq_black {c : Colour} (hwhite : c ≠ .white) (hgrey : c ≠ .grey) : c = .black := by
  cases c with
  | white => exact absurd rfl hwhite
  | grey => exact absurd rfl hgrey
  | black => rfl

/-- What a search may come to: an id on a cycle, or clean colours without grey under which certain
    ids are black. -/
def Finds (links : Links) (done : String → Prop) : Except String Colours → Prop
  | .error id => TransGen links.Leads id id
  | .ok colours =>
    Colours.Clean links colours ∧ (∀ id, colours.of id ≠ .grey) ∧
      ∀ id, done id → colours.of id = .black

theorem Finds.mono {done done' : String → Prop} {result : Except String Colours}
    (h : Finds links done result) (hdone : ∀ id, done' id → done id) :
    Finds links done' result := by
  cases result with
  | error id => exact h
  | ok colours => exact ⟨h.1, h.2.1, fun id hid => h.2.2 id (hdone id hid)⟩

/-! ### What a search keeps -/

namespace Visit

/-- The ids on the way, the one looked at first. -/
def ids (v : Visit) : List String := v.way.map (·.id)

/-- What the ids on the way lead to is still to be looked at, or past, or has been entered from
    them and so stands before them. -/
def Looked (links : Links) (past : String → Prop) : List Frame → Prop
  | [] => True
  | frame :: below =>
    (∀ b, links.Leads frame.id b → b ∈ frame.rest ∨ past b) ∧
      Looked links (fun b => past b ∨ b = frame.id) below

theorem Looked.mono {past past' : String → Prop} {way : List Frame}
    (h : Looked links past way) (hpast : ∀ b, past b → past' b) : Looked links past' way := by
  induction way generalizing past past' with
  | nil => trivial
  | cons frame below ih =>
    refine ⟨fun b hb => (h.1 b hb).imp_right (hpast b), ih h.2 fun b hb => ?_⟩
    exact hb.imp_left (hpast b)

/-- An id that is past need no longer be looked at. -/
theorem Looked.drop {past : String → Prop} {id child : String} {rest : List String}
    {way : List Frame} (h : Looked links past (⟨id, child :: rest⟩ :: way)) (hchild : past child) :
    Looked links past (⟨id, rest⟩ :: way) := by
  refine ⟨fun b hb => ?_, h.2⟩
  rcases h.1 b hb with hb | hb
  · rcases List.mem_cons.1 hb with rfl | hb
    · exact Or.inr hchild
    · exact Or.inl hb
  · exact Or.inr hb

/-- What a search keeps from step to step. -/
structure Valid (links : Links) (v : Visit) : Prop where
  grey_iff : ∀ id, v.colours.of id = .grey ↔ id ∈ v.ids
  nodup : v.ids.Nodup
  chain : v.ids.IsChain fun a b => links.Leads b a
  linked : ∀ frame ∈ v.way, ∀ b ∈ frame.rest, links.Leads frame.id b
  looked : Looked links (fun b => v.colours.of b = .black) v.way
  clean : Colours.Clean links v.colours

/-- A search without a way is one whose colours are black and white only. -/
theorem valid_nil {colours : Colours} (hgrey : ∀ id, colours.of id ≠ .grey)
    (hclean : Colours.Clean links colours) : Valid links ⟨colours, []⟩ where
  grey_iff id := by simp [ids, hgrey id]
  nodup := List.nodup_nil
  chain := List.isChain_nil
  linked := by simp
  looked := trivial
  clean := hclean

/-- Entering a white id that the id looked at leads to, if there is one. -/
theorem Valid.enter {colours : Colours} {way : List Frame} (hv : Valid links ⟨colours, way⟩)
    {child : String} (hchild : colours.of child = .white)
    (hlead : ∀ id ∈ (way.map (·.id)).head?, links.Leads id child) :
    Valid links (enter links colours child way) := by
  constructor
  · intro id
    simp only [Visit.enter, ids, List.map_cons, List.mem_cons, Colours.of_insert]
    split
    · next h => simp [h]
    · next h =>
      rw [hv.grey_iff id]
      simp [ids, Ne.symm h]
  · refine List.nodup_cons.2 ⟨fun hmem => ?_, hv.nodup⟩
    have := (hv.grey_iff child).2 hmem
    rw [hchild] at this
    cases this
  · exact List.isChain_cons.2 ⟨hlead, hv.chain⟩
  · intro frame hframe b hb
    rcases List.mem_cons.1 hframe with rfl | hframe
    · exact mem_successors.1 hb
    · exact hv.linked frame hframe b hb
  · refine ⟨fun b hb => Or.inl (mem_successors.2 hb), hv.looked.mono fun b hb => Or.inl ?_⟩
    simp only [Visit.enter, Colours.of_insert]
    rw [if_neg]
    · exact hb
    · rintro rfl
      rw [hchild] at hb
      cases hb
  · exact hv.clean.insert_grey (by simp [hchild])

/-- Any id on the way may have fewer ids left to look at, as far as the links go. -/
theorem linked_drop {id child : String} {rest : List String} {way : List Frame}
    (h : ∀ frame ∈ ⟨id, child :: rest⟩ :: way, ∀ b ∈ frame.rest, links.Leads frame.id b) :
    ∀ frame ∈ ⟨id, rest⟩ :: way, ∀ b ∈ frame.rest, links.Leads frame.id b := by
  intro frame hframe b hb
  rcases List.mem_cons.1 hframe with rfl | hframe
  · exact h _ List.mem_cons_self b (List.mem_cons_of_mem _ hb)
  · exact h frame (List.mem_cons_of_mem _ hframe) b hb

/-- A step keeps a search valid. -/
theorem Valid.step {v v' : Visit} (hv : Valid links v) (h : v.step links = .goesOn v') :
    Valid links v' := by
  obtain ⟨colours, way⟩ := v
  obtain ⟨id, way, rfl, rfl⟩ | ⟨id, child, rest, way, rfl, hc, rfl⟩ |
    ⟨id, child, rest, way, rfl, hc, rfl⟩ := step_eq_goesOn h
  · -- going back: all that `id` leads to is black by now
    have hid : id ∉ way.map (·.id) := (List.nodup_cons.1 hv.nodup).1
    have hgrey : colours.of id = .grey := (hv.grey_iff id).2 List.mem_cons_self
    have hnext : ∀ b, links.Leads id b → colours.of b = .black := fun b hb =>
      (hv.looked.1 b hb).resolve_left List.not_mem_nil
    constructor
    · intro a
      simp only [ids, Colours.of_insert]
      split
      · next ha => simpa [← ha] using hid
      · next ha =>
        have := hv.grey_iff a
        simpa [ids, Ne.symm ha] using this
    · exact (List.nodup_cons.1 hv.nodup).2
    · exact hv.chain.tail
    · exact fun frame hframe => hv.linked frame (List.mem_cons_of_mem _ hframe)
    · refine hv.looked.2.mono fun b hb => ?_
      rw [Colours.of_insert]
      split
      · rfl
      · next hne => exact hb.resolve_right (Ne.symm hne)
    · exact hv.clean.insert_black (by simp [hgrey]) hnext
  · -- entering a white id, which need not be looked at again
    have hlead : links.Leads id child := hv.linked _ List.mem_cons_self child List.mem_cons_self
    have henter := hv.enter hc (by simpa using hlead)
    refine ⟨henter.grey_iff, henter.nodup, henter.chain, ?_, ?_, henter.clean⟩
    · intro frame hframe b hb
      rcases List.mem_cons.1 hframe with rfl | hframe
      · exact mem_successors.1 hb
      · exact linked_drop hv.linked frame hframe b hb
    · exact ⟨henter.looked.1, henter.looked.2.drop (Or.inr rfl)⟩
  · -- passing by a black id
    exact ⟨hv.grey_iff, hv.nodup, hv.chain, linked_drop hv.linked, hv.looked.drop hc, hv.clean⟩

/-- Every id on the way leads to the one looked at. -/
theorem Valid.reach_head {v : Visit} (hv : Valid links v) {id : String} {way : List String}
    (hids : v.ids = id :: way) {a : String} (ha : a ∈ v.ids) : ReflTransGen links.Leads a id := by
  have hchain : List.IsChain (fun a b => TransGen links.Leads b a) v.ids :=
    hv.chain.imp fun _ _ h => TransGen.single h
  have : IsTrans String fun a b => TransGen links.Leads b a := ⟨fun _ _ _ h₁ h₂ => h₂.trans h₁⟩
  rw [hids] at hchain ha
  rcases List.mem_cons.1 ha with rfl | ha
  · exact ReflTransGen.refl
  · exact (List.rel_of_pairwise_cons (List.isChain_iff_pairwise.1 hchain) ha).to_reflTransGen

/-- An id that is met again lies on a cycle. -/
theorem Valid.meets {v : Visit} (hv : Valid links v) {child : String}
    (h : v.step links = .meets child) : TransGen links.Leads child child := by
  obtain ⟨id, rest, way, hway, hc⟩ := step_eq_meets h
  have hids : v.ids = id :: way.map (·.id) := by simp [ids, hway]
  have hlead : links.Leads id child :=
    hv.linked ⟨id, child :: rest⟩ (by simp [hway]) child List.mem_cons_self
  exact TransGen.tail' (hv.reach_head hids ((hv.grey_iff child).1 hc)) hlead

/-- An id that has been met stays met. -/
theorem met_step {v v' : Visit} (h : v.step links = .goesOn v') {id : String}
    (hid : v.colours.of id ≠ .white) : v'.colours.of id ≠ .white := by
  obtain ⟨a, way, -, rfl⟩ | ⟨a, child, rest, way, -, -, rfl⟩ | ⟨a, child, rest, way, -, -, rfl⟩ :=
    step_eq_goesOn h
  · simp only [Colours.of_insert]
    split
    · decide
    · exact hid
  · simp only [Visit.enter, Colours.of_insert]
    split
    · decide
    · exact hid
  · exact hid

/-- What a search from a valid one comes to: a cycle, or all that was met is black. -/
theorem Valid.run {v : Visit} (hv : Valid links v) :
    Finds links (fun id => v.colours.of id ≠ .white) (v.run links) := by
  fun_induction Visit.run links v with
  | case1 v v' h ih => exact (ih (hv.step h)).mono fun id hid => met_step h hid
  | case2 v id h => exact hv.meets h
  | case3 v h =>
    have hgrey : ∀ id, v.colours.of id ≠ .grey := by
      intro id hid
      have := (hv.grey_iff id).1 hid
      simp [ids, step_eq_ends h] at this
    exact ⟨hv.clean, hgrey, fun id hid => Colour.eq_black hid (hgrey id)⟩

end Visit

/-! ### The search over all ids -/

/-- A visit of an id keeps the colours clean and leaves the id black, unless it finds a cycle. -/
theorem finds_visit {colours : Colours} (hclean : Colours.Clean links colours)
    (hgrey : ∀ id, colours.of id ≠ .grey) (root : String) :
    Finds links (fun id => id = root ∨ colours.of id = .black) (links.visit colours root) := by
  unfold visit
  by_cases hroot : colours.of root = .white
  · rw [if_pos hroot]
    refine ((Visit.valid_nil hgrey hclean).enter hroot (by simp)).run.mono fun id hid => ?_
    simp only [Visit.enter, Colours.of_insert]
    split
    · decide
    · next hne => simp [hid.resolve_left (Ne.symm hne)]
  · rw [if_neg hroot]
    refine ⟨hclean, hgrey, fun id hid => ?_⟩
    rcases hid with rfl | hid
    · exact Colour.eq_black hroot (hgrey id)
    · exact hid

/-- The visits of some ids, one after the other, leave all of them black, unless one finds a
    cycle. -/
theorem finds_foldlM (ids : List String) {colours : Colours}
    (hclean : Colours.Clean links colours) (hgrey : ∀ id, colours.of id ≠ .grey) :
    Finds links (fun id => id ∈ ids ∨ colours.of id = .black)
      (ids.foldlM links.visit colours) := by
  induction ids generalizing colours with
  | nil => exact ⟨hclean, hgrey, fun id hid => hid.resolve_left List.not_mem_nil⟩
  | cons root ids ih =>
    have hvisit := finds_visit hclean hgrey root
    rw [List.foldlM_cons]
    cases hroot : links.visit colours root with
    | error id =>
      rw [hroot] at hvisit
      exact hvisit
    | ok colours' =>
      rw [hroot] at hvisit
      obtain ⟨hclean', hgrey', hblack⟩ := hvisit
      refine (ih hclean' hgrey').mono fun id hid => ?_
      rcases hid with hid | hid
      · rcases List.mem_cons.1 hid with rfl | hid
        · exact Or.inr (hblack id (Or.inl rfl))
        · exact Or.inl hid
      · exact Or.inr (hblack id (Or.inr hid))

theorem finds_foldlM_nil (ids : List String) :
    Finds links (fun id => id ∈ ids ∨ Colours.of [] id = .black) (ids.foldlM links.visit []) :=
  finds_foldlM ids Colours.clean_nil (by intro id h; cases h)

/-- An id that the search gives leads back to itself. -/
theorem findCycle_sound {ids : List String} {id : String} (h : links.findCycle ids = some id) :
    TransGen links.Leads id id := by
  have hfinds := @finds_foldlM_nil links ids
  unfold findCycle at h
  split at h
  · next heq =>
    cases h
    rwa [heq] at hfinds
  · cases h

/-- If the search gives no id, no cycle can be reached from the ids it was given. -/
theorem findCycle_complete {ids : List String} (h : links.findCycle ids = none) {a b : String}
    (ha : a ∈ ids) (hab : ReflTransGen links.Leads a b) : ¬ TransGen links.Leads b b := by
  have hfinds := @finds_foldlM_nil links ids
  unfold findCycle at h
  split at h
  · cases h
  · next heq =>
    rw [heq] at hfinds
    obtain ⟨hclean, -, hblack⟩ := hfinds
    exact hclean.acyclic (hclean.reach (hblack a (Or.inl ha)) hab)

/-! ### The ways that the links lead -/

/-- Ids may link to whatever lists of ids: an id may be in its own list, or more than once in
    another's, and one that is in a list need have none. -/
theorem exists_successors_eq (lists : Fields (List String)) :
    ∃ links : Links, ∀ id, links.successors id = (lists.get? id).getD [] := by
  induction lists with
  | nil => exact ⟨[], fun id => rfl⟩
  | cons f rest ih =>
    obtain ⟨source, targets⟩ := f
    obtain ⟨links, hlinks⟩ := ih
    refine ⟨targets.map (source, ·) ++ links.filter (·.1 ≠ source), fun id => ?_⟩
    unfold successors at hlinks ⊢
    rw [List.filter_append, List.map_append, List.filter_filter, Fields.get?]
    by_cases hid : source = id
    · subst hid
      simp [List.filter_map, Function.comp_def]
    · have hrest : (links.filter fun link => link.1 = id && link.1 ≠ source) =
          links.filter fun link => link.1 = id :=
        List.filter_congr fun link _ => by
          by_cases hlink : link.1 = id
          · simp [hlink, Ne.symm hid]
          · simp [hlink]
      rw [if_neg hid, ← hlinks id, hrest]
      simp [hid, List.filter_map, Function.comp_def]

/-- The links lead from an id over the ids of a way, of which there may be none, back to it. -/
def Round (links : Links) (id : String) (way : List String) : Prop :=
  ((id :: way) ++ [id]).IsChain links.Leads

theorem exists_round_iff {id : String} :
    (∃ way, links.Round id way) ↔ TransGen links.Leads id id := by
  constructor
  · rintro ⟨way, hround⟩
    obtain ⟨hchain, -, hback⟩ := List.isChain_append.1 hround
    have hway := List.relationReflTransGen_of_exists_isChain_cons way hchain rfl
    exact .tail' hway (hback _ (List.getLast_mem_getLast? _) id rfl)
  · intro hcycle
    obtain ⟨last, hway, hback⟩ := TransGen.tail'_iff.1 hcycle
    obtain ⟨way, hchain, rfl⟩ := List.exists_isChain_cons_of_relationReflTransGen hway
    refine ⟨way, List.isChain_append.2 ⟨hchain, .singleton id, ?_⟩⟩
    intro a ha b hb
    rw [List.getLast?_eq_getLast_of_ne_nil (List.cons_ne_nil _ _)] at ha
    cases ha
    cases hb
    exact hback

/-- The search for a cycle cannot go on for ever.  The links lead from the id that it gives back
    to it, and if it gives none, they lead from the ids it was given to no id from which they lead
    back to it. -/
theorem findCycle_spec (links : Links) (ids : List String) :
    (WellFounded fun v' v : Visit => v.step links = .goesOn v') ∧
    match links.findCycle ids with
    | some id => ∃ way, links.Round id way
    | none => ∀ a ∈ ids, ∀ b, ReflTransGen links.Leads a b → ∀ way, ¬ links.Round b way := by
  refine ⟨Subrelation.wf Visit.effort_step (measure (Visit.effort links)).wf, ?_⟩
  cases hfound : links.findCycle ids with
  | some id => exact exists_round_iff.2 (findCycle_sound hfound)
  | none =>
    intro a ha b hab way hround
    exact findCycle_complete hfound ha hab (exists_round_iff.1 ⟨way, hround⟩)

end Flowgraph.Links
