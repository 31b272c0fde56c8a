/-
  Flowgraph/Proofs/Json/Yields.lean
  =================================
  **What is read has a property** — all that a decoder gives has it, whatever text or value it
  reads (`Decoder.Yields`).

  A list has it if its items do.  A record is read from fields in any order, or from items, and
  each fills a slot of the draft: a property of drafts that every slot keeps holds of the draft
  that the record is made of (`Record.yields`).
-/
import Flowgraph.Json.Decoder
import Flowgraph.Proofs.Except

namespace Flowgraph.Json

variable {α β δ : Type}

/-- All that the decoder gives is good. -/
def Decoder.Yields (d : Decoder α) (good : α → Prop) : Prop := ∀ s x, d s = .ok x → good x

namespace Decoder

variable {d : Decoder α} {good : α → Prop} {x : α}

theorem Yields.of_ofJson (h : d.Yields good) {j : Json} (hx : d.ofJson j = .ok x) : good x :=
  h _ x (mapError_eq_ok_iff.1 hx)

theorem Yields.of_ofText (h : d.Yields good) {text : String} (hx : d.ofText text = .ok x) :
    good x := by
  obtain ⟨y, hy, hrest⟩ := bind_eq_ok_iff.1 (mapError_eq_ok_iff.1 hx)
  have hxy : y = x := by
    split at hrest
    · cases hrest
    · cases hrest
      rfl
  exact h _ x (hxy ▸ hy)

theorem Yields.optional (h : d.Yields good) : (optional d).Yields fun x => ∀ y ∈ x, good y := by
  intro s x hx y hy
  cases hy
  obtain ⟨head, -, hrest⟩ := bind_eq_ok_iff.1 hx
  split at hrest
  · cases hrest
  · obtain ⟨z, hz, hsome⟩ := bind_eq_ok_iff.1 hrest
    cases hsome
    exact h s y hz

theorem Yields.items (h : d.Yields good) {sources : List Source} {xs : List α}
    (hxs : items d sources = .ok xs) : ∀ x ∈ xs, good x := by
  induction sources generalizing xs with
  | nil =>
    cases hxs
    intro x hx
    cases hx
  | cons s rest ih =>
    obtain ⟨y, hy, htail⟩ := bind_eq_ok_iff.1 hxs
    obtain ⟨ys, hys, hcons⟩ := bind_eq_ok_iff.1 htail
    cases hcons
    intro x hx
    rcases List.mem_cons.1 hx with rfl | hx
    · exact h s x hy
    · exact ih hys x hx

theorem Yields.list (h : d.Yields good) : (list d).Yields fun xs => ∀ x ∈ xs, good x := by
  intro s xs hxs
  obtain ⟨head, -, hrest⟩ := bind_eq_ok_iff.1 hxs
  split at hrest
  · obtain ⟨content, -, hrest⟩ := bind_eq_ok_iff.1 hrest
    obtain ⟨ys, hys, hrest⟩ := bind_eq_ok_iff.1 hrest
    obtain ⟨-, -, hpure⟩ := bind_eq_ok_iff.1 hrest
    cases hpure
    exact h.items hys
  · cases hrest

end Decoder

/-! ### Records -/

/-- A draft that has the property keeps it when the slot is filled. -/
def Slot.Keeps (slot : Slot δ) (fine : δ → Prop) : Prop :=
  ∀ s draft draft', fine draft → slot.fill s draft = .ok draft' → fine draft'

theorem Slot.Keeps.of_yields {name : String} {required : Bool} {d : Decoder β} {get : δ → Option β}
    {set : β → δ → δ} {good : β → Prop} {fine : δ → Prop} (hd : d.Yields good)
    (hset : ∀ x draft, good x → fine draft → fine (set x draft)) :
    (Slot.of name required d get set).Keeps fine := by
  intro s draft draft' hdraft hfill
  obtain ⟨x, hx, hpure⟩ := bind_eq_ok_iff.1 hfill
  cases hpure
  exact hset x draft (hd s x hx) hdraft

/-- A slot whose values the property does not speak of. -/
theorem Slot.Keeps.of_set {name : String} {required : Bool} {d : Decoder β} {get : δ → Option β}
    {set : β → δ → δ} {fine : δ → Prop} (hset : ∀ x draft, fine draft → fine (set x draft)) :
    (Slot.of name required d get set).Keeps fine :=
  Slot.Keeps.of_yields (fun _ _ _ => trivial) fun x draft _ => hset x draft

namespace Record

variable {r : Record δ α} {fine : δ → Prop} {good : α → Prop} {draft draft' : δ}

theorem fine_of_fillMembers (hslots : ∀ slot ∈ r.slots, slot.Keeps fine) {members : List Member}
    (hdraft : fine draft) (hfill : r.fillMembers draft members = .ok draft') : fine draft' := by
  induction members generalizing draft with
  | nil =>
    cases hfill
    exact hdraft
  | cons m rest ih =>
    obtain ⟨name, -, hrest⟩ := bind_eq_ok_iff.1 hfill
    split at hrest
    · next slot hslot =>
      split at hrest
      · cases hrest
      · obtain ⟨draft₁, hfirst, hrest⟩ := bind_eq_ok_iff.1 hrest
        have hkeeps := hslots slot (List.mem_of_find?_eq_some hslot)
        exact ih (hkeeps _ _ _ hdraft hfirst) hrest
    · split at hrest
      · cases hrest
      · obtain ⟨-, -, hrest⟩ := bind_eq_ok_iff.1 hrest
        exact ih hdraft hrest

theorem fine_of_fillItems {slots : List (Slot δ)} (hslots : ∀ slot ∈ slots, slot.Keeps fine)
    {content : Items} {index : Nat} {sources : List Source} (hdraft : fine draft)
    (hfill : r.fillItems content index draft slots sources = .ok draft') : fine draft' := by
  induction slots generalizing index draft sources with
  | nil =>
    obtain ⟨-, -, hpure⟩ := bind_eq_ok_iff.1 hfill
    cases hpure
    exact hdraft
  | cons slot slots ih =>
    cases sources with
    | nil =>
      obtain ⟨-, -, hrest⟩ := bind_eq_ok_iff.1 hfill
      split at hrest
      · cases hrest
      · cases hrest
        exact hdraft
    | cons s rest =>
      obtain ⟨draft₁, hfirst, hrest⟩ := bind_eq_ok_iff.1 hfill
      have hkeeps := hslots slot List.mem_cons_self
      have hothers : ∀ slot ∈ slots, slot.Keeps fine :=
        fun slot hslot => hslots slot (List.mem_cons_of_mem _ hslot)
      exact ih hothers (hkeeps _ _ _ hdraft hfirst) hrest

theorem yields (fine : δ → Prop) (hempty : fine r.empty) (hslots : ∀ slot ∈ r.slots, slot.Keeps fine)
    (hfinish : ∀ draft x, fine draft → r.finish draft = .ok x → good x) :
    Decoder.Yields r.decode good := by
  intro s x hx
  obtain ⟨head, -, hrest⟩ := bind_eq_ok_iff.1 hx
  split at hrest
  · obtain ⟨content, -, hrest⟩ := bind_eq_ok_iff.1 hrest
    obtain ⟨draft, hfill, hrest⟩ := bind_eq_ok_iff.1 hrest
    obtain ⟨-, -, hlast⟩ := bind_eq_ok_iff.1 hrest
    exact hfinish draft x (fine_of_fillMembers hslots hempty hfill) (mapError_eq_ok_iff.1 hlast)
  · obtain ⟨content, -, hrest⟩ := bind_eq_ok_iff.1 hrest
    obtain ⟨draft, hfill, hlast⟩ := bind_eq_ok_iff.1 hrest
    exact hfinish draft x (fine_of_fillItems hslots hempty hfill) (mapError_eq_ok_iff.1 hlast)
  · cases hrest

end Record

end Flowgraph.Json
