/-
  Flowgraph/Proofs/Json/ReadBack.lean
  ===================================
  **Reading back what was written** — what a decoder makes of the JSON value that stands for each
  value of a type (`Decoder.Reads`).  It reads back if it gives the value again
  (`Decoder.ReadsBack`).

  Scalars are read back, and lists of what is read back.  A record goes through the fields of an
  object one by one: each fills its slot, and a field that was left out leaves it empty
  (`Record.Fills`).  The draft that they come to is what the record is made of
  (`Record.decode_of_fills`).
-/
import Flowgraph.Json.Decoder

namespace Flowgraph.Json

variable {α β γ δ : Type}

/-! ### Scalars and lists -/

/-- The decoder makes of each value that was written what `read` says. -/
def Decoder.Reads (d : Decoder β) (write : α → Json) (read : α → β) : Prop :=
  ∀ x, d (.plain (write x)) = .ok (read x)

/-- The decoder gives back each value that was written. -/
def Decoder.ReadsBack (d : Decoder α) (write : α → Json) : Prop := d.Reads write fun x => x

namespace Decoder

theorem string_readsBack : string.ReadsBack .str := fun _ => rfl

theorem bool_readsBack : bool.ReadsBack .bool := fun _ => rfl

/-- A number that is not finite is written as `null`. -/
theorem optional_float_reads : (optional float).Reads Json.ofBinary64 Binary64.toFinite? := by
  intro x
  cases x <;> rfl

theorem any_readsBack : any.ReadsBack id := fun _ => rfl

theorem natural_int {bound n : Nat} (h : n < bound) (expected : String) :
    natural bound expected (.plain (.int n)) = .ok n := by
  have hrange : (0 : Int) ≤ n ∧ (n : Int) < bound := by omega
  simp only [natural, Source.head, Json.int, bind, Except.bind, hrange, and_self, if_true]
  rfl

theorem uint32_readsBack : uint32.ReadsBack fun n => .int n.toNat := by
  intro n
  unfold uint32
  rw [natural_int n.toNat_lt_size]
  change Except.ok (UInt32.ofNat n.toNat) = .ok n
  rw [UInt32.ofNat_toNat]

theorem uint64_readsBack : uint64.ReadsBack fun n => .int n.toNat := by
  intro n
  unfold uint64
  rw [natural_int n.toNat_lt_size]
  change Except.ok (UInt64.ofNat n.toNat) = .ok n
  rw [UInt64.ofNat_toNat]

variable {d : Decoder β} {write : α → Json} {read : α → β}

/-- What is written as anything but `null` is read where `null` may stand instead. -/
theorem Reads.optional (h : d.Reads write read) (hnull : ∀ x, (write x).isNull = false) :
    (optional d).Reads write fun x => some (read x) := by
  intro x
  have hread := h x
  have hnull := hnull x
  unfold Decoder.optional
  cases hwrite : write x with
  | null =>
    rw [hwrite] at hnull
    cases hnull
  | bool | num | str | arr | obj =>
    rw [hwrite] at hread
    simp only [Source.head, bind, Except.bind, hread]
    rfl

theorem Reads.items (h : d.Reads write read) (xs : List α) :
    Decoder.items d (xs.map fun x => .plain (write x)) = .ok (xs.map read) := by
  induction xs with
  | nil => rfl
  | cons x rest ih =>
    simp only [List.map_cons, Decoder.items, h x, ih, bind, Except.bind]
    rfl

theorem Reads.list (h : d.Reads write read) :
    (Decoder.list d).Reads (fun xs => .arr (xs.map write)) (List.map read) := by
  intro xs
  have hitems := h.items xs
  simp only [Decoder.list, Source.head, Source.plainItems, List.map_map, Function.comp_def, bind,
    Except.bind, hitems]
  rfl

end Decoder

/-! ### Records -/

/-- A setting that was met is set to what was read. -/
theorem join_map_some (x : Option α) : (x.map some).join = x := by
  cases x <;> rfl

namespace Record

variable {r : Record δ α} {draft draft' : δ} {fields : List (String × Json)}

/-- Going through the fields takes one draft to another. -/
def Fills (r : Record δ α) (draft : δ) (fields : List (String × Json)) (draft' : δ) : Prop :=
  r.fillMembers draft (Source.plainMembers fields).members = .ok draft'

theorem Fills.nil : r.Fills draft [] draft := rfl

section
variable {name : String} {required : Bool} {d : Decoder β} {get : δ → Option β} {set : β → δ → δ}

theorem Fills.field {value : Json} {x : β}
    (hslot : r.slots.find? (·.name = name) = some (.of name required d get set))
    (hunset : get draft = none) (hread : d (.plain value) = .ok x)
    (hrest : r.Fills (set x draft) fields draft') :
    r.Fills draft ((name, value) :: fields) draft' := by
  unfold Fills at hrest ⊢
  simp only [Source.plainMembers, List.map_cons, fillMembers, bind, Except.bind, hslot, Slot.of,
    hunset, hread]
  exact hrest

/-- A setting is written as a field, and as nothing if it is absent.  `put` is the draft as it
    depends on the setting. -/
theorem Fills.setting {write : γ → Json} {store : γ → β} (put : Option γ → δ)
    (hslot : r.slots.find? (·.name = name) = some (.of name required d get set))
    (hunset : get (put none) = none) (hread : ∀ x, d (.plain (write x)) = .ok (store x))
    (hset : ∀ x, set (store x) (put none) = put (some x)) {x : Option γ}
    (hrest : r.Fills (put x) fields draft') :
    r.Fills (put none) ((x.map fun x => (name, write x)).toList ++ fields) draft' := by
  cases x with
  | none => exact hrest
  | some x =>
    rw [← hset] at hrest
    exact .field hslot hunset (hread x) hrest

end

theorem decode_of_fills {x : α} (h : r.Fills r.empty fields draft)
    (hfinish : r.finish draft = .ok x) : r.decode (.plain (.obj fields)) = .ok x := by
  unfold Fills at h
  simp only [decode, Source.head, bind, Except.bind, h, hfinish]
  rfl

end Record

end Flowgraph.Json
