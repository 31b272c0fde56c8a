/-
  Flowgraph/Json/Decoder.lean
  ===========================
  **Reading typed values** — a `Decoder` reads a value of one type from a `Source`, and a
  `Record` describes the fields of a structure and is read by `Record.decode`.

  A record is read from an object, its fields in the order they are met, or from an array of its
  fields in their own order.  A field that is met twice, or met and not known to a record that is
  closed, is refused at its name; a field that is missing is refused at the end.
-/
import Flowgraph.Json.Source

namespace Flowgraph.Json

/-- Reads a value of a type. -/
abbrev Decoder (α : Type) := Source → Except Fault α

namespace Decoder

variable {α : Type}

/-! ### Scalars -/

def string : Decoder String := fun s => do
  match ← s.head with
  | .str t _ => return t
  | h => h.refuse "a string"

def bool : Decoder Bool := fun s => do
  match ← s.head with
  | .bool b _ => return b
  | h => h.refuse "a boolean"

/-- Reads a whole number from zero up to below `bound`. -/
def natural (bound : Nat) (expected : String) : Decoder Nat := fun s => do
  match ← s.head with
  | .num (.int i) stop =>
    if 0 ≤ i ∧ i < bound then return i.toNat
    else throw ⟨.shape (.outOfRange i expected), stop⟩
  | h => h.refuse expected

/-- Reads a whole number of 32 bits. -/
def uint32 : Decoder UInt32 := fun s => return UInt32.ofNat (← natural UInt32.size "u32" s)

/-- Reads a whole number of 64 bits. -/
def uint64 : Decoder UInt64 := fun s => return UInt64.ofNat (← natural UInt64.size "u64" s)

/-- Reads a number; a whole number is rounded. -/
def float : Decoder Finite64 := fun s => do
  match ← s.head with
  | .num (.float x) _ => return x
  | .num (.int i) stop =>
    match Binary64.ofInt i with
    | .finite x => return x
    | _ => throw ⟨.shape (.outOfRange i "f64"), stop⟩
  | h => h.refuse "f64"

/-! ### Compound values -/

def any : Decoder Json := Source.toJson

/-- Reads a value that may be `null` instead. -/
def optional (d : Decoder α) : Decoder (Option α) := fun s => do
  match ← s.head with
  | .null _ => return none
  | _ => return some (← d s)

def items (d : Decoder α) : List Source → Except Fault (List α)
  | [] => .ok []
  | s :: rest => do
    let x ← d s
    return x :: (← items d rest)

def list (d : Decoder α) : Decoder (List α) := fun s => do
  match ← s.head with
  | .list _ content =>
    let content ← content
    let xs ← items d content.items
    content.close
    return xs
  | h => h.refuse "a sequence"

def fields : Decoder (Fields Json) := fun s => do
  match ← s.head with
  | .object .. =>
    match ← s.toJson with
    | .obj fields => return fields
    | _ => return []
  | h => h.refuse "a map"

/-! ### From texts and values -/

/-- How deeply arrays and objects may be nested in a text. -/
def maxLevels : Nat := 127

/-- Reads a text, which holds nothing else. -/
def ofText (d : Decoder α) (text : String) : Except ReadError α :=
  let document := Document.ofText text
  let result := do
    let x ← d (.written maxLevels document.root)
    match document.trailing with
    | some flaw => Source.flawed flaw
    | none => return x
  result.mapError fun f => ⟨f.cause, some (Position.ofOffset text f.offset)⟩

def ofJson (d : Decoder α) (j : Json) : Except ReadError α :=
  (d (.plain j)).mapError fun f => ⟨f.cause, none⟩

end Decoder

/-! ### Records -/

/-- A field of a record that is read into a draft. -/
structure Slot (δ : Type) where
  name : String
  /-- Whether the record is incomplete without it. -/
  required : Bool
  isSet : δ → Bool
  fill : Source → δ → Except Fault δ

def Slot.of {β δ : Type} (name : String) (required : Bool) (d : Decoder β) (get : δ → Option β)
    (set : β → δ → δ) : Slot δ where
  name
  required
  isSet draft := (get draft).isSome
  fill s draft := return set (← d s) draft

/-- How the values of a type are read by fields: from an empty draft, through the fields met, to
    the value, unless a required field is missing. -/
structure Record (δ α : Type) where
  name : String
  slots : List (Slot δ)
  /-- Whether other fields are refused. -/
  closed : Bool
  empty : δ
  finish : δ → Except String α

namespace Record

variable {δ α : Type}

def expected (r : Record δ α) : String :=
  "struct " ++ r.name ++ " with " ++ toString r.slots.length ++
    (if r.slots.length = 1 then " element" else " elements")

def fillMembers (r : Record δ α) (draft : δ) : List Member → Except Fault δ
  | [] => .ok draft
  | m :: rest => do
    let name ← m.name
    match r.slots.find? (·.name = name) with
    | some slot =>
      if slot.isSet draft then
        throw ⟨.shape (.duplicateField name), m.after⟩
      else
        fillMembers r (← slot.fill m.value draft) rest
    | none =>
      if r.closed then
        throw ⟨.shape (.unknownField name (r.slots.map (·.name))), m.after⟩
      else
        m.value.pass
        fillMembers r draft rest

/-- Reads the items of an array into a draft, one to each slot.  Items may be missing at the end
    where no field is required; the first required one gives the length that is too short. -/
def fillItems (r : Record δ α) (content : Items) (index : Nat) (draft : δ) :
    List (Slot δ) → List Source → Except Fault δ
  | [], _ => do
    content.closeAt index
    return draft
  | slot :: slots, s :: rest => do
    fillItems r content (index + 1) (← slot.fill s draft) slots rest
  | slot :: slots, [] => do
    content.close
    match (slot :: slots).findIdx? (·.required) with
    | some i => throw ⟨.shape (.wrongLength (index + i) r.expected), content.stop⟩
    | none => return draft

def decode (r : Record δ α) : Decoder α := fun s => do
  match ← s.head with
  | .object _ content =>
    let content ← content
    let draft ← r.fillMembers r.empty content.members
    content.close
    (r.finish draft).mapError fun name => ⟨.shape (.missingField name), content.stop⟩
  | .list _ content =>
    let content ← content
    let draft ← r.fillItems content 0 r.empty r.slots content.items
    (r.finish draft).mapError fun name => ⟨.shape (.missingField name), content.stop⟩
  | h => h.refuse ("struct " ++ r.name)

end Record

def required {β : Type} (name : String) : Option β → Except String β
  | some x => .ok x
  | none => .error name

end Flowgraph.Json
