/-
  Flowgraph/Text/Search.lean
  ==========================
  **Finding and replacing** — whether one text occurs in another, and the replacement of every
  occurrence in a single pass from left to right.  Replaced text is not searched again, and
  occurrences do not overlap.
-/
namespace Flowgraph.Text

/-! ### Occurrence -/

/-- Whether `needle` occurs in `cs`.  The empty text occurs everywhere. -/
def occursIn (needle : List Char) : List Char → Bool
  | [] => needle.isEmpty
  | c :: cs => needle.isPrefixOf (c :: cs) || occursIn needle cs

/-- Whether `needle` occurs in `text`. -/
def contains (text needle : String) : Bool := occursIn needle.toList text.toList

theorem occursIn_iff (needle cs : List Char) :
    occursIn needle cs = true ↔ ∃ before after, cs = before ++ needle ++ after := by
  induction cs with
  | nil =>
    simp only [occursIn, List.isEmpty_iff]
    constructor
    · rintro rfl; exact ⟨[], [], rfl⟩
    · rintro ⟨before, after, h⟩
      simp only [List.nil_eq, List.append_eq_nil_iff] at h
      exact h.1.2
  | cons c cs ih =>
    simp only [occursIn, Bool.or_eq_true, List.isPrefixOf_iff_prefix, ih]
    constructor
    · rintro (⟨after, h⟩ | ⟨before, after, h⟩)
      · exact ⟨[], after, by rw [List.nil_append, h]⟩
      · exact ⟨c :: before, after, by rw [h, List.cons_append, List.cons_append]⟩
    · rintro ⟨before, after, h⟩
      cases before with
      | nil => exact Or.inl ⟨after, by rw [h, List.nil_append]⟩
      | cons b before =>
        rw [List.cons_append, List.cons_append, List.cons.injEq] at h
        exact Or.inr ⟨before, after, h.2⟩

/-- `needle` stands somewhere in `text`. -/
def Occurs (needle text : String) : Prop := ∃ before after, text = before ++ needle ++ after

theorem occurs_iff_isInfix {needle text : String} :
    Occurs needle text ↔ needle.toList <:+: text.toList := by
  constructor
  · rintro ⟨before, after, rfl⟩
    exact ⟨before.toList, after.toList, by simp⟩
  · rintro ⟨before, after, h⟩
    refine ⟨String.ofList before, String.ofList after, String.toList_injective ?_⟩
    simpa using h.symm

theorem contains_iff {text needle : String} : contains text needle = true ↔ Occurs needle text := by
  rw [contains, occursIn_iff, occurs_iff_isInfix]
  constructor
  · rintro ⟨before, after, h⟩
    exact ⟨before, after, h.symm⟩
  · rintro ⟨before, after, h⟩
    exact ⟨before, after, h.symm⟩

/-- The empty text occurs everywhere. -/
theorem occurs_empty (text : String) : Occurs "" text := ⟨"", text, by simp⟩

/-! ### Replacement -/

/-- `cs` with every occurrence of `mark` replaced by `replacement`.  `skip` counts the characters still
    to be dropped of the occurrence just replaced. -/
def replaceFrom (mark replacement : List Char) : Nat → List Char → List Char
  | _, [] => []
  | skip + 1, _ :: cs => replaceFrom mark replacement skip cs
  | 0, c :: cs =>
    if mark.isPrefixOf (c :: cs) then
      replacement ++ replaceFrom mark replacement (mark.length - 1) cs
    else
      c :: replaceFrom mark replacement 0 cs

/-- `text` with every occurrence of the (nonempty) `mark` replaced by `replacement`. -/
def replaceAll (text mark replacement : String) : String :=
  String.ofList (replaceFrom mark.toList replacement.toList 0 text.toList)

end Flowgraph.Text
