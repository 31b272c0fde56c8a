/-
  Flowgraph/Proofs/Text/Replacement.lean
  ======================================
  **Replacing a mark** — a text made of pieces with a mark between each two becomes the text made
  of the same pieces with the replacement between them, as long as no piece holds the mark
  (`replaceAll_intercalate`).  A piece may end as the mark begins, and the replacement may hold
  the mark: what is replaced is never looked at again.

  The mark is one whose first character does not come again in it, so no occurrence begins in a
  piece and ends in the mark that follows.
-/
import Flowgraph.Text.Search

namespace Flowgraph.Text

variable {c : Char} {tail mark replacement piece more : List Char}

/-- Where no occurrence begins, the text is kept. -/
theorem replaceFrom_append
    (h : ∀ before after, piece = before ++ after → after ≠ [] → ¬ mark <+: after ++ more) :
    replaceFrom mark replacement 0 (piece ++ more) =
      piece ++ replaceFrom mark replacement 0 more := by
  induction piece with
  | nil => rfl
  | cons d piece ih =>
    have hhead : ¬ mark <+: d :: (piece ++ more) := h [] (d :: piece) rfl (List.cons_ne_nil _ _)
    have hpiece := ih fun before after heq hne => h (d :: before) after (by rw [heq]; rfl) hne
    rw [List.cons_append, replaceFrom, if_neg (by rwa [List.isPrefixOf_iff_prefix]), hpiece,
      List.cons_append]

/-- The rest of an occurrence is passed over. -/
theorem replaceFrom_skip (mark replacement more rest : List Char) :
    replaceFrom mark replacement rest.length (rest ++ more) =
      replaceFrom mark replacement 0 more := by
  induction rest with
  | nil => rfl
  | cons d rest ih => exact ih

/-- An occurrence is replaced, and the search goes on behind it. -/
theorem replaceFrom_mark (c : Char) (tail replacement more : List Char) :
    replaceFrom (c :: tail) replacement 0 (c :: tail ++ more) =
      replacement ++ replaceFrom (c :: tail) replacement 0 more := by
  have hprefix : (c :: tail).isPrefixOf (c :: (tail ++ more)) = true :=
    List.isPrefixOf_iff_prefix.2 ⟨more, rfl⟩
  rw [List.cons_append, replaceFrom, if_pos hprefix, List.length_cons, Nat.add_sub_cancel,
    replaceFrom_skip]

/-! ### Pieces -/

/-- No occurrence begins in a piece before a mark.  It would have to end in the mark, and then
    the first character of the mark comes again in it. -/
theorem not_prefix_of_piece (htail : c ∉ tail) (hpiece : ¬ c :: tail <:+: piece)
    {before after : List Char} (hsplit : piece = before ++ after) (hne : after ≠ []) :
    ¬ c :: tail <+: after ++ (c :: tail ++ more) := by
  rintro ⟨rest, hrest⟩
  rcases List.append_eq_append_iff.1 hrest with ⟨shared, hafter, -⟩ | ⟨shared, hmark, hshared⟩
  · exact hpiece ⟨before, shared, by rw [hsplit, hafter, List.append_assoc]⟩
  · cases shared with
    | nil => exact hpiece ⟨before, [], by simp [hsplit, hmark]⟩
    | cons d shared =>
      obtain ⟨e, after, rfl⟩ := List.exists_cons_of_ne_nil hne
      rw [List.cons_append, List.cons_append, List.cons.injEq] at hshared
      rw [List.cons_append, List.cons.injEq] at hmark
      rw [hmark.2, ← hshared.1] at htail
      simp at htail

theorem not_prefix_of_last (hpiece : ¬ mark <:+: piece) {before after : List Char}
    (hsplit : piece = before ++ after) : ¬ mark <+: after ++ [] := by
  rintro ⟨rest, hrest⟩
  rw [List.append_nil] at hrest
  exact hpiece ⟨before, rest, by rw [hsplit, ← hrest, List.append_assoc]⟩

theorem replaceFrom_intercalate (htail : c ∉ tail) (replacement : List Char)
    {pieces : List (List Char)} (hpieces : ∀ piece ∈ pieces, ¬ c :: tail <:+: piece) :
    replaceFrom (c :: tail) replacement 0 ((c :: tail).intercalate pieces) =
      replacement.intercalate pieces := by
  induction pieces with
  | nil => rfl
  | cons piece pieces ih =>
    obtain ⟨hpiece, hrest⟩ := List.forall_mem_cons.1 hpieces
    cases pieces with
    | nil =>
      have hlast : replaceFrom (c :: tail) replacement 0 (piece ++ []) =
          piece ++ replaceFrom (c :: tail) replacement 0 [] :=
        replaceFrom_append fun before after hsplit _ => not_prefix_of_last hpiece hsplit
      simpa [List.intercalate, replaceFrom] using hlast
    | cons next pieces =>
      rw [List.intercalate_cons_cons, List.intercalate_cons_cons, List.append_assoc,
        replaceFrom_append fun before after => not_prefix_of_piece htail hpiece,
        replaceFrom_mark, ih hrest, List.append_assoc]

/-- Each mark between two pieces is replaced, and nothing else. -/
theorem replaceAll_intercalate {mark : String} (hmark : mark.toList = c :: tail)
    (htail : c ∉ tail) (replacement : String) {pieces : List String}
    (hpieces : ∀ piece ∈ pieces, ¬ Occurs mark piece) :
    replaceAll (mark.intercalate pieces) mark replacement = replacement.intercalate pieces := by
  have hlists : ∀ piece ∈ pieces.map String.toList, ¬ c :: tail <:+: piece := by
    intro piece hmem
    obtain ⟨text, htext, rfl⟩ := List.mem_map.1 hmem
    rw [← hmark, ← occurs_iff_isInfix]
    exact hpieces text htext
  apply String.toList_injective
  rw [replaceAll, String.toList_ofList, String.toList_intercalate, String.toList_intercalate,
    hmark, replaceFrom_intercalate htail _ hlists]

end Flowgraph.Text
