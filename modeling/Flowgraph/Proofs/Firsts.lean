/-
  Flowgraph/Proofs/Firsts.lean
  ============================
  **The first of each** — the members of a list, each once, in the order in which they come first
  (`Firsts`).  One more member at the end of the list is the last of them if it is new, and
  changes nothing if it is not (`Firsts.fresh`, `Firsts.again`).
-/
import Mathlib.Data.List.Induction
import Mathlib.Data.List.Nodup

namespace Flowgraph

/-- The members of a list, each once, in the order in which they come first. -/
structure Firsts (xs firsts : List String) : Prop where
  nodup : firsts.Nodup
  mem_iff : ∀ x, x ∈ firsts ↔ x ∈ xs
  ordered : firsts.Pairwise fun x y => xs.idxOf x < xs.idxOf y

namespace Firsts

variable {xs firsts : List String} {x : String}

theorem nil : Firsts [] [] := ⟨List.nodup_nil, fun _ => Iff.rfl, .nil⟩

/-- What has come before stays where it is. -/
theorem idxOf_concat (h : Firsts xs firsts) (x : String) {y : String} (hy : y ∈ firsts) :
    (xs ++ [x]).idxOf y = xs.idxOf y :=
  List.idxOf_append_of_mem ((h.mem_iff y).1 hy)

theorem ordered_concat (h : Firsts xs firsts) (x : String) :
    firsts.Pairwise fun y z => (xs ++ [x]).idxOf y < (xs ++ [x]).idxOf z := by
  refine h.ordered.imp_of_mem fun {y z} hy hz hlt => ?_
  rw [h.idxOf_concat x hy, h.idxOf_concat x hz]
  exact hlt

theorem again (h : Firsts xs firsts) (hx : x ∈ xs) : Firsts (xs ++ [x]) firsts := by
  refine ⟨h.nodup, fun y => ?_, h.ordered_concat x⟩
  rw [h.mem_iff y, List.mem_append, List.mem_singleton]
  constructor
  · exact Or.inl
  · rintro (hy | rfl)
    · exact hy
    · exact hx

theorem fresh (h : Firsts xs firsts) (hx : x ∉ xs) : Firsts (xs ++ [x]) (firsts ++ [x]) := by
  constructor
  · apply h.nodup.append (List.nodup_singleton x)
    intro y hy hyx
    rw [List.mem_singleton.1 hyx, h.mem_iff x] at hy
    exact hx hy
  · intro y
    rw [List.mem_append, List.mem_append, h.mem_iff y]
  · refine List.pairwise_append.2 ⟨h.ordered_concat x, List.pairwise_singleton _ _, ?_⟩
    intro y hy z hz
    rw [List.mem_singleton.1 hz, h.idxOf_concat x hy, List.idxOf_append_of_notMem hx]
    have hlt := List.idxOf_lt_length_iff.2 ((h.mem_iff y).1 hy)
    omega

end Firsts

theorem eraseDups_concat (xs : List String) (x : String) :
    (xs ++ [x]).eraseDups = if x ∈ xs then xs.eraseDups else xs.eraseDups ++ [x] := by
  rw [List.eraseDups_append]
  by_cases hx : x ∈ xs
  · simp [List.removeAll, hx]
  · simp [List.removeAll, hx, List.eraseDups_cons]

theorem firsts_eraseDups (xs : List String) : Firsts xs xs.eraseDups := by
  induction xs using List.reverseRecOn with
  | nil => exact .nil
  | append_singleton xs x ih =>
    rw [eraseDups_concat]
    split
    · next hseen => exact ih.again hseen
    · next hnew => exact ih.fresh hnew

end Flowgraph
