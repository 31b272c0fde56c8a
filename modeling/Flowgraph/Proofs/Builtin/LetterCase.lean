/-
  Flowgraph/Proofs/Builtin/LetterCase.lean
  ========================================
  **Routers that tell capital and small letters apart, and routers that do not** — a router of the
  second kind should find a keyword wherever one of the first kind does, though perhaps an earlier
  one (`Keywords.Widens`).  It does exactly for the keywords whose capital sigmas keep their form in
  every text (`widens_iff_settled`).

  The lower-case form of a text is not made of those of its parts: a sigma that ends a word has a
  form of its own.  So a keyword that ends in a sigma is not found within a longer word, nor one
  that begins with a sigma at the end of a word (`sigma_missed`).
-/
import Flowgraph.Proofs.Builtin.FirstKeyword
import Flowgraph.Proofs.Text.Lowercase

namespace Flowgraph.Builtin.Keywords

/-- Whenever a router that tells letters apart goes by the keyword, a router that does not goes by
    a keyword as well, one that stands no later. -/
def Widens (keyword : String) : Prop :=
  ∀ (keywords : List String) (default : Option String) (s : State) (incoming : List String)
    (i : Nat), Selects ⟨keywords, default, true⟩ s incoming i keyword →
      ∃ j ≤ i, ∃ other, Selects ⟨keywords, default, false⟩ s incoming j other ∧
        choose ⟨keywords, default, false⟩ s incoming = .ok other

theorem widens_of_settled {keyword : String} (h : Text.Settled keyword) : Widens keyword := by
  intro keywords default s incoming i hselects
  have hfound : Matches ⟨keywords, default, false⟩ (searched s incoming) keyword :=
    Text.occurs_lowercase_of_settled h hselects.found
  rcases selects_or_misses ⟨keywords, default, false⟩ s incoming with ⟨j, other, hother⟩ | hmisses
  · refine ⟨j, Nat.le_of_not_lt fun hlt => ?_, other, hother, choose_of_selects hother⟩
    exact hother.first i hlt keyword hselects.getElem?_eq hfound
  · exact absurd hfound (hmisses keyword (List.mem_of_getElem? hselects.getElem?_eq))

/-- A router with a single keyword can go by no other. -/
theorem settled_of_widens {keyword : String} (h : Widens keyword) : Text.Settled keyword := by
  refine Text.settled_iff.2 fun text hoccurs => ?_
  have hstrict : Selects ⟨[keyword], none, true⟩ (.ofInput (.str text)) [] 0 keyword :=
    ⟨rfl, hoccurs, fun j hj => absurd hj (Nat.not_lt_zero j)⟩
  obtain ⟨j, hj, other, hother, -⟩ := h _ _ _ _ _ hstrict
  obtain rfl := Nat.le_zero.1 hj
  obtain rfl : keyword = other := Option.some.inj hother.getElem?_eq
  exact hother.found

/-- The keywords that a router finds as well when it does not tell letters apart are those whose
    capital sigmas are settled.  All without a capital sigma are among them. -/
theorem widens_iff_settled (keyword : String) :
    (Widens keyword ↔ Text.Settled keyword) ∧ ('Σ' ∉ keyword.toList → Widens keyword) := by
  constructor
  · exact ⟨settled_of_widens, widens_of_settled⟩
  · intro hnone
    exact widens_of_settled (Text.settled_of_notMem hnone)

/-- The sigma ends a word in the text, and by itself does not. -/
theorem sigma_missed :
    let s := State.ofInput (.str "ΑΣ")
    Selects ⟨["Σ"], none, true⟩ s [] 0 "Σ" ∧ Misses ⟨["Σ"], none, false⟩ s [] ∧
      choose ⟨["Σ"], none, false⟩ s [] = .error "no keyword matched and no default is set" := by
  intro s
  have hfound : Matches ⟨["Σ"], none, true⟩ (searched s []) "Σ" := by
    rw [Matches, ← Text.contains_iff]
    decide +kernel
  have hmisses : Misses ⟨["Σ"], none, false⟩ s [] := by
    rw [← find?_eq_none_iff]
    decide +kernel
  refine ⟨⟨rfl, hfound, fun j hj => ?_⟩, hmisses, choose_of_no_default hmisses rfl⟩
  exact absurd hj (Nat.not_lt_zero j)

end Flowgraph.Builtin.Keywords
