/-
  Flowgraph/Proofs/Builtin/FirstKeyword.lean
  ==========================================
  **The keyword that a router goes by** — the first, in the order of the parameters, that is
  contained in the text it searches (`Keywords.Selects`), wherever in the text that is; the default
  if none is, and a failure if there is no default either.
-/
import Flowgraph.Builtin

namespace Flowgraph.Builtin.Keywords

variable {p : Keywords} {s : State} {incoming : List String} {text keyword condition : String}
variable {i : Nat}

/-- A keyword is contained in a text, both as the router compares them. -/
def Matches (p : Keywords) (text keyword : String) : Prop :=
  Text.Occurs (p.fold keyword) (p.fold text)

/-- The keyword at a position is contained in the text that the router searches, and none before
    it is. -/
structure Selects (p : Keywords) (s : State) (incoming : List String) (i : Nat)
    (keyword : String) : Prop where
  getElem?_eq : p.keywords[i]? = some keyword
  found : p.Matches (searched s incoming) keyword
  first : ∀ j < i, ∀ earlier, p.keywords[j]? = some earlier →
    ¬ p.Matches (searched s incoming) earlier

/-- No keyword is contained in the text that the router searches. -/
def Misses (p : Keywords) (s : State) (incoming : List String) : Prop :=
  ∀ keyword ∈ p.keywords, ¬ p.Matches (searched s incoming) keyword

/-- The empty keyword is contained in every text. -/
theorem matches_empty (p : Keywords) (text : String) : p.Matches text "" := by
  have hfold : p.fold "" = "" := by
    unfold fold
    split <;> rfl
  rw [Matches, hfold]
  exact Text.occurs_empty _

/-! ### The search -/

theorem find?_eq_some_iff :
    p.find? (searched s incoming) = some keyword ↔ ∃ i, p.Selects s incoming i keyword := by
  rw [find?, List.find?_eq_some_iff_getElem]
  simp only [Text.contains_iff, Bool.not_eq_true', ← Bool.not_eq_true]
  constructor
  · rintro ⟨hfound, i, hi, rfl, hfirst⟩
    refine ⟨i, List.getElem?_eq_getElem hi, hfound, fun j hj earlier hearlier => ?_⟩
    obtain ⟨hj', rfl⟩ := List.getElem?_eq_some_iff.1 hearlier
    exact hfirst j hj
  · rintro ⟨i, hkeyword, hfound, hfirst⟩
    obtain ⟨hi, rfl⟩ := List.getElem?_eq_some_iff.1 hkeyword
    refine ⟨hfound, i, hi, rfl, fun j hj => ?_⟩
    exact hfirst j hj _ (List.getElem?_eq_getElem (Nat.lt_trans hj hi))

theorem find?_eq_none_iff : p.find? (searched s incoming) = none ↔ p.Misses s incoming := by
  simp only [find?, List.find?_eq_none, Text.contains_iff, Misses, Matches]

theorem selects_or_misses (p : Keywords) (s : State) (incoming : List String) :
    (∃ i keyword, p.Selects s incoming i keyword) ∨ p.Misses s incoming := by
  cases hfind : p.find? (searched s incoming) with
  | none => exact .inr (find?_eq_none_iff.1 hfind)
  | some keyword =>
    obtain ⟨i, hselects⟩ := find?_eq_some_iff.1 hfind
    exact .inl ⟨i, keyword, hselects⟩

/-! ### The choice -/

theorem choose_of_selects (h : p.Selects s incoming i keyword) :
    p.choose s incoming = .ok keyword := by
  rw [choose, find?_eq_some_iff.2 ⟨i, h⟩]
  rfl

theorem choose_of_default (h : p.Misses s incoming) (hdefault : p.default = some condition) :
    p.choose s incoming = .ok condition := by
  rw [choose, find?_eq_none_iff.2 h, hdefault]
  rfl

theorem choose_of_no_default (h : p.Misses s incoming) (hdefault : p.default = none) :
    p.choose s incoming = .error "no keyword matched and no default is set" := by
  rw [choose, find?_eq_none_iff.2 h, hdefault]
  rfl

/-- A router names a keyword or its default. -/
theorem mem_of_choose (h : p.choose s incoming = .ok condition) :
    condition ∈ p.keywords ∨ p.default = some condition := by
  rcases selects_or_misses p s incoming with ⟨i, keyword, hselects⟩ | hmisses
  · cases (choose_of_selects hselects).symm.trans h
    exact .inl (List.mem_of_getElem? hselects.getElem?_eq)
  · cases hdefault : p.default with
    | some other =>
      cases (choose_of_default hmisses hdefault).symm.trans h
      exact .inr rfl
    | none => cases (choose_of_no_default hmisses hdefault).symm.trans h

theorem choose_eq_error_iff :
    (∃ message, p.choose s incoming = .error message) ↔
      p.Misses s incoming ∧ p.default = none := by
  constructor
  · rintro ⟨message, h⟩
    rcases selects_or_misses p s incoming with ⟨i, keyword, hselects⟩ | hmisses
    · cases (choose_of_selects hselects).symm.trans h
    · refine ⟨hmisses, ?_⟩
      cases hdefault : p.default with
      | some condition => cases (choose_of_default hmisses hdefault).symm.trans h
      | none => rfl
  · rintro ⟨hmisses, hdefault⟩
    exact ⟨_, choose_of_no_default hmisses hdefault⟩

end Flowgraph.Builtin.Keywords
