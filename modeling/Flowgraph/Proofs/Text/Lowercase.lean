/-
  Flowgraph/Proofs/Text/Lowercase.lean
  ====================================
  **Lower case and the parts of a text** — when the lower-case form of a part is sure to occur in
  the lower-case form of the whole (`settled_iff`).  It is if the form of each capital sigma in the
  part is settled there (`Settled`): if it stays the same whatever comes before the part and after
  it.

  A sigma that is not settled changes its form when a letter is put before the part, or after it.
  The form of the part by itself is then found nowhere: elsewhere it would have to begin or end
  with that letter, and there are letters enough to choose another.
-/
import Mathlib.Tactic.ByContra
import Flowgraph.Text.Lowercase
import Flowgraph.Text.Search

namespace Flowgraph.Text

variable {before after cs more : List Char} {c x : Char}

/-! ### The form of a sigma -/

/-- Whether one of the characters counts where a cased letter is looked for. -/
def anyCounts (cs : List Char) : Bool := cs.any fun c => !caseIgnorableTable.holds c

theorem meetsCased_cons (c : Char) (cs : List Char) :
    meetsCased (c :: cs) =
      if caseIgnorableTable.holds c then meetsCased cs else casedTable.holds c := by
  rw [meetsCased, List.dropWhile_cons]
  by_cases hc : caseIgnorableTable.holds c = true
  · rw [if_pos hc, if_pos hc, meetsCased]
  · rw [if_neg hc, if_neg hc]

/-- What counts in the first characters settles what they meet. -/
theorem meetsCased_append (cs more : List Char) :
    meetsCased (cs ++ more) = if anyCounts cs then meetsCased cs else meetsCased more := by
  induction cs with
  | nil => rfl
  | cons c cs ih =>
    rw [List.cons_append, meetsCased_cons, meetsCased_cons, ih]
    cases hc : caseIgnorableTable.holds c with
    | false => simp [anyCounts, hc]
    | true => simp [anyCounts, hc]

theorem anyCounts_of_meetsCased (h : meetsCased cs = true) : anyCounts cs = true := by
  by_contra hnone
  have hall := meetsCased_append cs []
  rw [if_neg hnone, List.append_nil, h] at hall
  cases hall

/-- Whether the form of a sigma between these characters hangs on no others: a cased letter is met
    after it; or what is met before it counts, and is no cased letter or something counts after it
    as well. -/
def sigmaSettled (before after : List Char) : Bool :=
  meetsCased after || (anyCounts before && (!meetsCased before || anyCounts after))

theorem lowerSigma_of_settled (h : sigmaSettled before after = true) (outer outer' : List Char) :
    lowerSigma (before ++ outer) (after ++ outer') = lowerSigma before after := by
  unfold lowerSigma
  rw [meetsCased_append, meetsCased_append]
  cases hafter : meetsCased after with
  | true => simp [anyCounts_of_meetsCased hafter]
  | false =>
    simp only [sigmaSettled, hafter, Bool.false_or, Bool.and_eq_true, Bool.or_eq_true,
      Bool.not_eq_true'] at h
    obtain ⟨hbefore, hword | hcounts⟩ := h
    · simp [hbefore, hword]
    · simp [hbefore, hcounts]

/-- A sigma that is not settled has another form with a letter before the text or after it. -/
theorem lowerSigma_ne (h : sigmaSettled before after = false) (hx : meetsCased [x] = true) :
    lowerSigma (before ++ [x]) after ≠ lowerSigma before after ∨
      lowerSigma before (after ++ [x]) ≠ lowerSigma before after := by
  simp only [sigmaSettled, Bool.or_eq_false_iff, Bool.and_eq_false_iff, Bool.not_eq_false'] at h
  obtain ⟨hafter, hnothing | ⟨hword, hcounts⟩⟩ := h
  · left
    have hbefore : meetsCased before = false := by
      by_contra hmeets
      rw [anyCounts_of_meetsCased (by simpa using hmeets)] at hnothing
      cases hnothing
    simp [lowerSigma, meetsCased_append, hnothing, hx, hafter, hbefore]
  · right
    simp [lowerSigma, meetsCased_append, hcounts, hx, hafter, hword]

/-! ### The form of a part -/

/-- The lower-case form of a part of a text, with the characters that precede it given nearest
    first, and those that follow it. -/
def lowerBetween (before after : List Char) : List Char → List Char
  | [] => []
  | c :: rest =>
    (if c = 'Σ' then [lowerSigma before (rest ++ after)] else lowerChar c) ++
      lowerBetween (c :: before) after rest

theorem lowerFrom_append (before cs more : List Char) :
    lowerFrom before (cs ++ more) =
      lowerBetween before more cs ++ lowerFrom (cs.reverse ++ before) more := by
  induction cs generalizing before with
  | nil => rfl
  | cons c cs ih =>
    rw [List.cons_append, lowerFrom, ih, lowerBetween, List.append_assoc, List.reverse_cons,
      List.append_assoc, List.singleton_append]

theorem lowerBetween_nil (before cs : List Char) :
    lowerBetween before [] cs = lowerFrom before cs := by
  have happend := lowerFrom_append before cs []
  rw [List.append_nil, lowerFrom, List.append_nil] at happend
  exact happend.symm

/-- Whether every capital sigma is settled, with the characters that precede it given nearest
    first. -/
def settledFrom (before : List Char) : List Char → Bool
  | [] => true
  | c :: rest => (c ≠ 'Σ' || sigmaSettled before rest) && settledFrom (c :: before) rest

theorem lowerBetween_of_settled (h : settledFrom before cs = true) (outer after : List Char) :
    lowerBetween (before ++ outer) after cs = lowerFrom before cs := by
  induction cs generalizing before with
  | nil => rfl
  | cons c cs ih =>
    simp only [settledFrom, Bool.and_eq_true, Bool.or_eq_true, decide_eq_true_eq] at h
    obtain ⟨hhead, hrest⟩ := h
    rw [lowerBetween, lowerFrom, ← List.cons_append, ih hrest]
    by_cases hc : c = 'Σ'
    · rw [if_pos hc, if_pos hc, lowerSigma_of_settled (hhead.resolve_left (by simp [hc]))]
    · rw [if_neg hc, if_neg hc]

/-- How long the form of a part is does not hang on what is around it. -/
theorem length_lowerBetween (before after outer : List Char) :
    (lowerBetween outer after cs).length = (lowerFrom before cs).length := by
  induction cs generalizing before outer with
  | nil => rfl
  | cons c cs ih =>
    rw [lowerBetween, lowerFrom, List.length_append, List.length_append, ih (c :: before)]
    split <;> rfl

theorem lowerBetween_ne (h : settledFrom before cs = false) (hx : meetsCased [x] = true) :
    lowerBetween (before ++ [x]) [] cs ≠ lowerFrom before cs ∨
      lowerBetween before [x] cs ≠ lowerFrom before cs := by
  induction cs generalizing before with
  | nil => cases h
  | cons c cs ih =>
    simp only [lowerBetween, lowerFrom]
    rw [settledFrom, Bool.and_eq_false_iff] at h
    rcases h with hhead | hrest
    · -- The first character is a sigma that another letter gives another form.
      simp only [Bool.or_eq_false_iff, decide_eq_false_iff_not, not_not] at hhead
      obtain ⟨hc, hsigma⟩ := hhead
      rw [if_pos hc, if_pos hc, if_pos hc, List.append_nil]
      refine (lowerSigma_ne hsigma hx).imp (fun hne heq => hne ?_) fun hne heq => hne ?_
      · exact (List.cons.inj heq).1
      · exact (List.cons.inj heq).1
    · -- A later one is.  What follows the first character is as long in any surroundings.
      rw [← List.cons_append]
      refine (ih hrest).imp (fun hne heq => hne ?_) fun hne heq => hne ?_
      · exact (List.append_inj' heq (length_lowerBetween _ _ _)).2
      · exact (List.append_inj' heq (length_lowerBetween _ _ _)).2

/-! ### Parts that do not occur -/

theorem not_infix_cons {xs ys : List Char} (hne : xs ≠ ys) (hlength : ys.length = xs.length)
    (hx : xs.head? ≠ some x) : ¬ xs <:+: x :: ys := by
  intro h
  rcases List.infix_cons_iff.1 h with hprefix | hinside
  · rcases List.prefix_cons_iff.1 hprefix with rfl | ⟨rest, rfl, -⟩
    · exact hne (List.eq_nil_of_length_eq_zero hlength).symm
    · exact hx rfl
  · exact hne (hinside.eq_of_length hlength.symm)

theorem not_infix_concat {xs ys : List Char} (hne : xs ≠ ys) (hlength : ys.length = xs.length)
    (hx : xs.getLast? ≠ some x) : ¬ xs <:+: ys ++ [x] := by
  intro h
  rcases List.infix_concat_iff.1 h with hsuffix | hinside
  · rcases List.suffix_concat_iff.1 hsuffix with rfl | ⟨rest, rfl, -⟩
    · exact hne (List.eq_nil_of_length_eq_zero hlength).symm
    · exact hx List.getLast?_concat
  · exact hne (hinside.eq_of_length hlength.symm)

/-- There is a small letter besides any two characters. -/
theorem exists_other_letter (first last : Option Char) :
    ∃ x, first ≠ some x ∧ last ≠ some x ∧ meetsCased [x] = true ∧
      ∀ before cs, lowerFrom before (x :: cs) = x :: lowerFrom (x :: before) cs := by
  obtain ⟨x, hx, hfirst, hlast⟩ : ∃ x ∈ ['a', 'b', 'c'], first ≠ some x ∧ last ≠ some x := by
    -- Two characters cannot be three letters.
    by_contra hnone
    have ha : first = some 'a' ∨ last = some 'a' := by grind
    have hb : first = some 'b' ∨ last = some 'b' := by grind
    have hc : first = some 'c' ∨ last = some 'c' := by grind
    grind
  obtain ⟨hsigma, hlower, hmeets⟩ : x ≠ 'Σ' ∧ lowerChar x = [x] ∧ meetsCased [x] = true := by
    -- One letter at a time: a table is run through for each.
    simp only [List.mem_cons, List.not_mem_nil, or_false] at hx
    rcases hx with rfl | rfl | rfl <;> decide +kernel
  refine ⟨x, hfirst, hlast, hmeets, fun before cs => ?_⟩
  rw [lowerFrom, if_neg hsigma, hlower, List.singleton_append]

/-! ### Whole texts -/

/-- The form of every capital sigma in the text stays the same with any text before and after. -/
def Settled (text : String) : Prop := settledFrom [] text.toList = true

instance (text : String) : Decidable (Settled text) := inferInstanceAs (Decidable (_ = true))

theorem settled_of_notMem {text : String} (h : 'Σ' ∉ text.toList) : Settled text := by
  have hfrom : ∀ cs before, 'Σ' ∉ cs → settledFrom before cs = true := by
    intro cs
    induction cs with
    | nil => intro before _; rfl
    | cons c cs ih =>
      intro before hnot
      rw [List.mem_cons, not_or] at hnot
      simp [settledFrom, Ne.symm hnot.1, ih _ hnot.2]
  exact hfrom _ _ h

theorem occurs_lowercase_of_settled {needle text : String} (h : Settled needle)
    (hoccurs : Occurs needle text) : Occurs (lowercase needle) (lowercase text) := by
  obtain ⟨before, after, rfl⟩ := hoccurs
  have hpart := lowerBetween_of_settled h before.toList.reverse after.toList
  rw [List.nil_append] at hpart
  rw [occurs_iff_isInfix]
  simp only [lowercase, String.toList_ofList, String.toList_append, List.append_assoc,
    lowerFrom_append, List.append_nil, hpart]
  exact List.infix_append' _ _ _

/-- A text that is not settled has a letter to be put before it or after it. -/
theorem exists_occurs_of_not_settled {needle : String} (h : ¬ Settled needle) :
    ∃ text, Occurs needle text ∧ ¬ Occurs (lowercase needle) (lowercase text) := by
  have hfrom : settledFrom [] needle.toList = false := Bool.eq_false_iff.2 h
  obtain ⟨x, hhead, hlast, hmeets, hlower⟩ := exists_other_letter
    (lowerFrom [] needle.toList).head? (lowerFrom [] needle.toList).getLast?
  rcases lowerBetween_ne hfrom hmeets with hne | hne
  · have habsent := not_infix_cons hne.symm (length_lowerBetween _ _ _) hhead
    refine ⟨String.ofList [x] ++ needle, ⟨String.ofList [x], "", by simp⟩, ?_⟩
    simpa [occurs_iff_isInfix, lowercase, hlower, lowerBetween_nil] using habsent
  · have habsent := not_infix_concat hne.symm (length_lowerBetween _ _ _) hlast
    have hletter : ∀ before, lowerFrom before [x] = [x] := fun before => hlower before []
    refine ⟨needle ++ String.ofList [x], ⟨"", String.ofList [x], by simp⟩, ?_⟩
    simpa [occurs_iff_isInfix, lowercase, lowerFrom_append, hletter] using habsent

/-- The form of a text occurs in that of every text that holds it, exactly if it is settled. -/
theorem settled_iff {needle : String} :
    Settled needle ↔
      ∀ text, Occurs needle text → Occurs (lowercase needle) (lowercase text) := by
  constructor
  · intro h text
    exact occurs_lowercase_of_settled h
  · intro h
    by_contra hnot
    obtain ⟨text, hoccurs, habsent⟩ := exists_occurs_of_not_settled hnot
    exact habsent (h text hoccurs)

end Flowgraph.Text
