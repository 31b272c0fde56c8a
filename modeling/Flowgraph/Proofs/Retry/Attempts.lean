/-
  Flowgraph/Proofs/Retry/Attempts.lean
  ====================================
  **The calls made under a policy** — which call is the last and what it came to, said without
  the loop: every call before failed with an error that the policy retries, and no call may
  follow.  This determines the last call (`Attempts.unique`), and it is the one that the loop
  stops at (`attempts_iff`).
-/
import Flowgraph.Retry.Execution

namespace Flowgraph.RetryPolicy

variable {α : Type}

/-- The first `calls` calls are made and no more, and the last of them comes to `last`. -/
structure Attempts (p : RetryPolicy) (call : Nat → Outcome α) (calls : Nat) (last : Outcome α) :
    Prop where
  pos : 0 < calls
  le_budget : calls ≤ p.budget
  last_eq : call calls = last
  retried : ∀ i, 0 < i → i < calls → ∃ error, call i = .failed error ∧ p.retryOn error = true
  gives_up : ∀ error, last = .failed error → calls = p.budget ∨ p.retryOn error = false

variable {p : RetryPolicy} {call : Nat → Outcome α} {factor : Nat → Binary64}

namespace Attempts

/-- The last of the calls is not one that a further call follows. -/
theorem le {k k' : Nat} {last last' : Outcome α} (h : p.Attempts call k last)
    (h' : p.Attempts call k' last') : k ≤ k' := by
  refine Nat.le_of_not_lt fun hlt => ?_
  obtain ⟨error, hcall, hretry⟩ := h.retried k' h'.pos hlt
  have hle := h.le_budget
  rcases h'.gives_up error (h'.last_eq.symm.trans hcall) with hbudget | hreject
  · omega
  · rw [hretry] at hreject
    cases hreject

theorem unique {k k' : Nat} {last last' : Outcome α} (h : p.Attempts call k last)
    (h' : p.Attempts call k' last') : k = k' ∧ last = last' := by
  have hk : k = k' := Nat.le_antisymm (h.le h') (h'.le h)
  subst hk
  exact ⟨rfl, h.last_eq.symm.trans h'.last_eq⟩

/-- If the first call is not one to be repeated, it is the last. -/
theorem calls_eq_one {k : Nat} {last : Outcome α} (h : p.Attempts call k last)
    (hfirst : ∀ error, call 1 = .failed error → p.retryOn error = false) : k = 1 := by
  refine Nat.le_antisymm (Nat.le_of_not_lt fun hlt => ?_) h.pos
  obtain ⟨error, hcall, hretry⟩ := h.retried 1 Nat.one_pos hlt
  rw [hfirst error hcall] at hretry
  cases hretry

end Attempts

/-! ### The loop -/

theorem again?_eq_none_iff {attempt : Nat} {x : Binary64} {error : NodeError} :
    p.again? attempt x error = none ↔ p.budget ≤ attempt ∨ p.retryOn error = false := by
  unfold again?
  split
  · next h => simp [h]
  · next h => simp [h]

theorem retryOn_of_again?_eq_some {attempt : Nat} {x : Binary64} {error : NodeError}
    {retry : Retry} (h : p.again? attempt x error = some retry) : p.retryOn error = true := by
  cases hretry : p.retryOn error with
  | true => rfl
  | false =>
    rw [again?_eq_none_iff.2 (.inr hretry)] at h
    cases h

theorem eq_of_again?_eq_some {attempt : Nat} {x : Binary64} {error : NodeError}
    {retry : Retry} (h : p.again? attempt x error = some retry) :
    retry = ⟨attempt, error, p.backoff attempt x, p.isScaled attempt⟩ := by
  unfold again? at h
  split at h
  · cases h
  · cases h
    rfl

theorem executeFrom_eq_of_last {attempt : Nat} {error : NodeError}
    (hcall : call attempt = .failed error)
    (hlast : p.again? attempt (factor attempt) error = none) :
    p.executeFrom factor call attempt = ⟨[], .failed error⟩ := by
  rw [executeFrom, hcall]
  dsimp only
  split
  · rfl
  · next h =>
    rw [hlast] at h
    cases h

theorem executeFrom_eq_of_again {attempt : Nat} {error : NodeError} {retry : Retry}
    (hcall : call attempt = .failed error)
    (hagain : p.again? attempt (factor attempt) error = some retry) :
    p.executeFrom factor call attempt =
      ⟨retry :: (p.executeFrom factor call (attempt + 1)).retries,
        (p.executeFrom factor call (attempt + 1)).last⟩ := by
  rw [executeFrom, hcall]
  dsimp only
  split
  · next h =>
    rw [hagain] at h
    cases h
  · next h =>
    rw [hagain] at h
    cases h
    rfl

theorem executeFrom_eq_of_not_failed {attempt : Nat}
    (hcall : ∀ error, call attempt ≠ .failed error) :
    p.executeFrom factor call attempt = ⟨[], call attempt⟩ := by
  rw [executeFrom]
  split
  · next h => exact absurd h (hcall _)
  · rfl

/-- What is repeated is the call with its number, which failed with an error that the policy
    retries. -/
theorem again?_of_mem_retries {retry : Retry} (h : retry ∈ (p.execute factor call).retries) :
    call retry.attempt = .failed retry.error ∧
      p.again? retry.attempt (factor retry.attempt) retry.error = some retry := by
  have hfrom : ∀ attempt, retry ∈ (p.executeFrom factor call attempt).retries →
      call retry.attempt = .failed retry.error ∧
        p.again? retry.attempt (factor retry.attempt) retry.error = some retry := by
    intro attempt h
    fun_induction executeFrom p factor call attempt with
    | case1 => cases h
    | case2 attempt error hcall again hagain rest ih =>
      rcases List.mem_cons.1 h with rfl | hrest
      · have hretry := eq_of_again?_eq_some hagain
        rw [hretry] at hagain ⊢
        exact ⟨hcall, hagain⟩
      · exact ih hrest
    | case3 => cases h
  exact hfrom 1 h

theorem exists_call_of_mem_retries {retry : Retry}
    (h : retry ∈ (p.execute factor call).retries) :
    ∃ i, call i = .failed retry.error ∧ p.retryOn retry.error = true := by
  obtain ⟨hcall, hagain⟩ := again?_of_mem_retries h
  exact ⟨_, hcall, retryOn_of_again?_eq_some hagain⟩

/-- The calls that are repeated come one after the other. -/
theorem map_attempt_executeFrom (p : RetryPolicy) (factor : Nat → Binary64)
    (call : Nat → Outcome α) (attempt : Nat) :
    (p.executeFrom factor call attempt).retries.map (·.attempt) =
      List.range' attempt (p.executeFrom factor call attempt).retries.length := by
  fun_induction executeFrom p factor call attempt with
  | case1 => rfl
  | case2 attempt error hcall retry hagain rest ih =>
    rw [List.map_cons, List.length_cons, List.range'_succ, ih, eq_of_again?_eq_some hagain]
  | case3 => rfl

/-- If all earlier calls were to be repeated, the loop makes the rest of the calls. -/
theorem attempts_executeFrom (factor : Nat → Binary64) {attempt : Nat} (hpos : 0 < attempt)
    (hle : attempt ≤ p.budget)
    (hbefore : ∀ i, 0 < i → i < attempt →
      ∃ error, call i = .failed error ∧ p.retryOn error = true) :
    p.Attempts call (attempt + (p.executeFrom factor call attempt).retries.length)
      (p.executeFrom factor call attempt).last := by
  fun_induction executeFrom p factor call attempt with
  | case1 attempt error hcall hagain =>
    refine ⟨hpos, hle, hcall, hbefore, fun error' herror => ?_⟩
    cases herror
    rcases again?_eq_none_iff.1 hagain with hbudget | hreject
    · exact .inl (Nat.le_antisymm hle hbudget)
    · exact .inr hreject
  | case2 attempt error hcall retry hagain rest ih =>
    have hlt : attempt < p.budget := lt_budget_of_again?_eq_some hagain
    have hrest := ih (Nat.succ_pos _) hlt fun i hi hlt => by
      rcases Nat.lt_succ_iff_lt_or_eq.1 hlt with hlt | rfl
      · exact hbefore i hi hlt
      · exact ⟨error, hcall, retryOn_of_again?_eq_some hagain⟩
    have hlength : attempt + (retry :: rest.retries).length = attempt + 1 + rest.retries.length := by
      rw [List.length_cons]
      omega
    rw [hlength]
    exact hrest
  | case3 attempt hcall =>
    refine ⟨hpos, hle, rfl, hbefore, fun error herror => ?_⟩
    exact absurd herror (hcall error)

/-- The loop stops at the last call that the policy allows. -/
theorem attempts_iff {k : Nat} {last : Outcome α} :
    p.Attempts call k last ↔
      (p.execute factor call).calls = k ∧ (p.execute factor call).last = last := by
  have hloop : p.Attempts call (p.execute factor call).calls (p.execute factor call).last := by
    have hbefore : ∀ i, 0 < i → i < 1 → ∃ error, call i = .failed error ∧ p.retryOn error = true :=
      fun i hi hlt => absurd hlt (by omega)
    have hfrom := attempts_executeFrom factor Nat.one_pos p.budget_pos hbefore
    rw [Nat.add_comm] at hfrom
    exact hfrom
  constructor
  · intro h
    exact hloop.unique h
  · rintro ⟨rfl, rfl⟩
    exact hloop

/-- Whatever the calls come to, there is a last one. -/
theorem exists_attempts (p : RetryPolicy) (call : Nat → Outcome α) :
    ∃ k last, p.Attempts call k last := by
  let execution := p.execute (fun _ => 1) call
  exact ⟨execution.calls, execution.last, attempts_iff.2 ⟨rfl, rfl⟩⟩

end Flowgraph.RetryPolicy
