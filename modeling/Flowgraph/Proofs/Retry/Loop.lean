/-
  Flowgraph/Proofs/Retry/Loop.lean
  ================================
  **What a loop of calls does** — calls are made up to the first that may not be followed by
  another (`EndsAt`).  Each call before it is logged as one that is repeated, and then there is a
  wait unless it has no length (`Retry.acts`).  The count of the calls does not overflow, since no
  budget is too large to be reached (`exists_loop?_eq`).
-/
import Mathlib.Order.Bounds.Basic
import Flowgraph.Proofs.Retry.Attempts
import Flowgraph.Retry.Loop
import Flowgraph.Run

namespace Flowgraph

theorem Duration.isZero_iff {d : Duration} : d.isZero = true ↔ d = .zero := by
  obtain ⟨nanos, hbounded⟩ := d
  simp [isZero, zero, ofNanos, nanosPerSecond]

namespace RetryPolicy

/-! ### The count of the calls -/

variable {α : Type} {p : RetryPolicy} {factor : Nat → Binary64} {call : Nat → Outcome α}

theorem toNat_max_one (p : RetryPolicy) : (max p.maxAttempts 1).toNat = p.budget := by
  rw [UInt32.toNat_max]
  rfl

/-- While calls are left, the loop with a count does what `executeFrom` lists. -/
theorem exists_loop?_eq (p : RetryPolicy) (id : String) (factor : Nat → Binary64)
    (call : Nat → Outcome α) (made : UInt32) (hmade : made.toNat < p.budget) :
    let e := p.executeFrom factor call (made.toNat + 1)
    ∃ attempts : UInt32, attempts.toNat = made.toNat + 1 + e.retries.length ∧
      p.loop? id factor call made = some ⟨e.acts id p (made.toNat + 1), e.last, attempts⟩ := by
  have hbudget := p.budget_lt
  fun_induction loop? p id factor call made with
  | case1 made hroom attempt error hcall hstop =>
    have hattempt : attempt.toNat = made.toNat + 1 := toNat_add_one hroom
    rw [UInt32.le_iff_toNat_le, toNat_max_one, hattempt] at hstop
    rw [hattempt] at hcall ⊢
    rw [executeFrom_eq_of_last hcall (again?_eq_none_iff.2 hstop)]
    exact ⟨attempt, hattempt, rfl⟩
  | case2 made hroom attempt error hcall hgoes delay retry event wait ih =>
    have hattempt : attempt.toNat = made.toNat + 1 := toNat_add_one hroom
    rw [UInt32.le_iff_toNat_le, toNat_max_one] at hgoes
    have hagain : p.again? attempt.toNat (factor attempt.toNat) error = some retry := if_neg hgoes
    have hevent : event = .retrying id retry p.budget :=
      congrArg (LogEvent.retrying id retry) p.toNat_max_one
    obtain ⟨attempts, hattempts, hrest⟩ := ih (by omega)
    rw [hrest, hevent, ← hattempt, executeFrom_eq_of_again hcall hagain]
    refine ⟨attempts, ?_, ?_⟩
    · rw [hattempts, List.length_cons]
      omega
    · have hwait : wait = if retry.sleeps then [.sleep retry.delay] else [] := by
        by_cases hzero : delay.isZero <;> simp [wait, retry, Retry.sleeps, hzero]
      rw [Execution.acts_cons, Retry.acts, hwait]
      rfl
  | case3 made hroom attempt hcall =>
    have hattempt : attempt.toNat = made.toNat + 1 := toNat_add_one hroom
    rw [hattempt] at hcall ⊢
    rw [executeFrom_eq_of_not_failed hcall]
    exact ⟨attempt, hattempt, rfl⟩
  | case4 made hfull =>
    -- the count is full, so it has reached every budget
    omega

/-! ### What the calls come to -/

/-- No call follows this one: it succeeded or panicked, it failed with an error that the policy
    rejects, or it is the last that is allowed. -/
def EndsAt (p : RetryPolicy) (call : Nat → Outcome α) (i : Nat) : Prop :=
  (∃ value, call i = .ok value) ∨ (∃ text, call i = .panicked text) ∨
    (∃ error, call i = .failed error ∧ p.retryOn error = false) ∨ i = max p.maxAttempts.toNat 1

theorem Attempts.isLeast {k : Nat} {last : Outcome α} (h : p.Attempts call k last) :
    IsLeast {i | 0 < i ∧ p.EndsAt call i} k := by
  constructor
  · refine ⟨h.pos, ?_⟩
    cases hlast : call k with
    | ok value => exact .inl ⟨value, hlast⟩
    | panicked text => exact .inr (.inl ⟨text, hlast⟩)
    | failed error =>
      rcases h.gives_up error (h.last_eq ▸ hlast) with hbudget | hreject
      · exact .inr (.inr (.inr hbudget))
      · exact .inr (.inr (.inl ⟨error, hlast, hreject⟩))
  · rintro i ⟨hpos, hends⟩
    by_contra hle
    obtain ⟨error, hcall, hretry⟩ := h.retried i hpos (Nat.lt_of_not_le hle)
    rcases hends with ⟨value, hok⟩ | ⟨text, hpanic⟩ | ⟨error', hfailed, hreject⟩ | hbudget
    · cases hcall.symm.trans hok
    · cases hcall.symm.trans hpanic
    · cases hcall.symm.trans hfailed
      rw [hretry] at hreject
      cases hreject
    · have hlast := h.le_budget
      rw [budget, ← hbudget] at hlast
      exact hle hlast

/-- What calls under a policy come to: how many there are, what the last gives, what is repeated
    and logged, and what is done on the way. -/
structure Proceeds (p : RetryPolicy) (id : String) (factor : Nat → Binary64)
    (call : Nat → Outcome α) (e : Execution α) : Prop where
  least : IsLeast {i | 0 < i ∧ p.EndsAt call i} e.calls
  result_eq : e.result id = match call e.calls with
    | .ok value => .ok value
    | .failed error => .failed (.node id e.calls error)
    | .panicked text => .panicked text
  attempts_eq : e.retries.map (·.attempt) = List.range' 1 (e.calls - 1)
  repeated : ∀ r ∈ e.retries, call r.attempt = .failed r.error ∧ p.retryOn r.error = true ∧
    r.delay = p.backoff r.attempt (factor r.attempt)
  log_eq : e.log id p = e.retries.map (.retrying id · (max p.maxAttempts.toNat 1))
  sleeps_iff : ∀ r ∈ e.retries, r.sleeps = true ↔ r.delay ≠ .zero
  /-- The count of the calls does not overflow. -/
  loop_eq : ∃ attempts : UInt32, attempts.toNat = e.calls ∧
    p.loop? id factor call 0 = some ⟨e.acts id p 1, e.last, attempts⟩

/-- Whatever the calls come to, the loop makes them up to the first that none follows, and waits
    between them as the policy says. -/
theorem execute_proceeds (p : RetryPolicy) (id : String) (factor : Nat → Binary64)
    (call : Nat → Outcome α) : p.Proceeds id factor call (p.execute factor call) := by
  have hattempts : p.Attempts call (p.execute factor call).calls (p.execute factor call).last :=
    attempts_iff.2 ⟨rfl, rfl⟩
  refine ⟨hattempts.isLeast, ?_, p.map_attempt_executeFrom factor call 1, ?_, rfl, ?_, ?_⟩
  · rw [hattempts.last_eq]
    rfl
  · intro r hr
    obtain ⟨hcall, hagain⟩ := again?_of_mem_retries hr
    have hretry := eq_of_again?_eq_some hagain
    exact ⟨hcall, retryOn_of_again?_eq_some hagain, congrArg Retry.delay hretry⟩
  · intro r _
    rw [Retry.sleeps, Bool.not_eq_true', ← Bool.not_eq_true, Duration.isZero_iff]
  · obtain ⟨attempts, hcalls, hloop⟩ := p.exists_loop?_eq id factor call 0 p.budget_pos
    refine ⟨attempts, ?_, hloop⟩
    rw [hcalls, Execution.calls, Nat.add_comm]
    rfl

end RetryPolicy

end Flowgraph
