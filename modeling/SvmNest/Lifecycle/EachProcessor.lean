import SvmNest.Lifecycle.Machine

/-!
# Running a callback on each processor

`SvExecuteOnEachProcessor` and `UtilForEachProcessor` walk the processor indices in order,
convert each to a processor number, run the callback there, and stop at the first failure.
Switching the thread's affinity is not modelled: the callback for index `i` acts on
processor `i` through its argument.

The loop is stated once as a rule (an invariant kept by each iteration, a postcondition at each
way out). When nothing fails `SvExecuteOnEachProcessor` returns the last callback's status.
-/

namespace SvmNest

section Loops

variable {σ : Type} (plat : Platform) (callback : Nat → σ → NTSTATUS × σ)

/-- The loop of `SvExecuteOnEachProcessor` at index `i` with `n` left: status, stop index, state. -/
def svExecuteOnEachProcessorFrom : Nat → Nat → NTSTATUS → σ → NTSTATUS × Nat × σ
  | i, 0, status, s => (status, i, s)
  | i, n + 1, _, s =>
    let status := plat.processorNumberStatus i
    if ntSuccess status then
      let r := callback i s
      if ntSuccess r.1 then svExecuteOnEachProcessorFrom (i + 1) n r.1 r.2
      else (r.1, i, r.2)
    else (status, i, s)

/-- `SvExecuteOnEachProcessor`: the status, `*NumOfProcessorCompleted` and the state. -/
def svExecuteOnEachProcessor (s : σ) : NTSTATUS × Nat × σ :=
  svExecuteOnEachProcessorFrom plat callback 0 plat.numOfProcessors statusSuccess s

/-- The `for` loop of `UtilForEachProcessor` at index `i` with `n` indices left. -/
def utilForEachProcessorFrom : Nat → Nat → σ → NTSTATUS × σ
  | _, 0, s => (statusSuccess, s)
  | i, n + 1, s =>
    let status := plat.processorNumberStatus i
    if ntSuccess status then
      let r := callback i s
      if ntSuccess r.1 then utilForEachProcessorFrom (i + 1) n r.2 else r
    else (status, s)

/-- `UtilForEachProcessor`. -/
def utilForEachProcessor (s : σ) : NTSTATUS × σ :=
  utilForEachProcessorFrom plat callback 0 plat.numOfProcessors s

end Loops

section Rule

variable {σ : Type} {plat : Platform} {callback : Nat → σ → NTSTATUS × σ}
  (Inv : Nat → NTSTATUS → σ → Prop) (Post : NTSTATUS × Nat × σ → Prop)
  (finished : ∀ st s, Inv plat.numOfProcessors st s → Post (st, plat.numOfProcessors, s))
  (lookupFailed : ∀ i st s, i < plat.numOfProcessors → Inv i st s →
    ntSuccess (plat.processorNumberStatus i) = false → Post (plat.processorNumberStatus i, i, s))
  (callbackFailed : ∀ i st s, i < plat.numOfProcessors → Inv i st s →
    ntSuccess (plat.processorNumberStatus i) = true → ntSuccess (callback i s).1 = false →
    Post ((callback i s).1, i, (callback i s).2))
  (succeeded : ∀ i st s, i < plat.numOfProcessors → Inv i st s →
    ntSuccess (plat.processorNumberStatus i) = true → ntSuccess (callback i s).1 = true →
    Inv (i + 1) (callback i s).1 (callback i s).2)

include finished lookupFailed callbackFailed succeeded in
theorem svExecuteOnEachProcessorFrom_rule (n i : Nat) (st : NTSTATUS) (s : σ)
    (hn : i + n = plat.numOfProcessors) (hinv : Inv i st s) :
    Post (svExecuteOnEachProcessorFrom plat callback i n st s) := by
  induction n generalizing i st s with
  | zero => subst hn; exact finished st s hinv
  | succ n ih =>
    have hi : i < plat.numOfProcessors := by omega
    simp only [svExecuteOnEachProcessorFrom]
    cases hl : ntSuccess (plat.processorNumberStatus i) with
    | false => exact lookupFailed i st s hi hinv hl
    | true =>
      cases hc : ntSuccess (callback i s).1 with
      | false => exact callbackFailed i st s hi hinv hl hc
      | true => exact ih (i + 1) _ _ (by omega) (succeeded i st s hi hinv hl hc)

include finished lookupFailed callbackFailed succeeded in
/-- The loop rule for a whole `SvExecuteOnEachProcessor` call. -/
theorem svExecuteOnEachProcessor_rule (s : σ) (hinv : Inv 0 statusSuccess s) :
    Post (svExecuteOnEachProcessor plat callback s) :=
  svExecuteOnEachProcessorFrom_rule Inv Post finished lookupFailed callbackFailed succeeded
    _ _ _ _ (Nat.zero_add _) hinv

end Rule

section Stop

variable {σ : Type} (plat : Platform) (callback : Nat → σ → NTSTATUS × σ) (s : σ)

/-- The state after the callbacks on indices `0, …, k - 1`, run one after the other from `s`. -/
def callbacksUpTo : Nat → σ
  | 0 => s
  | k + 1 => (callback k (callbacksUpTo k)).2

/-- The status variable of `SvExecuteOnEachProcessor` after `k` iterations that went through. -/
def lastCallbackStatus : Nat → NTSTATUS
  | 0 => statusSuccess
  | k + 1 => (callback k (callbacksUpTo callback s k)).1

/-- Index `j` goes through: the lookup succeeds and the callback returns a success status. -/
def Passes (j : Nat) : Prop :=
  ntSuccess (plat.processorNumberStatus j) = true ∧
    ntSuccess (callback j (callbacksUpTo callback s j)).1 = true

/-- The lookup, or the callback after it ran, failed at `k`. -/
def FailsAt (k : Nat) (status : NTSTATUS) (t : σ) : Prop :=
  (ntSuccess (plat.processorNumberStatus k) = false ∧ status = plat.processorNumberStatus k ∧
      t = callbacksUpTo callback s k) ∨
    (ntSuccess (plat.processorNumberStatus k) = true ∧
      ntSuccess (callback k (callbacksUpTo callback s k)).1 = false ∧
      status = (callback k (callbacksUpTo callback s k)).1 ∧ t = callbacksUpTo callback s (k + 1))

theorem ntSuccess_lastCallbackStatus {k : Nat} (h : ∀ j < k, Passes plat callback s j) :
    ntSuccess (lastCallbackStatus callback s k) = true := by
  cases k with
  | zero => rfl
  | succ k => exact (h k (Nat.lt_succ_self k)).2

theorem FailsAt.ntSuccess_eq_false {k : Nat} {status : NTSTATUS} {t : σ}
    (h : FailsAt plat callback s k status t) : ntSuccess status = false := by
  rcases h with ⟨hl, rfl, -⟩ | ⟨-, hc, rfl, -⟩
  · exact hl
  · exact hc

/-- Where a run of the loop ends, for its result `r`. -/
structure LoopOutcome (r : NTSTATUS × Nat × σ) : Prop where
  le : r.2.1 ≤ plat.numOfProcessors
  passed : ∀ j < r.2.1, Passes plat callback s j
  failed : r.2.1 < plat.numOfProcessors → FailsAt plat callback s r.2.1 r.1 r.2.2
  finished : r.2.1 = plat.numOfProcessors →
    r.1 = lastCallbackStatus callback s r.2.1 ∧ r.2.2 = callbacksUpTo callback s r.2.1

/-- The loop ends by a failure exactly when it returns a failure status. -/
theorem LoopOutcome.ntSuccess_iff {r : NTSTATUS × Nat × σ} (h : LoopOutcome plat callback s r) :
    ntSuccess r.1 = true ↔ r.2.1 = plat.numOfProcessors := by
  refine ⟨fun hs => ?_, fun hN => ?_⟩
  · by_contra hne
    rw [FailsAt.ntSuccess_eq_false plat callback s (h.failed (lt_of_le_of_ne h.le hne))] at hs
    cases hs
  · rw [(h.finished hN).1]
    exact ntSuccess_lastCallbackStatus plat callback s h.passed

theorem svExecuteOnEachProcessor_stop :
    LoopOutcome plat callback s (svExecuteOnEachProcessor plat callback s) := by
  refine svExecuteOnEachProcessor_rule
    (fun i st t => (∀ j < i, Passes plat callback s j) ∧
      st = lastCallbackStatus callback s i ∧ t = callbacksUpTo callback s i) _
    ?finished ?lookupFailed ?callbackFailed ?succeeded s
    ⟨fun _ h => absurd h (Nat.not_lt_zero _), rfl, rfl⟩
  case finished =>
    exact fun _ _ ⟨hp, hst, ht⟩ => ⟨le_rfl, hp, fun h => absurd h (lt_irrefl _), fun _ => ⟨hst, ht⟩⟩
  case lookupFailed =>
    rintro i _ _ hi ⟨hp, -, ht⟩ hl
    exact ⟨hi.le, hp, fun _ => .inl ⟨hl, rfl, ht⟩, fun h => absurd h (Nat.ne_of_lt hi)⟩
  case callbackFailed =>
    rintro i _ _ hi ⟨hp, -, rfl⟩ hl hc
    exact ⟨hi.le, hp, fun _ => .inr ⟨hl, hc, rfl, rfl⟩, fun h => absurd h (Nat.ne_of_lt hi)⟩
  case succeeded =>
    rintro i _ _ _ ⟨hp, -, rfl⟩ hl hc
    refine ⟨fun j hj => ?_, rfl, rfl⟩
    rcases Nat.lt_succ_iff_lt_or_eq.mp hj with hj | rfl
    · exact hp j hj
    · exact ⟨hl, hc⟩

/-- `UtilForEachProcessor` is the same loop, returning `STATUS_SUCCESS` when nothing failed. -/
theorem utilForEachProcessorFrom_eq (i n : Nat) (st : NTSTATUS) (t : σ)
    (hst : ntSuccess st = true) :
    utilForEachProcessorFrom plat callback i n t =
      ((if ntSuccess (svExecuteOnEachProcessorFrom plat callback i n st t).1 then statusSuccess
        else (svExecuteOnEachProcessorFrom plat callback i n st t).1),
        (svExecuteOnEachProcessorFrom plat callback i n st t).2.2) := by
  induction n generalizing i st t with
  | zero => simp [utilForEachProcessorFrom, svExecuteOnEachProcessorFrom, hst]
  | succ n ih =>
    simp only [utilForEachProcessorFrom, svExecuteOnEachProcessorFrom]
    cases hl : ntSuccess (plat.processorNumberStatus i) with
    | false => simp [hl]
    | true =>
      cases hc : ntSuccess (callback i t).1 with
      | false => simp [hc]
      | true => simp only [if_true]; exact ih _ _ _ hc

end Stop

/-- Both loops run the callbacks in index order and stop right after the first failure; the
`NT_ASSERT` at the `Exit` label of `SvExecuteOnEachProcessor` holds. -/
theorem forEachProcessor_stops_at_first_failure {σ : Type} (plat : Platform)
    (callback : Nat → σ → NTSTATUS × σ) (s : σ) :
    let r := svExecuteOnEachProcessor plat callback s
    LoopOutcome plat callback s r ∧ (ntSuccess r.1 = true ↔ r.2.1 = plat.numOfProcessors) ∧
      utilForEachProcessor plat callback s =
        (if ntSuccess r.1 then statusSuccess else r.1, r.2.2) :=
  ⟨svExecuteOnEachProcessor_stop plat callback s,
    (svExecuteOnEachProcessor_stop plat callback s).ntSuccess_iff,
    utilForEachProcessorFrom_eq plat callback _ _ _ _ (by decide)⟩

/-- A callback returning the success code 0x103 makes `SvExecuteOnEachProcessor` return 0x103. -/
theorem svExecuteOnEachProcessor_returns_last_success_code :
    let plat : Platform := ⟨1, fun _ => statusSuccess, true, id⟩
    let callback : Nat → Unit → NTSTATUS × Unit := fun _ _ => (0x103, ())
    let r := svExecuteOnEachProcessor plat callback ()
    r.2.1 = plat.numOfProcessors ∧ ntSuccess r.1 = true ∧ r.1 = 0x103 ∧ r.1 ≠ statusSuccess ∧
      (utilForEachProcessor plat callback ()).1 = statusSuccess := by
  decide

end SvmNest
