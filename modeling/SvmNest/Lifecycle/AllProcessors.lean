import SvmNest.Lifecycle.Processor

/-!
# Virtualizing and devirtualizing all processors

`SvVirtualizeAllProcessors` probes for SVM, allocates the shared data and the MSR permissions
map, and runs `SvVirtualizeProcessor` on each processor; at its `Exit` label a failure
devirtualizes what was virtualized or frees the two shared allocations. Only the allocations
are followed here.

Between calls processor `j` owns a block `vpOf j` and a nested context page `nestOf j`, all
pointing at one live shared block. From no processor in guest mode the call is all or nothing.
-/

namespace SvmNest

/-- `SvDevirtualizeAllProcessors`. -/
def svDevirtualizeAllProcessors (plat : Platform) (m : Machine) : Machine :=
  let r := svExecuteOnEachProcessor plat svDevirtualizeProcessor (m, 0)
  let m := r.2.2.1
  let sharedVpData := r.2.2.2
  if sharedVpData ≠ 0 then
    (m.free (m.read sharedVpData Block.msrPermissionsMap)).free sharedVpData
  else m

/-- The cleanup at the `Exit` label of `SvVirtualizeAllProcessors`. -/
def virtualizeAllExit (plat : Platform) (status : NTSTATUS) (sharedVpData : BitVec 64)
    (numOfProcessorsCompleted : Nat) (m : Machine) : Machine :=
  if ntSuccess status then m
  else if numOfProcessorsCompleted ≠ 0 then svDevirtualizeAllProcessors plat m
  else if sharedVpData ≠ 0 then
    let msrPermissionsMap := m.read sharedVpData Block.msrPermissionsMap
    let m := if msrPermissionsMap ≠ 0 then m.free msrPermissionsMap else m
    m.free sharedVpData
  else m

/-- `SvVirtualizeAllProcessors`. -/
def svVirtualizeAllProcessors (plat : Platform) (m : Machine) : NTSTATUS × Machine :=
  if plat.svmSupported = false then
    (statusHvFeatureUnavailable, virtualizeAllExit plat statusHvFeatureUnavailable 0 0 m)
  else
    let r := m.allocate (.sharedVirtualProcessorData 0)
    let sharedVpData := r.1
    if sharedVpData = 0 then
      (statusInsufficientResources, virtualizeAllExit plat statusInsufficientResources 0 0 r.2)
    else
      let r := r.2.allocate .msrPermissions
      let m := r.2.store sharedVpData (.sharedVirtualProcessorData r.1)
      if r.1 = 0 then
        (statusInsufficientResources,
          virtualizeAllExit plat statusInsufficientResources sharedVpData 0 m)
      else
        let r := svExecuteOnEachProcessor plat (svVirtualizeProcessor plat sharedVpData) m
        (r.1, virtualizeAllExit plat r.1 sharedVpData r.2.1 r.2.2)

/-- No processor runs the hypervisor. -/
def NoneVirtualized (plat : Platform) (m : Machine) : Prop :=
  ∀ i < plat.numOfProcessors, (m.processors i).hypervisor = none

/-- Processor `i` runs the hypervisor from the live block at `vp`, whose nested context page
`nest` is live and whose `SharedVpData` is `shared`. -/
def RunsFrom (m : Machine) (i : Nat) (shared vp nest : BitVec 64) : Prop :=
  (m.processors i).hypervisor = some vp ∧ m.heap vp = some (.virtualProcessorData nest shared) ∧
    m.heap nest = some .processorNestData

/-- `shared` is a live shared block with a live MSR permissions map. -/
def SharedLive (m : Machine) (shared : BitVec 64) : Prop :=
  ∃ msrpm, m.heap shared = some (.sharedVirtualProcessorData msrpm) ∧
    m.heap msrpm = some .msrPermissions

/-- Every processor runs from a live block pointing at the live `shared` and its live map. -/
def AllVirtualizedWith (plat : Platform) (m : Machine) (shared : BitVec 64) : Prop :=
  SharedLive m shared ∧ ∀ i < plat.numOfProcessors, ∃ vp nest, RunsFrom m i shared vp nest

/-- The processors below `k` run the hypervisor from blocks of their own. -/
structure Owns (m : Machine) (shared : BitVec 64) (vpOf nestOf : Nat → BitVec 64) (k : Nat) :
    Prop where
  runs : ∀ j < k, RunsFrom m j shared (vpOf j) (nestOf j)
  nestNonzero : ∀ j < k, nestOf j ≠ 0
  vpInj : ∀ a < k, ∀ b < k, vpOf a = vpOf b → a = b
  nestInj : ∀ a < k, ∀ b < k, nestOf a = nestOf b → a = b

/-- The processors below `k` own their blocks; the others do not run the hypervisor. -/
structure VirtualizedBelow (plat : Platform) (shared : BitVec 64) (vpOf nestOf : Nat → BitVec 64)
    (k : Nat) (m : Machine) : Prop where
  found : ∀ j < k, ntSuccess (plat.processorNumberStatus j) = true
  owns : Owns m shared vpOf nestOf k
  idle : ∀ j, k ≤ j → j < plat.numOfProcessors → (m.processors j).hypervisor = none
  le : k ≤ plat.numOfProcessors
  sharedNonzero : shared ≠ 0
  sharedLive : SharedLive m shared

/-- Every processor up to a launched one passed its lookup and its virtualization. -/
def LaunchedBeforeFailure (plat : Platform) (new : List Event) : Prop :=
  ∀ j, .launched j ∈ new → ∀ i ≤ j,
    ntSuccess (plat.processorNumberStatus i) = true ∧ .virtualizeFailed i ∉ new

/-- Live blocks of different kinds sit at different addresses. -/
theorem ne_of_heap {heap : BitVec 64 → Option Block} {a a' : BitVec 64} {b b' : Block}
    (h : heap a = some b) (h' : heap a' = some b') (hb : b ≠ b') : a ≠ a' := fun e => by
  rw [e, h'] at h; exact hb (Option.some.inj h).symm

/-- A block at neither of two updated addresses is left alone. -/
theorem update_update_of_ne {heap : BitVec 64 → Option Block} {vp nest a : BitVec 64}
    (x y : Option Block) {b : Block} (h : heap a = some b) (hvp : a ≠ vp) (hnest : a ≠ nest) :
    Function.update (Function.update heap nest x) vp y a = some b := by
  rw [Function.update_noteq hvp, Function.update_noteq hnest, h]

/-- A block that was live before two fresh allocations is live after them. -/
theorem update_fresh_of_live {heap : BitVec 64 → Option Block} {vp nest : BitVec 64}
    (hvp : heap vp = none) (hnest : heap nest = none) (x y : Option Block) {a : BitVec 64}
    {b : Block} (h : heap a = some b) :
    Function.update (Function.update heap nest x) vp y a = some b :=
  update_update_of_ne x y h (fun e => by rw [e, hvp] at h; cases h)
    (fun e => by rw [e, hnest] at h; cases h)

section Ownership

variable {m m' : Machine} {shared : BitVec 64} {vpOf nestOf : Nat → BitVec 64} {k : Nat}

theorem SharedLive.of_grown (h : SharedLive m shared)
    (hg : ∀ a b, m.heap a = some b → m'.heap a = some b) : SharedLive m' shared :=
  let ⟨msrpm, hs, hm⟩ := h
  ⟨msrpm, hg _ _ hs, hg _ _ hm⟩

/-- Ownership survives any change that keeps the owners and only adds blocks. -/
theorem Owns.of_grown (h : Owns m shared vpOf nestOf k)
    (hp : ∀ j < k, m'.processors j = m.processors j)
    (hg : ∀ a b, m.heap a = some b → m'.heap a = some b) : Owns m' shared vpOf nestOf k :=
  { h with
    runs := fun j hj =>
      let ⟨hv, hb, hn⟩ := h.runs j hj
      ⟨by rw [hp j hj]; exact hv, hg _ _ hb, hg _ _ hn⟩ }

theorem VirtualizedBelow.of_grown {plat : Platform}
    (h : VirtualizedBelow plat shared vpOf nestOf k m) (hp : m'.processors = m.processors)
    (hg : ∀ a b, m.heap a = some b → m'.heap a = some b) :
    VirtualizedBelow plat shared vpOf nestOf k m' :=
  { h with
    owns := h.owns.of_grown (fun j _ => by rw [hp]) hg
    idle := fun j hj hjN => by rw [hp]; exact h.idle j hj hjN
    sharedLive := h.sharedLive.of_grown hg }

theorem Owns.zero : Owns m shared vpOf nestOf 0 :=
  ⟨fun _ h => absurd h (Nat.not_lt_zero _), fun _ h => absurd h (Nat.not_lt_zero _),
    fun _ h => absurd h (Nat.not_lt_zero _), fun _ h => absurd h (Nat.not_lt_zero _)⟩

/-- Extending an assignment by a value it did not take below `k` keeps it injective. -/
theorem injective_below_update {f : Nat → BitVec 64} {x : BitVec 64}
    (hinj : ∀ a < k, ∀ b < k, f a = f b → a = b) (hx : ∀ b < k, f b ≠ x) :
    ∀ a < k + 1, ∀ b < k + 1, Function.update f k x a = Function.update f k x b → a = b := by
  intro a ha b hb e
  rcases Nat.lt_succ_iff_lt_or_eq.mp ha with ha | rfl <;>
    rcases Nat.lt_succ_iff_lt_or_eq.mp hb with hb | rfl
  · rw [Function.update_noteq (by omega), Function.update_noteq (by omega)] at e
    exact hinj a ha b hb e
  · rw [Function.update_noteq (by omega), Function.update_same] at e; exact absurd e (hx a ha)
  · rw [Function.update_same, Function.update_noteq (by omega)] at e; exact absurd e.symm (hx b hb)
  · rfl

/-- One more owner: processor `k` now runs from two blocks that were not live. -/
theorem Owns.launch (h : Owns m shared vpOf nestOf k) {vp nest : BitVec 64}
    (hvp : m.heap vp = none) (hnest : m.heap nest = none) (hnz : nest ≠ 0)
    (hp : ∀ j < k, m'.processors j = m.processors j)
    (hg : ∀ a b, m.heap a = some b → m'.heap a = some b) (hk : RunsFrom m' k shared vp nest) :
    Owns m' shared (Function.update vpOf k vp) (Function.update nestOf k nest) (k + 1) := by
  have h' := h.of_grown hp hg
  refine ⟨fun j hj => ?_, fun j hj => ?_, injective_below_update h.vpInj fun b hb e => ?_,
    injective_below_update h.nestInj fun b hb e => ?_⟩
  · rcases Nat.lt_succ_iff_lt_or_eq.mp hj with hj | rfl
    · simp only [Function.update_noteq (Nat.ne_of_lt hj)]; exact h'.runs j hj
    · simpa only [Function.update_same] using hk
  · rcases Nat.lt_succ_iff_lt_or_eq.mp hj with hj | rfl
    · rw [Function.update_noteq (Nat.ne_of_lt hj)]; exact h.nestNonzero j hj
    · rw [Function.update_same]; exact hnz
  · have := (h.runs b hb).2.1; rw [e, hvp] at this; cases this
  · have := (h.runs b hb).2.2; rw [e, hnest] at this; cases this

end Ownership

/-- The events `SvDevirtualizeAllProcessors` records are unloads. -/
theorem svDevirtualizeAllProcessors_events (plat : Platform) (m : Machine) :
    ∃ tail, (svDevirtualizeAllProcessors plat m).events = m.events ++ tail ∧
      ∀ e ∈ tail, ∃ j, e = .unloaded j := by
  have hloop : ∃ tail,
      (svExecuteOnEachProcessor plat svDevirtualizeProcessor (m, 0)).2.2.1.events =
        m.events ++ tail ∧ ∀ e ∈ tail, ∃ j, e = .unloaded j := by
    refine svExecuteOnEachProcessor_rule (fun _ _ (t : Machine × BitVec 64) =>
        ∃ tail, t.1.events = m.events ++ tail ∧ ∀ e ∈ tail, ∃ j, e = .unloaded j)
      (fun r => ∃ tail, r.2.2.1.events = m.events ++ tail ∧
        ∀ e ∈ tail, ∃ j, e = .unloaded j)
      (fun _ _ h => h) (fun _ _ _ _ h _ => h) ?callbackFailed ?succeeded _
      ⟨[], by simp, by simp⟩
    case callbackFailed =>
      intro i _ t _ _ _ hc
      rw [(svDevirtualizeProcessor_spec i t).1] at hc
      cases hc
    case succeeded =>
      intro i _ t _ ⟨tail, hev, htail⟩ _ _
      obtain ⟨-, hnone, hsome⟩ := svDevirtualizeProcessor_spec i t
      by_cases hv : (t.1.processors i).hypervisor = none
      · rw [hnone hv]; exact ⟨tail, hev, htail⟩
      · refine ⟨tail ++ [.unloaded i], by rw [(hsome hv).2, hev, List.append_assoc], ?_⟩
        intro e he
        rcases List.mem_append.mp he with he | he
        · exact htail e he
        · exact ⟨i, List.mem_singleton.mp he⟩
  have he : (svDevirtualizeAllProcessors plat m).events =
      (svExecuteOnEachProcessor plat svDevirtualizeProcessor (m, 0)).2.2.1.events := by
    dsimp only [svDevirtualizeAllProcessors]; split <;> simp
  rw [he]; exact hloop

/-- Where no processor runs the hypervisor, `SvDevirtualizeAllProcessors` changes nothing. -/
theorem svDevirtualizeAllProcessors_of_none {plat : Platform} {m : Machine}
    (h : NoneVirtualized plat m) : svDevirtualizeAllProcessors plat m = m := by
  have hloop : (svExecuteOnEachProcessor plat svDevirtualizeProcessor (m, 0)).2.2 = (m, 0) :=
    svExecuteOnEachProcessor_rule (fun _ _ s => s = (m, 0)) (fun r => r.2.2 = (m, 0))
      (fun _ _ h => h) (fun _ _ _ _ h _ => h)
      (fun i _ s _ _ _ hc => by rw [(svDevirtualizeProcessor_spec i s).1] at hc; cases hc)
      (fun i _ s hi hs _ _ => by
        subst hs; rw [(svDevirtualizeProcessor_spec i (m, 0)).2.1 (h i hi)])
      _ rfl
  simp only [svDevirtualizeAllProcessors, hloop, ne_eq, not_true_eq_false, if_false]

section Devirtualize

variable {plat : Platform} {shared : BitVec 64} {vpOf nestOf : Nat → BitVec 64} {k : Nat}
  {m : Machine}

/-- The devirtualization loop after `i` processors, from owners below `k`. -/
structure Devirtualizing (plat : Platform) (shared : BitVec 64) (vpOf nestOf : Nat → BitVec 64)
    (k : Nat) (m : Machine) (i : Nat) (s : Machine × BitVec 64) : Prop where
  invalidFree : s.1.invalidFree = m.invalidFree
  done : ∀ j < i, (s.1.processors j).hypervisor = none
  runs : ∀ j, i ≤ j → j < k → RunsFrom s.1 j shared (vpOf j) (nestOf j)
  idle : ∀ j, k ≤ j → j < plat.numOfProcessors → (s.1.processors j).hypervisor = none
  sharedLive : SharedLive s.1 shared
  out : s.2 = if i = 0 then 0 else shared

/-- One processor visited: an owner hands back its two blocks; any other is left alone. -/
theorem Devirtualizing.step (hv : VirtualizedBelow plat shared vpOf nestOf k m) (hk : 0 < k)
    {i : Nat} {s1 : Machine} {out : BitVec 64}
    (h : Devirtualizing plat shared vpOf nestOf k m i (s1, out)) (hi : i < plat.numOfProcessors) :
    Devirtualizing plat shared vpOf nestOf k m (i + 1) (svDevirtualizeProcessor i (s1, out)).2 := by
  by_cases hik : i < k
  · -- processor `i` owns its blocks and hands them back
    obtain ⟨hvp, hb, hn⟩ := h.runs i le_rfl hik
    obtain ⟨-, hout, hheap, hinv, hprocs⟩ :=
      svDevirtualizeProcessor_of_runs i s1 out _ _ _ hvp hb hn (hv.owns.nestNonzero i hik)
    have hframe : ∀ a b, s1.heap a = some b → a ≠ vpOf i → a ≠ nestOf i →
        (svDevirtualizeProcessor i (s1, out)).2.1.heap a = some b := fun a b ha h1 h2 => by
      rw [hheap]; exact update_update_of_ne _ _ ha h1 h2
    refine ⟨by rw [hinv]; exact h.invalidFree, fun j hj => ?_, fun j hj hjk => ?_,
      fun j hj hjN => ?_, ?_, by rw [hout]; simp⟩
    · rw [hprocs]
      rcases Nat.lt_succ_iff_lt_or_eq.mp hj with hj | rfl
      · rw [Function.update_noteq (by omega)]; exact h.done j hj
      · simp [unloadedProcessor]
    · obtain ⟨hvj, hbj, hnj⟩ := h.runs j (by omega) hjk
      refine ⟨by rw [hprocs, Function.update_noteq (by omega)]; exact hvj,
        hframe _ _ hbj (fun e => ?_) (ne_of_heap hbj hn (by simp)),
        hframe _ _ hnj (ne_of_heap hnj hb (by simp)) (fun e => ?_)⟩
      · have := hv.owns.vpInj j hjk i hik e; omega
      · have := hv.owns.nestInj j hjk i hik e; omega
    · rw [hprocs, Function.update_noteq (by omega)]; exact h.idle j hj hjN
    · obtain ⟨msrpm, hs, hm⟩ := h.sharedLive
      exact ⟨msrpm, hframe _ _ hs (ne_of_heap hs hb (by simp)) (ne_of_heap hs hn (by simp)),
        hframe _ _ hm (ne_of_heap hm hb (by simp)) (ne_of_heap hm hn (by simp))⟩
  · -- processor `i` does not run the hypervisor: nothing changes
    have hidle := h.idle i (by omega) hi
    rw [(svDevirtualizeProcessor_spec i (s1, out)).2.1 hidle]
    refine ⟨h.invalidFree, fun j hj => ?_, fun j hj hjk => absurd hjk (by omega), h.idle,
      h.sharedLive, ?_⟩
    · rcases Nat.lt_succ_iff_lt_or_eq.mp hj with hj | rfl
      · exact h.done j hj
      · exact hidle
    · rw [h.out, if_neg (by omega), if_neg (by omega)]

theorem svExecuteOnEachProcessor_devirtualize_owned
    (hv : VirtualizedBelow plat shared vpOf nestOf k m) (hk : 0 < k) :
    let r := svExecuteOnEachProcessor plat svDevirtualizeProcessor (m, 0)
    NoneVirtualized plat r.2.2.1 ∧ r.2.2.1.invalidFree = m.invalidFree ∧
      SharedLive r.2.2.1 shared ∧ r.2.2.2 = shared := by
  refine svExecuteOnEachProcessor_rule
    (fun i _ s => Devirtualizing plat shared vpOf nestOf k m i s)
    (fun r => NoneVirtualized plat r.2.2.1 ∧ r.2.2.1.invalidFree = m.invalidFree ∧
      SharedLive r.2.2.1 shared ∧ r.2.2.2 = shared)
    ?finished ?lookupFailed ?callbackFailed ?succeeded (m, 0)
    ⟨rfl, fun _ h => absurd h (Nat.not_lt_zero _), fun j _ hj => hv.owns.runs j hj, hv.idle,
      hv.sharedLive, rfl⟩
  case finished =>
    intro _ s hs
    have := hv.le
    exact ⟨hs.done, hs.invalidFree, hs.sharedLive, by rw [hs.out, if_neg (by omega)]⟩
  case lookupFailed =>
    intro i _ s hi hs hl
    -- every processor number below `k` is found, so the loop got past the owners
    have hki : k ≤ i := by
      by_contra hlt
      rw [hv.found i (by omega)] at hl
      cases hl
    refine ⟨fun j hj => ?_, hs.invalidFree, hs.sharedLive, by rw [hs.out, if_neg (by omega)]⟩
    by_cases hji : j < i
    · exact hs.done j hji
    · exact hs.idle j (by omega) hj
  case callbackFailed =>
    intro i _ s _ _ _ hc
    rw [(svDevirtualizeProcessor_spec i s).1] at hc
    cases hc
  case succeeded => exact fun i _ s hi hs _ _ => hs.step hv hk hi

/-- From owned blocks, `SvDevirtualizeAllProcessors` frees only live blocks and leaves no guest. -/
theorem svDevirtualizeAllProcessors_of_owned (hv : VirtualizedBelow plat shared vpOf nestOf k m)
    (hk : 0 < k) :
    NoneVirtualized plat (svDevirtualizeAllProcessors plat m) ∧
      (svDevirtualizeAllProcessors plat m).invalidFree = m.invalidFree := by
  have hloop := svExecuteOnEachProcessor_devirtualize_owned hv hk
  dsimp only [svDevirtualizeAllProcessors] at hloop ⊢
  generalize svExecuteOnEachProcessor plat svDevirtualizeProcessor (m, 0) = r at *
  obtain ⟨_, _, s, out⟩ := r
  dsimp only at hloop ⊢
  obtain ⟨hnone, hinv, ⟨msrpm, hs, hm⟩, rfl⟩ := hloop
  have hne : out ≠ msrpm := ne_of_heap hs hm (by simp)
  have hfree := @Machine.free_of_live s msrpm (by simp [hm])
  have hfree' := @Machine.free_of_live (s.free msrpm) out
    (by rw [hfree.1, Function.update_noteq hne]; simp [hs])
  rw [if_pos hv.sharedNonzero, Machine.read_of_heap hs, Block.msrPermissionsMap]
  exact ⟨fun j hj => by simpa using hnone j hj, by rw [hfree'.2, hfree.2, hinv]⟩

end Devirtualize

section Exit

variable (plat : Platform) {status : NTSTATUS} {sharedVpData : BitVec 64} {n : Nat} {m : Machine}

theorem virtualizeAllExit_null (status : NTSTATUS) (m : Machine) :
    virtualizeAllExit plat status 0 0 m = m := by
  simp [virtualizeAllExit]

theorem virtualizeAllExit_of_success (h : ntSuccess status = true) :
    virtualizeAllExit plat status sharedVpData n m = m := by
  simp [virtualizeAllExit, h]

theorem virtualizeAllExit_of_completed (h : ntSuccess status = false) (hn : n ≠ 0) :
    virtualizeAllExit plat status sharedVpData n m = svDevirtualizeAllProcessors plat m := by
  simp [virtualizeAllExit, h, hn]

theorem virtualizeAllExit_frees_shared_only (h : ntSuccess status = false)
    (hz : sharedVpData ≠ 0) (hs : m.heap sharedVpData = some (.sharedVirtualProcessorData 0)) :
    let m' := virtualizeAllExit plat status sharedVpData 0 m
    m'.processors = m.processors ∧ m'.events = m.events ∧ m'.invalidFree = m.invalidFree ∧
      ∀ a, a ≠ sharedVpData → m'.heap a = m.heap a := by
  have hfree := @Machine.free_of_live m sharedVpData (by simp [hs])
  simp only [virtualizeAllExit, h, Bool.false_eq_true, if_false, ne_eq, not_true_eq_false, hz,
    not_false_eq_true, if_true, Machine.read_of_heap hs, Block.msrPermissionsMap]
  exact ⟨by simp, by simp, hfree.2, fun a h1 => Machine.free_heap_of_ne h1⟩

theorem virtualizeAllExit_frees_shared {msrpm : BitVec 64} (h : ntSuccess status = false)
    (hz : sharedVpData ≠ 0) (hmz : msrpm ≠ 0)
    (hs : m.heap sharedVpData = some (.sharedVirtualProcessorData msrpm))
    (hm : m.heap msrpm = some .msrPermissions) :
    let m' := virtualizeAllExit plat status sharedVpData 0 m
    m'.processors = m.processors ∧ m'.events = m.events ∧ m'.invalidFree = m.invalidFree ∧
      ∀ a, a ≠ sharedVpData → a ≠ msrpm → m'.heap a = m.heap a := by
  have hne : sharedVpData ≠ msrpm := ne_of_heap hs hm (by simp)
  have hfree := @Machine.free_of_live m msrpm (by simp [hm])
  have hfree' := @Machine.free_of_live (m.free msrpm) sharedVpData
    (by rw [Machine.free_heap_of_ne hne]; simp [hs])
  simp only [virtualizeAllExit, h, Bool.false_eq_true, if_false, ne_eq, not_true_eq_false, hz,
    not_false_eq_true, if_true, Machine.read_of_heap hs, Block.msrPermissionsMap, hmz]
  exact ⟨by simp, by simp, by rw [hfree'.2, hfree.2], fun a h1 h2 => by
    rw [Machine.free_heap_of_ne h1, Machine.free_heap_of_ne h2]⟩

end Exit

/-- Before its loop the call fails cleanly or reaches the loop with a fresh shared block and map. -/
theorem svVirtualizeAllProcessors_cases (plat : Platform) (m : Machine) :
    let r := svVirtualizeAllProcessors plat m
    let shared := m.allocations m.allocCount
    (ntSuccess r.1 = false ∧ r.2.processors = m.processors ∧ r.2.events = m.events ∧
      r.2.invalidFree = m.invalidFree ∧ ∀ a b, m.heap a = some b → r.2.heap a = some b) ∨
    ∃ msrpm m3, shared ≠ 0 ∧ msrpm ≠ 0 ∧ m.heap shared = none ∧ m.heap msrpm = none ∧
      msrpm ≠ shared ∧ m3.processors = m.processors ∧ m3.events = m.events ∧
      m3.invalidFree = m.invalidFree ∧
      m3.heap = Function.update (Function.update m.heap msrpm (some .msrPermissions)) shared
        (some (.sharedVirtualProcessorData msrpm)) ∧
      r = let l := svExecuteOnEachProcessor plat (svVirtualizeProcessor plat shared) m3
        (l.1, virtualizeAllExit plat l.1 shared l.2.1 l.2.2) := by
  unfold svVirtualizeAllProcessors
  cases hsup : plat.svmSupported
  · -- no SVM
    simp only [if_true, virtualizeAllExit_null]
    exact .inl ⟨by decide, trivial, trivial, trivial, fun _ _ h => h⟩
  simp only [Bool.true_eq_false, if_false]
  have hp := @Machine.allocate_processors m (.sharedVirtualProcessorData 0)
  have he := @Machine.allocate_events m (.sharedVirtualProcessorData 0)
  have hf := @Machine.allocate_invalidFree m (.sharedVirtualProcessorData 0)
  obtain ⟨h0, hh⟩ | ⟨hsh, hshz, hshFresh, hh⟩ :=
    @Machine.allocate_spec m (.sharedVirtualProcessorData 0)
  · -- no shared block
    simp only [h0, if_true, virtualizeAllExit_null]
    exact .inl ⟨by decide, hp, he, hf, fun a b h => by rw [hh]; exact h⟩
  simp only [hshz, if_false]
  generalize (m.allocate (.sharedVirtualProcessorData 0)).1 = shared at *
  generalize (m.allocate (.sharedVirtualProcessorData 0)).2 = m1 at *
  subst hsh
  have hp' := @Machine.allocate_processors m1 .msrPermissions
  have he' := @Machine.allocate_events m1 .msrPermissions
  have hf' := @Machine.allocate_invalidFree m1 .msrPermissions
  obtain ⟨h0, hh'⟩ | ⟨-, hmz, hmFresh, hh'⟩ := @Machine.allocate_spec m1 .msrPermissions
  · -- no map: the cleanup reads a null map and frees the shared block again
    simp only [h0, if_true]
    generalize (m1.allocate .msrPermissions).2 = m2 at *
    have hs : (m2.store (m.allocations m.allocCount) (.sharedVirtualProcessorData 0)).heap
        (m.allocations m.allocCount) = some (.sharedVirtualProcessorData 0) := by simp
    obtain ⟨hpx, hex, hfx, hhx⟩ := virtualizeAllExit_frees_shared_only plat
      (show ntSuccess statusInsufficientResources = false by decide) hshz hs
    refine .inl ⟨by decide, by rw [hpx]; simp [hp', hp], by rw [hex]; simp [he', he],
      by rw [hfx]; simp [hf', hf], fun a b h => ?_⟩
    have ha : a ≠ m.allocations m.allocCount := fun e => by rw [e, hshFresh] at h; cases h
    rw [hhx a ha, Machine.store_heap, Function.update_noteq ha, hh', hh, Function.update_noteq ha,
      h]
  simp only [hmz, if_false]
  have hne : (m1.allocate .msrPermissions).1 ≠ m.allocations m.allocCount := fun e => by
    rw [e, hh, Function.update_same] at hmFresh; cases hmFresh
  generalize (m1.allocate .msrPermissions).1 = msrpm at *
  generalize (m1.allocate .msrPermissions).2 = m2 at *
  refine .inr ⟨msrpm, _, hshz, hmz, hshFresh, by rwa [hh, Function.update_noteq hne] at hmFresh,
    hne, by simp [hp', hp], by simp [he', he], by simp [hf', hf], ?_, rfl⟩
  rw [Machine.store_heap, hh', hh, Function.update_comm (Ne.symm hne), Function.update_idem]

/-- The virtualization loop after `k` processors from `m0`. -/
structure VirtualizedPrefix (plat : Platform) (m0 : Machine) (shared : BitVec 64) (k : Nat)
    (m : Machine) : Prop where
  found : ∀ j < k, ntSuccess (plat.processorNumberStatus j) = true
  owns : ∃ vpOf nestOf, Owns m shared vpOf nestOf k
  rest : ∀ j, k ≤ j → m.processors j = m0.processors j
  grown : ∀ a b, m0.heap a = some b → m.heap a = some b
  invalidFree : m.invalidFree = m0.invalidFree
  events : m.events = m0.events ++ (List.range k).map Event.launched

section VirtualizeLoop

variable {plat : Platform} {m0 : Machine} {shared : BitVec 64}

theorem virtualizedPrefix_zero : VirtualizedPrefix plat m0 shared 0 m0 :=
  ⟨fun _ h => absurd h (Nat.not_lt_zero _), ⟨fun _ => 0, fun _ => 0, Owns.zero⟩,
    fun _ _ => rfl, fun _ _ h => h, rfl, by simp⟩

/-- One more processor virtualized, from a machine where none ran the hypervisor. -/
theorem VirtualizedPrefix.step {k : Nat} {m : Machine} (h : VirtualizedPrefix plat m0 shared k m)
    (hnone : NoneVirtualized plat m0) (hk : k < plat.numOfProcessors)
    (hl : ntSuccess (plat.processorNumberStatus k) = true)
    (hc : ntSuccess (svVirtualizeProcessor plat shared k m).1 = true) :
    (svVirtualizeProcessor plat shared k m).1 = statusSuccess ∧
    VirtualizedPrefix plat m0 shared (k + 1) (svVirtualizeProcessor plat shared k m).2 := by
  have hcases := svVirtualizeProcessor_cases plat shared k m
  dsimp only at hcases
  rcases hcases with ⟨hf, -⟩ | ⟨hs, hinv, vp, nest, -, hnz, hvn, hvp, hnest, hlaunch⟩
  · rw [hc] at hf; cases hf
  have hk0 : (m.processors k).hypervisor = none := by rw [h.rest k le_rfl]; exact hnone k hk
  rcases hlaunch with ⟨hi, -⟩ | ⟨-, hp, he, hh⟩
  · simp [hk0] at hi
  have hg : ∀ a b, m.heap a = some b →
      (svVirtualizeProcessor plat shared k m).2.heap a = some b := fun a b hb => by rw [hh]; exact update_fresh_of_live hvp hnest _ _ hb
  obtain ⟨vpOf, nestOf, hown⟩ := h.owns
  refine ⟨hs, fun j hj => ?_, ⟨_, _, hown.launch hvp hnest hnz
      (fun j hj => by rw [hp, Function.update_noteq (by omega)]) hg ⟨?_, ?_, ?_⟩⟩,
    fun j hj => ?_, fun a b hb => hg a b (h.grown a b hb), by rw [hinv, h.invalidFree], ?_⟩
  · rcases Nat.lt_succ_iff_lt_or_eq.mp hj with hj | rfl
    · exact h.found j hj
    · exact hl
  · simp [hp, launchedProcessor]
  · rw [hh, Function.update_same]
  · rw [hh, Function.update_noteq (Ne.symm hvn), Function.update_same]
  · rw [hp, Function.update_noteq (by omega)]; exact h.rest j (by omega)
  · rw [he, h.events, List.range_succ, List.map_append, List.append_assoc]; rfl

theorem svVirtualizeProcessor_failed {k : Nat} {m : Machine}
    (hc : ntSuccess (svVirtualizeProcessor plat shared k m).1 = false) :
    (svVirtualizeProcessor plat shared k m).2.processors = m.processors ∧
    (svVirtualizeProcessor plat shared k m).2.heap = m.heap ∧
    (svVirtualizeProcessor plat shared k m).2.invalidFree = m.invalidFree ∧
    (svVirtualizeProcessor plat shared k m).2.events = m.events ++ [.virtualizeFailed k] := by
  have hcases := svVirtualizeProcessor_cases plat shared k m
  dsimp only at hcases
  rcases hcases with ⟨-, h⟩ | ⟨hs, -⟩
  · exact h
  · rw [hs] at hc; cases hc

/-- The loop ends with every processor virtualized, or failing at `k` after `k` were. -/
def VirtualizeLoopEnd (plat : Platform) (m0 : Machine) (shared : BitVec 64)
    (r : NTSTATUS × Nat × Machine) : Prop :=
  (r.1 = statusSuccess ∧ VirtualizedPrefix plat m0 shared plat.numOfProcessors r.2.2) ∨
  (ntSuccess r.1 = false ∧ r.2.1 < plat.numOfProcessors ∧
    ∃ m tail, VirtualizedPrefix plat m0 shared r.2.1 m ∧ r.2.2.processors = m.processors ∧
      r.2.2.heap = m.heap ∧ r.2.2.invalidFree = m.invalidFree ∧
      r.2.2.events = m.events ++ tail ∧ ∀ e ∈ tail, e = .virtualizeFailed r.2.1)

theorem svExecuteOnEachProcessor_virtualize (hnone : NoneVirtualized plat m0) :
    VirtualizeLoopEnd plat m0 shared
      (svExecuteOnEachProcessor plat (svVirtualizeProcessor plat shared) m0) := by
  refine svExecuteOnEachProcessor_rule
    (fun i st m => st = statusSuccess ∧ VirtualizedPrefix plat m0 shared i m) _
    ?finished ?lookupFailed ?callbackFailed ?succeeded m0 ⟨rfl, virtualizedPrefix_zero⟩
  case finished => exact fun st m h => .inl h
  case lookupFailed =>
    exact fun i st m hi h hl => .inr ⟨hl, hi, m, [], h.2, rfl, rfl, rfl, by simp, by simp⟩
  case callbackFailed =>
    intro i st m hi h _ hc
    obtain ⟨hp, hh, hf, he⟩ := svVirtualizeProcessor_failed hc
    exact .inr ⟨hc, hi, m, [.virtualizeFailed i], h.2, hp, hh, hf, he, by simp⟩
  case succeeded => exact fun i st m hi h hl hc => h.2.step hnone hi hl hc

end VirtualizeLoop

theorem launchedBeforeFailure_of_prefix {plat : Platform} {k : Nat} {tail devTail : List Event}
    (hfound : ∀ j < k, ntSuccess (plat.processorNumberStatus j) = true)
    (htail : ∀ e ∈ tail, e = .virtualizeFailed k) (hdev : ∀ e ∈ devTail, ∃ j, e = .unloaded j) :
    LaunchedBeforeFailure plat ((List.range k).map Event.launched ++ tail ++ devTail) := by
  intro j hj i hi
  simp only [List.mem_append, List.mem_map, List.mem_range] at hj
  have hjk : j < k := by
    rcases hj with (⟨j', hj', he⟩ | he) | he
    · cases he; exact hj'
    · cases htail _ he
    · obtain ⟨_, h⟩ := hdev _ he; cases h
  refine ⟨hfound i (by omega), fun hm => ?_⟩
  simp only [List.mem_append, List.mem_map] at hm
  rcases hm with (⟨_, _, he⟩ | he) | he
  · cases he
  · injection htail _ he; omega
  · obtain ⟨_, h⟩ := hdev _ he; cases h

/-- What `SvVirtualizeAllProcessors` leaves, from no processor in guest mode. -/
theorem svVirtualizeAllProcessors_spec (plat : Platform) (m : Machine)
    (hnone : NoneVirtualized plat m) :
    let r := svVirtualizeAllProcessors plat m
    r.2.invalidFree = m.invalidFree ∧
    ((r.1 = statusSuccess ∧ ∃ vpOf nestOf,
        VirtualizedBelow plat (m.allocations m.allocCount) vpOf nestOf plat.numOfProcessors r.2) ∨
      (ntSuccess r.1 = false ∧ NoneVirtualized plat r.2 ∧
        ∃ new, r.2.events = m.events ++ new ∧ LaunchedBeforeFailure plat new)) := by
  have hnil : LaunchedBeforeFailure plat [] := fun _ h => by cases h
  rcases svVirtualizeAllProcessors_cases plat m with ⟨hst, hp, he, hf, -⟩ |
    ⟨msrpm, m3, hshz, hmz, -, -, hne, hp3, he3, hf3, hh3, hr⟩
  · exact ⟨hf, .inr ⟨hst, fun i hi => by rw [hp]; exact hnone i hi, [], by simp [he],
      hnil⟩⟩
  rw [hr]
  dsimp only
  have hnone3 : NoneVirtualized plat m3 := fun i hi => by rw [hp3]; exact hnone i hi
  have hs3 : m3.heap (m.allocations m.allocCount) = some (.sharedVirtualProcessorData msrpm) := by
    rw [hh3, Function.update_same]
  have hm3 : m3.heap msrpm = some .msrPermissions := by
    rw [hh3, Function.update_noteq hne, Function.update_same]
  have hloop := @svExecuteOnEachProcessor_virtualize plat m3 (m.allocations m.allocCount) hnone3
  generalize svExecuteOnEachProcessor plat
    (svVirtualizeProcessor plat (m.allocations m.allocCount)) m3 = l at *
  rcases hloop with ⟨hst, hpre⟩ |
    ⟨hst, hk, m', tail, hpre, hprocs, hheap, hinvf, hevents, htail⟩
  · -- every processor virtualized
    obtain ⟨vpOf, nestOf, hown⟩ := hpre.owns
    rw [virtualizeAllExit_of_success plat (by rw [hst]; rfl)]
    exact ⟨by rw [hpre.invalidFree, hf3], .inl ⟨hst, vpOf, nestOf, hpre.found, hown,
      fun j hj hjN => absurd hjN (by omega), le_rfl, hshz,
      ⟨msrpm, hpre.grown _ _ hs3, hpre.grown _ _ hm3⟩⟩⟩
  have hrest : ∀ j, l.2.1 ≤ j → j < plat.numOfProcessors →
      (l.2.2.processors j).hypervisor = none := fun j hkj hj => by rw [hprocs, hpre.rest j hkj]; exact hnone3 j hj
  have hs : l.2.2.heap (m.allocations m.allocCount) = some (.sharedVirtualProcessorData msrpm) := by
    rw [hheap]; exact hpre.grown _ _ hs3
  have hm : l.2.2.heap msrpm = some .msrPermissions := by rw [hheap]; exact hpre.grown _ _ hm3
  have hevl : l.2.2.events = m.events ++ ((List.range l.2.1).map Event.launched ++ tail) := by
    rw [hevents, hpre.events, he3, List.append_assoc]
  by_cases hk0 : l.2.1 = 0
  · -- nothing to devirtualize: the two shared allocations are freed directly
    rw [show l.2.1 = 0 from hk0]
    obtain ⟨hp', he', hf', -⟩ := virtualizeAllExit_frees_shared plat hst hshz hmz hs hm
    refine ⟨by rw [hf', hinvf, hpre.invalidFree, hf3], .inr ⟨hst, fun j hj => ?_,
      (List.range l.2.1).map Event.launched ++ tail ++ [], by rw [he', hevl, List.append_nil],
      launchedBeforeFailure_of_prefix hpre.found htail (by simp)⟩⟩
    rw [hp']; exact hrest j (by omega) hj
  · -- roll back through `SvDevirtualizeAllProcessors`
    rw [virtualizeAllExit_of_completed plat hst hk0]
    obtain ⟨vpOf, nestOf, hown⟩ := hpre.owns
    have hv : VirtualizedBelow plat (m.allocations m.allocCount) vpOf nestOf l.2.1 l.2.2 :=
      ⟨hpre.found,
        hown.of_grown (fun j _ => by rw [hprocs]) (fun a b h => by rw [hheap]; exact h), hrest, hk.le, hshz, ⟨msrpm, hs, hm⟩⟩
    obtain ⟨hnone', hinv'⟩ := svDevirtualizeAllProcessors_of_owned hv (Nat.pos_of_ne_zero hk0)
    obtain ⟨devTail, hdevEv, hdevTail⟩ := svDevirtualizeAllProcessors_events plat l.2.2
    exact ⟨by rw [hinv', hinvf, hpre.invalidFree, hf3], .inr ⟨hst, hnone',
      (List.range l.2.1).map Event.launched ++ tail ++ devTail,
      by rw [hdevEv, hevl, List.append_assoc, List.append_assoc],
      launchedBeforeFailure_of_prefix hpre.found htail hdevTail⟩⟩

/-- `SvVirtualizeAllProcessors` is all or nothing from a machine with no processor in guest mode. -/
theorem svVirtualizeAllProcessors_all_or_none (plat : Platform) (m : Machine)
    (hN : 0 < plat.numOfProcessors) (hnone : NoneVirtualized plat m) :
    let r := svVirtualizeAllProcessors plat m
    (r.1 = statusSuccess ∨ ntSuccess r.1 = false) ∧
    (r.1 = statusSuccess ↔ AllVirtualizedWith plat r.2 (m.allocations m.allocCount)) ∧
    (ntSuccess r.1 = false → NoneVirtualized plat r.2 ∧
      ∃ new, r.2.events = m.events ++ new ∧ LaunchedBeforeFailure plat new) := by
  have h := (svVirtualizeAllProcessors_spec plat m hnone).2
  dsimp only at h ⊢
  rcases h with ⟨hs, vpOf, nestOf, hv⟩ | ⟨hf, hno, hev⟩
  · refine ⟨.inl hs, iff_of_true hs ⟨hv.sharedLive, fun i hi => ⟨_, _, hv.owns.runs i hi⟩⟩,
      fun h => ?_⟩
    simp [hs] at h
  · have hne : (svVirtualizeAllProcessors plat m).1 ≠ statusSuccess := fun e => by
      simp [e] at hf
    refine ⟨.inr hf, iff_of_false hne fun hall => ?_, fun _ => ⟨hno, hev⟩⟩
    obtain ⟨vp, -, hv, -⟩ := hall.2 0 hN
    rw [hno 0 hN] at hv
    cases hv

/-- One processor, every allocation and lookup succeeding: the call returns `STATUS_SUCCESS`. -/
theorem all_or_none_on_one_processor :
    let m := Machine.init (fun _ => {}) pageAllocations
    let r := svVirtualizeAllProcessors pagePlatform m
    (0 < pagePlatform.numOfProcessors ∧ NoneVirtualized pagePlatform m ∧ r.1 = statusSuccess) ∧
    (r.1 = statusSuccess ∨ ntSuccess r.1 = false) ∧
    (r.1 = statusSuccess ↔ AllVirtualizedWith pagePlatform r.2 (m.allocations m.allocCount)) ∧
    (ntSuccess r.1 = false → NoneVirtualized pagePlatform r.2 ∧
      ∃ new, r.2.events = m.events ++ new ∧ LaunchedBeforeFailure pagePlatform new) :=
  ⟨⟨by decide, fun _ _ => rfl, by decide⟩,
    svVirtualizeAllProcessors_all_or_none pagePlatform _ (by decide) (fun _ _ => rfl)⟩

end SvmNest
