import SvmNest.Lifecycle.AllProcessors

/-!
# Runs of the lifecycle

The driver virtualizes at load and on the way back to S0, and devirtualizes at unload and on
the way out of S0, in whatever order the power callbacks come. This module follows whole
sequences of those calls under any allocation outcomes and processor-number lookups: after
every call no free has hit a dead block and the machine is all or nothing. That nothing leaks
is not claimed: virtualizing a virtualized machine allocates blocks no later call frees.
-/

namespace SvmNest

section Installed

variable {plat : Platform} {shared : BitVec 64} {m : Machine}

/-- The virtualization loop over processors that all run the hypervisor already. -/
theorem svExecuteOnEachProcessor_virtualize_installed
    (hall : ∀ i < plat.numOfProcessors, (m.processors i).hypervisor.isSome) :
    let r := svExecuteOnEachProcessor plat (svVirtualizeProcessor plat shared) m
    r.2.2.processors = m.processors ∧ r.2.2.invalidFree = m.invalidFree ∧
      (∀ a b, m.heap a = some b → r.2.2.heap a = some b) ∧
      (ntSuccess r.1 = false → r.2.1 < plat.numOfProcessors) := by
  refine svExecuteOnEachProcessor_rule
    (fun _ st s => ntSuccess st = true ∧ s.processors = m.processors ∧
      s.invalidFree = m.invalidFree ∧ ∀ a b, m.heap a = some b → s.heap a = some b)
    (fun r => r.2.2.processors = m.processors ∧ r.2.2.invalidFree = m.invalidFree ∧
      (∀ a b, m.heap a = some b → r.2.2.heap a = some b) ∧
      (ntSuccess r.1 = false → r.2.1 < plat.numOfProcessors))
    ?finished ?lookupFailed ?callbackFailed ?succeeded m ⟨rfl, rfl, rfl, fun _ _ h => h⟩
  case finished =>
    exact fun _ _ ⟨hst, hp, hf, hg⟩ => ⟨hp, hf, hg, fun h => by rw [hst] at h; cases h⟩
  case lookupFailed => exact fun _ _ _ hi ⟨_, hp, hf, hg⟩ _ => ⟨hp, hf, hg, fun _ => hi⟩
  case callbackFailed =>
    intro _ _ s hi ⟨_, hp, hf, hg⟩ _ hc
    obtain ⟨hp', hh', hf', -⟩ := svVirtualizeProcessor_failed hc
    exact ⟨by rw [hp', hp], by rw [hf', hf], fun a b h => by rw [hh']; exact hg a b h,
      fun _ => hi⟩
  case succeeded =>
    intro i _ s hi ⟨_, hp, hf, hg⟩ _ hc
    have hcases := svVirtualizeProcessor_cases plat shared i s
    dsimp only at hcases
    rcases hcases with ⟨hf', -⟩ | ⟨-, hinv, vp, nest, -, -, -, hvp, hnest, hlaunch⟩
    · rw [hc] at hf'; cases hf'
    rcases hlaunch with ⟨-, hp', -, hh'⟩ | ⟨hnone, -⟩
    · exact ⟨hc, by rw [hp', hp], by rw [hinv, hf],
        fun a b h => by rw [hh']; exact update_fresh_of_live hvp hnest _ _ (hg a b h)⟩
    · have := hall i hi
      rw [← hp, hnone] at this
      cases this

theorem svVirtualizeAllProcessors_of_virtualized {vpOf nestOf : Nat → BitVec 64}
    (h : VirtualizedBelow plat shared vpOf nestOf plat.numOfProcessors m) :
    let r := svVirtualizeAllProcessors plat m
    r.2.invalidFree = m.invalidFree ∧ (NoneVirtualized plat r.2 ∨
      VirtualizedBelow plat shared vpOf nestOf plat.numOfProcessors r.2) := by
  rcases svVirtualizeAllProcessors_cases plat m with ⟨-, hp, -, hf, hg⟩ |
    ⟨msrpm, m3, hshz, hmz, hshFresh, hmFresh, hne, hp3, -, hf3, hh3, hr⟩
  · exact ⟨hf, .inr (h.of_grown hp hg)⟩
  rw [hr]
  dsimp only
  have hg3 : ∀ a b, m.heap a = some b → m3.heap a = some b := fun a b hb => by
    rw [hh3]; exact update_fresh_of_live hshFresh hmFresh _ _ hb
  obtain ⟨hpl, hfl, hgl, hkl⟩ := @svExecuteOnEachProcessor_virtualize_installed plat
    (m.allocations m.allocCount) m3 (fun i hi => by rw [hp3, (h.owns.runs i hi).1]; rfl)
  generalize svExecuteOnEachProcessor plat
    (svVirtualizeProcessor plat (m.allocations m.allocCount)) m3 = l at *
  have hl := h.of_grown (hpl.trans hp3) fun a b hb => hgl a b (hg3 a b hb)
  cases hst : ntSuccess l.1
  · by_cases hk0 : l.2.1 = 0
    · -- the call's own shared block and map are freed directly
      rw [show l.2.1 = 0 from hk0]
      obtain ⟨hp', -, hf', hh'⟩ := virtualizeAllExit_frees_shared plat hst hshz hmz
        (hgl _ _ (by rw [hh3, Function.update_same]))
        (hgl _ _ (by rw [hh3, Function.update_noteq hne, Function.update_same]))
      refine ⟨by rw [hf', hfl, hf3], .inr (h.of_grown (by rw [hp', hpl, hp3]) fun a b hb => ?_)⟩
      have h1 : a ≠ m.allocations m.allocCount := fun e => by rw [e, hshFresh] at hb; cases hb
      have h2 : a ≠ msrpm := fun e => by rw [e, hmFresh] at hb; cases hb
      rw [hh' a h1 h2]; exact hgl a b (hg3 a b hb)
    · -- a processor past the first failed: every processor is devirtualized
      rw [virtualizeAllExit_of_completed plat hst hk0]
      have hN := hkl hst
      obtain ⟨hnone, hinv⟩ := svDevirtualizeAllProcessors_of_owned hl (by omega)
      exact ⟨by rw [hinv, hfl, hf3], .inl hnone⟩
  · rw [virtualizeAllExit_of_success plat hst]
    exact ⟨by rw [hfl, hf3], .inr hl⟩

end Installed

/-- The lifecycle operations. -/
inductive LifecycleOp where
  | virtualizeAll
  | devirtualizeAll
  deriving DecidableEq, Repr

def LifecycleOp.apply (plat : Platform) : LifecycleOp → Machine → Machine
  | .virtualizeAll, m => (svVirtualizeAllProcessors plat m).2
  | .devirtualizeAll, m => svDevirtualizeAllProcessors plat m

/-- The machine after a sequence of lifecycle operations. -/
def runLifecycle (plat : Platform) (ops : List LifecycleOp) (m : Machine) : Machine :=
  ops.foldl (fun m op => op.apply plat m) m

/-- No free hit a dead block, and no processor or every processor runs the hypervisor. -/
def Consistent (plat : Platform) (m : Machine) : Prop :=
  m.invalidFree = false ∧ (NoneVirtualized plat m ∨
    ∃ shared vpOf nestOf, VirtualizedBelow plat shared vpOf nestOf plat.numOfProcessors m)

section Consistent

variable {plat : Platform} {m : Machine}

theorem consistent_init (plat : Platform) {processors : Nat → Processor}
    (h : ∀ i, (processors i).hypervisor = none) (allocations : Nat → BitVec 64) :
    Consistent plat (Machine.init processors allocations) :=
  ⟨rfl, .inl fun i _ => h i⟩

theorem Consistent.devirtualizeAll_leaves_none (h : Consistent plat m) :
    (svDevirtualizeAllProcessors plat m).invalidFree = false ∧
      NoneVirtualized plat (svDevirtualizeAllProcessors plat m) := by
  obtain ⟨hf, hnone | ⟨shared, vpOf, nestOf, hv⟩⟩ := h
  · rw [svDevirtualizeAllProcessors_of_none hnone]; exact ⟨hf, hnone⟩
  rcases Nat.eq_zero_or_pos plat.numOfProcessors with hN | hN
  · -- no processor at all
    have hnone : NoneVirtualized plat m := fun i hi => absurd hi (by omega)
    rw [svDevirtualizeAllProcessors_of_none hnone]; exact ⟨hf, hnone⟩
  · obtain ⟨hnone, hf'⟩ := svDevirtualizeAllProcessors_of_owned hv hN
    exact ⟨hf'.trans hf, hnone⟩

theorem Consistent.devirtualizeAll (h : Consistent plat m) :
    Consistent plat (svDevirtualizeAllProcessors plat m) :=
  ⟨h.devirtualizeAll_leaves_none.1, .inl h.devirtualizeAll_leaves_none.2⟩

theorem Consistent.virtualizeAll (h : Consistent plat m) :
    Consistent plat (svVirtualizeAllProcessors plat m).2 := by
  obtain ⟨hf, hnone | ⟨shared, vpOf, nestOf, hv⟩⟩ := h
  · obtain ⟨hf', hr⟩ := svVirtualizeAllProcessors_spec plat m hnone
    refine ⟨hf'.trans hf, ?_⟩
    rcases hr with ⟨-, vpOf, nestOf, hv⟩ | ⟨-, hnone', -⟩
    · exact .inr ⟨_, vpOf, nestOf, hv⟩
    · exact .inl hnone'
  · obtain ⟨hf', hr⟩ := svVirtualizeAllProcessors_of_virtualized hv
    exact ⟨hf'.trans hf, hr.imp id fun hv' => ⟨shared, vpOf, nestOf, hv'⟩⟩

theorem Consistent.apply (h : Consistent plat m) : ∀ op : LifecycleOp,
    Consistent plat (op.apply plat m)
  | .virtualizeAll => h.virtualizeAll
  | .devirtualizeAll => h.devirtualizeAll

theorem runLifecycle_consistent (plat : Platform) (ops : List LifecycleOp) {m : Machine}
    (h : Consistent plat m) : Consistent plat (runLifecycle plat ops m) := by
  induction ops generalizing m with
  | nil => exact h
  | cons op ops ih => exact ih (h.apply op)

end Consistent

/-- Any sequence of lifecycle operations from driver load keeps the machine consistent. -/
theorem lifecycle_frees_only_live_blocks (plat : Platform) (processors : Nat → Processor)
    (allocations : Nat → BitVec 64) (ops : List LifecycleOp)
    (hload : ∀ i, (processors i).hypervisor = none) :
    let m := runLifecycle plat ops (Machine.init processors allocations)
    m.invalidFree = false ∧ (NoneVirtualized plat m ∨
      ∃ shared vpOf nestOf, VirtualizedBelow plat shared vpOf nestOf plat.numOfProcessors m) :=
  runLifecycle_consistent plat ops (consistent_init plat hload allocations)

theorem lifecycle_frees_only_live_blocks_on_one_processor :
    let m := runLifecycle pagePlatform [.virtualizeAll, .virtualizeAll, .devirtualizeAll]
      (Machine.init (fun _ => {}) pageAllocations)
    (∀ i, ((fun _ => {} : Nat → Processor) i).hypervisor = none) ∧
    m.invalidFree = false ∧ (NoneVirtualized pagePlatform m ∨
      ∃ shared vpOf nestOf,
        VirtualizedBelow pagePlatform shared vpOf nestOf pagePlatform.numOfProcessors m) :=
  ⟨fun _ => rfl, lifecycle_frees_only_live_blocks pagePlatform (fun _ => {}) pageAllocations
    [.virtualizeAll, .virtualizeAll, .devirtualizeAll] fun _ => rfl⟩

/-- A second `SvVirtualizeAllProcessors` allocates four blocks no devirtualization frees. -/
theorem virtualize_twice_leaks :
    let m : Machine := Machine.init (fun _ => {}) pageAllocations
    let m1 := runLifecycle pagePlatform [.virtualizeAll] m
    let m2 := runLifecycle pagePlatform [.virtualizeAll, .virtualizeAll] m
    let m3 := runLifecycle pagePlatform [.virtualizeAll, .virtualizeAll, .devirtualizeAll] m
    (svVirtualizeAllProcessors pagePlatform m1).1 = statusSuccess ∧
    (m2.processors 0).hypervisor = some 0x3000 ∧
    m2.heap 0x3000 = some (.virtualProcessorData 0x4000 0x1000) ∧
    m2.heap 0x5000 = some (.sharedVirtualProcessorData 0x6000) ∧
    m2.heap 0x6000 = some .msrPermissions ∧
    m2.heap 0x7000 = some (.virtualProcessorData 0x8000 0) ∧
    m2.heap 0x8000 = some .processorNestData ∧
    (m3.processors 0).hypervisor = none ∧ m3.invalidFree = false ∧
    m3.heap 0x1000 = none ∧ m3.heap 0x3000 = none ∧
    m3.heap 0x5000 ≠ none ∧ m3.heap 0x6000 ≠ none ∧ m3.heap 0x7000 ≠ none ∧
    m3.heap 0x8000 ≠ none := by
  decide

end SvmNest
