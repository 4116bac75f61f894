import SvmNest.Lifecycle.EachProcessor

/-!
# Virtualizing and devirtualizing one processor

`SvVirtualizeProcessor` allocates the processor's `VIRTUAL_PROCESSOR_DATA` and nested context
page and, unless the hypervisor already answers, sets EFER.SVME, prepares the VMCB and enters
guest mode. `SvDevirtualizeProcessor` asks for an unload with the back-door CPUID, whose unload
path returns the block's address over EDX:EAX; it hands back `SharedVpData` and frees the two
blocks.

Whether the hypervisor answers is read off the processor's state. The back-door CPUID is taken
to run in flat mode from kernel mode, as the driver's callbacks issue it, where
`SvHandleVmExit` takes its unload path (`svHandleVmExit_unload`).
-/

namespace SvmNest

/-- The address `SvDevirtualizeProcessor` rebuilds from `int registers[4]`. -/
def svDevirtualizeAddress (eax edx : BitVec 32) : BitVec 64 :=
  sext64 edx <<< 32 ||| zext64 (eax &&& maxUint32)

/-- The back-door CPUID as the caller sees it, taken to run in flat mode: EAX and EDX on 'JSVM'. -/
def unloadCpuid (p : Processor) : Option (BitVec 32 × BitVec 32) :=
  p.hypervisor.map fun vpData => (low32 (unloadRax vpData), low32 (unloadRdx vpData))

/-- A processor after `SvVirtualizeProcessor`'s launch of the block at `vpData`. -/
def launchedProcessor (plat : Platform) (vpData : BitVec 64) (p : Processor) : Processor :=
  { hypervisor := some vpData, efer := p.efer ||| eferSvme,
    vmHsavePa := plat.hostStateAreaPa vpData }

/-- A processor after the hypervisor's unload path. -/
def unloadedProcessor (p : Processor) : Processor :=
  { p with hypervisor := none, efer := clearSvme p.efer }

/-- The unload path undoes the launch's write of EFER only up to SVME, which it clears. -/
theorem clearSvme_or_eferSvme (efer : BitVec 64) : clearSvme (efer ||| eferSvme) = clearSvme efer := by
  ext i
  simp only [clearSvme, BitVec.getLsbD_and, BitVec.getLsbD_or, BitVec.getLsbD_not]
  cases efer.getLsbD i <;> cases eferSvme.getLsbD i <;> simp

namespace Machine

/-- The launch on processor `i`: EFER.SVME, `SvPrepareForVirtualization`, `SvLaunchVm`. -/
def launch (plat : Platform) (i : Nat) (vpData nest shared : BitVec 64) (m : Machine) : Machine :=
  ((m.store vpData (.virtualProcessorData nest shared)).setProcessor i
    (launchedProcessor plat vpData (m.processors i))).record (.launched i)

/-- The unload path on processor `i`. -/
def unload (i : Nat) (m : Machine) : Machine :=
  (m.setProcessor i (unloadedProcessor (m.processors i))).record (.unloaded i)

end Machine

/-- `SvVirtualizeProcessor` on processor `i` with `Context = context`. -/
def svVirtualizeProcessor (plat : Platform) (context : BitVec 64) (i : Nat) (m : Machine) :
    NTSTATUS × Machine :=
  if context = 0 then (statusInvalidParameter1, m.record (.virtualizeFailed i))
  else
    let r := m.allocate (.virtualProcessorData 0 0)
    let vpData := r.1
    if vpData = 0 then (statusInsufficientResources, r.2.record (.virtualizeFailed i))
    else
      let r := r.2.allocate .processorNestData
      let nest := r.1
      let m := r.2.store vpData (.virtualProcessorData nest 0)
      if nest = 0 then (statusInsufficientResources, (m.free vpData).record (.virtualizeFailed i))
      else if (m.processors i).hypervisor.isSome then (statusSuccess, m)
      else (statusSuccess, m.launch plat i vpData nest context)

/-- `SvDevirtualizeProcessor` on processor `i`, with the caller's `sharedVpData` as state. -/
def svDevirtualizeProcessor (i : Nat) (s : Machine × BitVec 64) :
    NTSTATUS × (Machine × BitVec 64) :=
  match unloadCpuid (s.1.processors i) with
  | none => (statusSuccess, s)
  | some (eax, edx) =>
    let vpData := svDevirtualizeAddress eax edx
    let m := s.1.unload i
    let nest := m.read vpData Block.pProcessNestData
    let m' := if nest ≠ 0 then m.free nest else m
    (statusSuccess, (m'.free vpData, m.read vpData Block.sharedVpData))

/-- Rebuilding the address from the unload path's EAX and EDX gives it back. -/
theorem svDevirtualizeAddress_unload (p : BitVec 64) :
    svDevirtualizeAddress (low32 (unloadRax p)) (low32 (unloadRdx p)) = p := by
  ext ⟨i, hi⟩
  simp only [svDevirtualizeAddress, unloadRax, unloadRdx, sext64, zext64, low32, maxUint32,
    BitVec.getLsbD_or, BitVec.getLsbD_shiftLeft, BitVec.getLsbD_signExtend,
    BitVec.getLsbD_setWidth, BitVec.getLsbD_and, BitVec.getLsbD_ushiftRight, getLsbD_allOnes32]
  by_cases h : i < 32
  · simp [h, hi]
  · have : i - 32 < 32 := by omega
    simp [h, this, hi, show 32 + (i - 32) = i by omega, show i - 32 < 64 by omega]

@[simp] theorem unload_processors (i : Nat) (m : Machine) :
    (m.unload i).processors = Function.update m.processors i (unloadedProcessor (m.processors i)) :=
  rfl

@[simp] theorem unload_heap (i : Nat) (m : Machine) : (m.unload i).heap = m.heap := rfl

@[simp] theorem unload_invalidFree (i : Nat) (m : Machine) :
    (m.unload i).invalidFree = m.invalidFree := rfl

@[simp] theorem unload_events (i : Nat) (m : Machine) :
    (m.unload i).events = m.events ++ [.unloaded i] := rfl

/-- `SvDevirtualizeProcessor` always succeeds. -/
theorem svDevirtualizeProcessor_spec (i : Nat) (s : Machine × BitVec 64) :
    (svDevirtualizeProcessor i s).1 = statusSuccess ∧
    ((s.1.processors i).hypervisor = none → svDevirtualizeProcessor i s = (statusSuccess, s)) ∧
    ((s.1.processors i).hypervisor ≠ none →
      (svDevirtualizeProcessor i s).2.1.processors =
        Function.update s.1.processors i (unloadedProcessor (s.1.processors i)) ∧
      (svDevirtualizeProcessor i s).2.1.events = s.1.events ++ [.unloaded i]) := by
  unfold svDevirtualizeProcessor unloadCpuid
  cases h : (s.1.processors i).hypervisor with
  | none => exact ⟨rfl, fun _ => rfl, fun h' => absurd rfl h'⟩
  | some vp =>
    refine ⟨rfl, fun h' => Option.noConfusion h', fun _ => ?_⟩
    dsimp only [Option.map_some']
    split <;> simp

theorem svDevirtualizeProcessor_of_runs (i : Nat) (m : Machine)
    (out vp nest shared : BitVec 64) (hv : (m.processors i).hypervisor = some vp)
    (hb : m.heap vp = some (.virtualProcessorData nest shared))
    (hn : m.heap nest = some .processorNestData) (hnz : nest ≠ 0) :
    let r := svDevirtualizeProcessor i (m, out)
    r.1 = statusSuccess ∧ r.2.2 = shared ∧
    r.2.1.heap = Function.update (Function.update m.heap nest none) vp none ∧
    r.2.1.invalidFree = m.invalidFree ∧
    r.2.1.processors = Function.update m.processors i (unloadedProcessor (m.processors i)) := by
  have hvn : vp ≠ nest := fun h => by rw [h, hn] at hb; cases hb
  have hread : ∀ f, (m.unload i).read vp f = f (.virtualProcessorData nest shared) :=
    Machine.read_of_heap (by rwa [unload_heap])
  have hfree := @Machine.free_of_live (m.unload i) nest (by simp [hn])
  have hfree' := @Machine.free_of_live ((m.unload i).free nest) vp
    (by rw [hfree.1, Function.update_noteq hvn]; simp [hb])
  simp only [svDevirtualizeProcessor, unloadCpuid, hv, Option.map_some',
    svDevirtualizeAddress_unload, hread, Block.pProcessNestData, Block.sharedVpData, ne_eq, hnz,
    not_false_eq_true, if_true, hfree'.1, hfree'.2, hfree.1, hfree.2, unload_heap,
    unload_invalidFree, unload_processors, Machine.free_processors, and_self]

/-- The unload frees exactly the processor's two blocks and hands back `SharedVpData`. -/
theorem svDevirtualizeProcessor_frees_own_block (i : Nat) (m : Machine)
    (out vp nest shared : BitVec 64) (hv : (m.processors i).hypervisor = some vp)
    (hb : m.heap vp = some (.virtualProcessorData nest shared))
    (hn : m.heap nest = some .processorNestData) (hnz : nest ≠ 0) :
    let r := svDevirtualizeProcessor i (m, out)
    svDevirtualizeAddress (low32 (unloadRax vp)) (low32 (unloadRdx vp)) = vp ∧
    r.1 = statusSuccess ∧ r.2.2 = shared ∧
    r.2.1.heap = Function.update (Function.update m.heap nest none) vp none ∧
    r.2.1.invalidFree = m.invalidFree ∧
    r.2.1.processors = Function.update m.processors i (unloadedProcessor (m.processors i)) :=
  ⟨svDevirtualizeAddress_unload vp,
    svDevirtualizeProcessor_of_runs i m out vp nest shared hv hb hn hnz⟩

/-- Processor 0 running from a block at a kernel address with bits 63 and 31 set. -/
def kernelBlockMachine : Machine :=
  { Machine.init (Function.update (fun _ => {}) 0 { hypervisor := some 0xFFFFF80080001000 })
      (fun _ => 0) with
    heap := fun a =>
      if a = 0xFFFFF80080001000 then
        some (.virtualProcessorData 0xFFFFF80080002000 0xFFFFF80080003000)
      else if a = 0xFFFFF80080002000 then some .processorNestData else none }

theorem frees_own_block_at_kernel_address :
    let vp : BitVec 64 := 0xFFFFF80080001000
    let nest : BitVec 64 := 0xFFFFF80080002000
    let m := kernelBlockMachine
    let r := svDevirtualizeProcessor 0 (m, 0)
    ((m.processors 0).hypervisor = some vp ∧
      m.heap vp = some (.virtualProcessorData nest 0xFFFFF80080003000) ∧
      m.heap nest = some .processorNestData ∧ nest ≠ 0) ∧
    svDevirtualizeAddress (low32 (unloadRax vp)) (low32 (unloadRdx vp)) = vp ∧
    r.1 = statusSuccess ∧ r.2.2 = 0xFFFFF80080003000 ∧
    r.2.1.heap = Function.update (Function.update m.heap nest none) vp none ∧
    r.2.1.invalidFree = m.invalidFree ∧
    r.2.1.processors = Function.update m.processors 0 (unloadedProcessor (m.processors 0)) :=
  ⟨⟨by decide, by decide, by decide, by decide⟩,
    svDevirtualizeProcessor_frees_own_block 0 _ 0 _ _ _ (by decide) (by decide) (by decide)
      (by decide)⟩

/-- `SvVirtualizeProcessor` fails cleanly, finds the hypervisor installed, or launches it. -/
theorem svVirtualizeProcessor_cases (plat : Platform) (context : BitVec 64) (i : Nat)
    (m : Machine) :
    let r := svVirtualizeProcessor plat context i m
    (ntSuccess r.1 = false ∧ r.2.processors = m.processors ∧ r.2.heap = m.heap ∧
      r.2.invalidFree = m.invalidFree ∧ r.2.events = m.events ++ [.virtualizeFailed i]) ∨
    (r.1 = statusSuccess ∧ r.2.invalidFree = m.invalidFree ∧
      ∃ vp nest : BitVec 64, vp ≠ 0 ∧ nest ≠ 0 ∧ vp ≠ nest ∧ m.heap vp = none ∧ m.heap nest = none ∧
      (((m.processors i).hypervisor.isSome ∧ r.2.processors = m.processors ∧
          r.2.events = m.events ∧
          r.2.heap = Function.update (Function.update m.heap nest (some .processorNestData)) vp
            (some (.virtualProcessorData nest 0))) ∨
        ((m.processors i).hypervisor = none ∧
          r.2.processors =
            Function.update m.processors i (launchedProcessor plat vp (m.processors i)) ∧
          r.2.events = m.events ++ [.launched i] ∧
          r.2.heap = Function.update (Function.update m.heap nest (some .processorNestData)) vp
            (some (.virtualProcessorData nest context))))) := by
  unfold svVirtualizeProcessor
  by_cases hc : context = 0
  · simp only [hc, if_true]
    exact .inl ⟨by decide, rfl, rfl, rfl, rfl⟩
  simp only [hc, if_false]
  obtain ⟨h0, hh⟩ | ⟨-, hvp, hvpFresh, hh⟩ := @Machine.allocate_spec m (.virtualProcessorData 0 0)
  · simp only [h0, if_true]
    exact .inl ⟨by decide, by simp, hh, by simp, by simp⟩
  simp only [hvp, if_false]
  have hp := @Machine.allocate_processors m (.virtualProcessorData 0 0)
  have hf := @Machine.allocate_invalidFree m (.virtualProcessorData 0 0)
  have he := @Machine.allocate_events m (.virtualProcessorData 0 0)
  generalize (m.allocate (.virtualProcessorData 0 0)).1 = vp at *
  generalize (m.allocate (.virtualProcessorData 0 0)).2 = m1 at *
  have hp' := @Machine.allocate_processors m1 .processorNestData
  have hf' := @Machine.allocate_invalidFree m1 .processorNestData
  have he' := @Machine.allocate_events m1 .processorNestData
  obtain ⟨h0, hh'⟩ | ⟨-, hnest, hnestFresh, hh'⟩ := @Machine.allocate_spec m1 .processorNestData
  · -- the nested context page is not allocated: the block is freed again
    simp only [h0, if_true]
    generalize (m1.allocate .processorNestData).2 = m2 at *
    obtain ⟨hfh, hff⟩ := @Machine.free_of_live (m2.store vp (.virtualProcessorData 0 0)) vp
      (by simp)
    refine .inl ⟨by decide, by simp [hp', hp], ?_, ?_, by simp [he', he]⟩
    · simp only [Machine.record_heap, hfh, Machine.store_heap, Function.update_idem, hh', hh]
      rw [← hvpFresh, Function.update_eq_self]
    simp only [Machine.record_invalidFree, hff, Machine.store_invalidFree, hf', hf]
  simp only [hnest, if_false]
  have hvn : vp ≠ (m1.allocate .processorNestData).1 := fun h => by
    rw [← h, hh, Function.update_same] at hnestFresh; cases hnestFresh
  generalize (m1.allocate .processorNestData).1 = nest at *
  generalize (m1.allocate .processorNestData).2 = m2 at *
  have hnestm : m.heap nest = none := by
    rwa [hh, Function.update_noteq (Ne.symm hvn)] at hnestFresh
  have hheap : Function.update m2.heap vp (some (.virtualProcessorData nest 0)) =
      Function.update (Function.update m.heap nest (some .processorNestData)) vp
        (some (.virtualProcessorData nest 0)) := by
    rw [hh', hh, Function.update_comm hvn, Function.update_idem]
  by_cases hi : (m.processors i).hypervisor.isSome
  · -- already installed: the two new blocks stay allocated
    have hi' : ((m2.store vp (.virtualProcessorData nest 0)).processors i).hypervisor.isSome := by
      simpa [hp', hp] using hi
    simp only [hi', if_true]
    exact .inr ⟨trivial, by simp [hf', hf], vp, nest, hvp, hnest, hvn, hvpFresh, hnestm,
      .inl ⟨hi, by simp [hp', hp], by simp [he', he], hheap⟩⟩
  · have hi' : ((m2.store vp (.virtualProcessorData nest 0)).processors i).hypervisor.isSome =
        false := by simpa [hp', hp] using hi
    simp only [hi', Bool.false_eq_true, if_false]
    refine .inr ⟨trivial, by simp [Machine.launch, hf', hf], vp, nest, hvp, hnest, hvn, hvpFresh,
      hnestm, .inr ⟨by simpa using hi, by simp [Machine.launch, hp', hp], by
        simp [Machine.launch, he', he], ?_⟩⟩
    simp only [Machine.launch, Machine.record_heap, Machine.setProcessor_heap,
      Machine.store_heap, Function.update_idem, hheap]

/-- A processor whose firmware left EFER.SVME set and VM_HSAVE_PA at zero. -/
def firmwareSvmeProcessor : Processor := { efer := 0x1D01, vmHsavePa := 0 }

/-- A platform whose host state areas sit at one page past their block. -/
def pagePlatform : Platform :=
  { numOfProcessors := 1, processorNumberStatus := fun _ => statusSuccess, svmSupported := true,
    hostStateAreaPa := fun vp => vp + 0x1000 }

/-- The allocator handing out consecutive pages from 0x1000, never failing. -/
def pageAllocations (n : Nat) : BitVec 64 := BitVec.ofNat 64 (0x1000 * (n + 1))

/-- A virtualize-devirtualize round trip leaves SVME clear and VM_HSAVE_PA at the freed block. -/
theorem virtualize_devirtualize_msrs (plat : Platform) (context : BitVec 64) (i : Nat)
    (m : Machine) (out : BitVec 64) (hi : (m.processors i).hypervisor = none)
    (hs : (svVirtualizeProcessor plat context i m).1 = statusSuccess) :
    let m1 := (svVirtualizeProcessor plat context i m).2
    let m2 := (svDevirtualizeProcessor i (m1, out)).2.1
    ∃ vp, (m1.processors i).hypervisor = some vp ∧ (m2.processors i).hypervisor = none ∧
      (m2.processors i).efer = clearSvme (m.processors i).efer ∧
      (m2.processors i).vmHsavePa = plat.hostStateAreaPa vp := by
  have hc := svVirtualizeProcessor_cases plat context i m
  dsimp only at hc
  rcases hc with ⟨hf, -⟩ | ⟨-, -, vp, nest, -, -, -, -, -, h⟩
  · rw [hs] at hf; cases hf
  rcases h with ⟨hi', -⟩ | ⟨-, hp, -⟩
  · simp [hi] at hi'
  have hv : ((svVirtualizeProcessor plat context i m).2.processors i).hypervisor = some vp := by
    simp [hp, launchedProcessor]
  refine ⟨vp, hv, ?_⟩
  have hd := (svDevirtualizeProcessor_spec i ((svVirtualizeProcessor plat context i m).2, out)).2.2
    (by simp [hv])
  simp [hd.1, hp, unloadedProcessor, launchedProcessor, clearSvme_or_eferSvme]

theorem virtualize_devirtualize_msrs_from_firmware_state :
    let m := Machine.init (fun _ => firmwareSvmeProcessor) pageAllocations
    let m1 := (svVirtualizeProcessor pagePlatform 0x9000 0 m).2
    let m2 := (svDevirtualizeProcessor 0 (m1, 0)).2.1
    ((m.processors 0).hypervisor = none ∧
      (svVirtualizeProcessor pagePlatform 0x9000 0 m).1 = statusSuccess) ∧
    ∃ vp, (m1.processors 0).hypervisor = some vp ∧ (m2.processors 0).hypervisor = none ∧
      (m2.processors 0).efer = clearSvme (m.processors 0).efer ∧
      (m2.processors 0).vmHsavePa = pagePlatform.hostStateAreaPa vp :=
  ⟨⟨by decide, by decide⟩, virtualize_devirtualize_msrs _ _ _ _ _ (by decide) (by decide)⟩

/-- Neither MSR comes back on a processor that had SVME set. -/
theorem virtualize_devirtualize_changes_msrs :
    let m := Machine.init (fun _ => firmwareSvmeProcessor) pageAllocations
    let m1 := (svVirtualizeProcessor pagePlatform 0x9000 0 m).2
    let m2 := (svDevirtualizeProcessor 0 (m1, 0)).2.1
    (m.processors 0).hypervisor = none ∧ (m1.processors 0).hypervisor = some 0x1000 ∧
    (m2.processors 0).efer = 0x0D01 ∧ (m2.processors 0).vmHsavePa = 0x2000 := by
  decide

end SvmNest
