import SvmNest.MsrPermissions

/-!
# The processor as the guest sees it

After `SvVirtualizeProcessor` launches the guest, CPUID always exits to `SvHandleVmExit`, and
RDMSR and WRMSR exit when the MSRPM says so, to handlers not in the source (`none`).

A guest program is a tree of these instructions. Bare metal zero-extends CPUID's 32-bit
results, while `SvHandleCpuid` passes them through `int`, so the hypervisor refines a processor
that sign-extends. The MSRs are the guest's: the VMSAVE and VMLOAD around each exit restore them.
-/

namespace SvmNest

abbrev GuestM := StateT (HostState × GuestRegisters) Option

theorem run_bind_of_run {α β : Type} {x : GuestM α} {t t' : HostState × GuestRegisters} {a : α}
    (h : x.run t = some (a, t')) (f : α → GuestM β) : (x >>= f).run t = (f a).run t' := by
  simp [StateT.run_bind, h]

theorem run'_bind_of_run {α β : Type} {x : GuestM α} {t t' : HostState × GuestRegisters} {a : α}
    (h : x.run t = some (a, t')) (f : α → GuestM β) : (x >>= f).run' t = (f a).run' t' := by
  simp [StateT.run'_eq, run_bind_of_run h]

/-- RDMSR of `msr` under the MSRPM `map`: EDX:EAX gets the MSR unless the access exits. -/
def guestRdmsr (map : Nat → Bool) (msr : BitVec 32) : GuestM (BitVec 64) := fun (s, regs) =>
  if msrAccessExits map msr false then none
  else
    let v := s.msrs msr
    some (v, (s, { regs with rax := zext64 (low32 v), rdx := v >>> 32 }))

def guestWrmsr (map : Nat → Bool) (msr : BitVec 32) (v : BitVec 64) : GuestM Unit :=
  fun (s, regs) =>
    if msrAccessExits map msr true then none
    else some ((), ({ s with msrs := Function.update s.msrs msr v }, regs))

theorem guestRdmsr_run_of_not_exits {map : Nat → Bool} {msr : BitVec 32}
    (h : msrAccessExits map msr false = false) (t : HostState × GuestRegisters) :
    (guestRdmsr map msr).run t = some (t.1.msrs msr,
      (t.1, { t.2 with rax := zext64 (low32 (t.1.msrs msr)), rdx := t.1.msrs msr >>> 32 })) := by
  simp only [StateT.run, guestRdmsr, h, Bool.false_eq_true, if_false]

theorem guestWrmsr_run_of_not_exits {map : Nat → Bool} {msr : BitVec 32} {v : BitVec 64}
    (h : msrAccessExits map msr true = false) (t : HostState × GuestRegisters) :
    (guestWrmsr map msr v).run t =
      some ((), ({ t.1 with msrs := Function.update t.1.msrs msr v }, t.2)) := by
  simp only [StateT.run, guestWrmsr, h, Bool.false_eq_true, if_false]

/-- The leaves `SvHandleCpuid` answers itself. -/
def answeredLeaves : List (BitVec 32) :=
  [cpuidProcessorAndProcessorFeatureIdentifiers, cpuidHvVendorAndMaxFunctions, cpuidHvInterface]

/-- What the processor records in the guest VMCB on a CPUID exit. -/
def cpuidExitState (s : HostState) (leaf : BitVec 32) : HostState :=
  { s with vp.guestVmcb.controlArea.exitCode := vmexitCpuid,
           vp.guestVmcb.stateSaveArea.rax := zext64 leaf }

/-- The four registers CPUID writes, each 32-bit result widened by `widen`. -/
def cpuidRegs (widen : BitVec 32 → BitVec 64) (r : CpuidRegisters) : GuestRegisters :=
  ⟨widen r.eax, widen r.ebx, widen r.ecx, widen r.edx⟩

theorem cpuidSwitch_of_not_answered (hvMax unloadLeaf : BitVec 32) (ssAttrib : BitVec 16)
    {leaf : BitVec 32} (subLeaf : BitVec 32) (r : CpuidRegisters) (hleaf : leaf ∉ answeredLeaves) :
    cpuidSwitch hvMax unloadLeaf ssAttrib leaf subLeaf r =
      (r, decide (leaf = unloadLeaf ∧ subLeaf = unloadLeaf ∧ segmentDpl ssAttrib = dplSystem)) := by
  simp only [answeredLeaves, List.mem_cons, List.mem_singleton, not_or] at hleaf
  simp only [cpuidSwitch, hleaf.1, hleaf.2.1, hleaf.2.2, if_false]
  by_cases h : leaf = unloadLeaf ∧ subLeaf = unloadLeaf
  · simp [h]
  · simp only [h, if_false, Prod.mk.injEq, true_and]
    exact (decide_eq_false fun h' => h ⟨h'.1, h'.2.1⟩).symm

section Guest

variable (traps : Traps) (hvMax unloadLeaf : BitVec 32)
  (nativeCpuid : BitVec 32 → BitVec 32 → CpuidRegisters) (vpData : BitVec 64)

/-- A guest CPUID: on resume VMRUN reloads RAX from the VMCB, `SvLaunchVm` the rest. -/
def guestCpuidRegs (leaf subLeaf : BitVec 32) : GuestM GuestRegisters := fun (s, regs) =>
  match svHandleVmExit traps hvMax unloadLeaf nativeCpuid vpData (cpuidExitState s leaf)
      { regs with rcx := zext64 subLeaf } with
  | .resume s' regs' =>
    let regs' := { regs' with rax := s'.vp.guestVmcb.stateSaveArea.rax }
    some (regs', (s', regs'))
  | _ => none

/-- `__cpuid`, which stores EAX, EBX, ECX and EDX into `int registers[4]`. -/
def guestCpuid (leaf subLeaf : BitVec 32) : GuestM CpuidRegisters :=
  (fun r => ⟨low32 r.rax, low32 r.rbx, low32 r.rcx, low32 r.rdx⟩) <$>
    guestCpuidRegs traps hvMax unloadLeaf nativeCpuid vpData leaf subLeaf

/-- A flat-mode CPUID other than an accepted unload returns `cpuidSwitch` sign-extended. -/
theorem guestCpuidRegs_run (s : HostState) (regs : GuestRegisters) (leaf subLeaf : BitVec 32)
    (hflat : s.flat = true)
    (hunload : (cpuidSwitch hvMax unloadLeaf s.vp.guestVmcb.stateSaveArea.ssAttrib leaf subLeaf
      (nativeCpuid leaf subLeaf)).2 = false) :
    ∃ t, (guestCpuidRegs traps hvMax unloadLeaf nativeCpuid vpData leaf subLeaf).run (s, regs) =
        some (cpuidRegs sext64 (cpuidSwitch hvMax unloadLeaf s.vp.guestVmcb.stateSaveArea.ssAttrib
          leaf subLeaf (nativeCpuid leaf subLeaf)).1, t) ∧
      t.1.flat = true ∧ t.1.msrs = s.msrs ∧
      t.1.vp.guestVmcb.stateSaveArea.ssAttrib = s.vp.guestVmcb.stateSaveArea.ssAttrib := by
  simp only [StateT.run, guestCpuidRegs]
  rw [svHandleVmExit_cpuid traps hvMax unloadLeaf nativeCpuid vpData (cpuidExitState s leaf) _
    hflat rfl]
  simp only [cpuidExitState, low32_zext64, hunload, if_false, Bool.false_eq_true]
  exact ⟨_, rfl, hflat, rfl, rfl⟩

theorem guestCpuidRegs_run_native (s : HostState) (regs : GuestRegisters) {leaf : BitVec 32}
    (subLeaf : BitVec 32) (hflat : s.flat = true) (hleaf : leaf ∉ answeredLeaves)
    (hunload : ¬(leaf = unloadLeaf ∧ subLeaf = unloadLeaf ∧
      segmentDpl s.vp.guestVmcb.stateSaveArea.ssAttrib = dplSystem)) :
    ∃ t, (guestCpuidRegs traps hvMax unloadLeaf nativeCpuid vpData leaf subLeaf).run (s, regs) =
        some (cpuidRegs sext64 (nativeCpuid leaf subLeaf), t) ∧
      t.1.flat = true ∧ t.1.msrs = s.msrs ∧
      t.1.vp.guestVmcb.stateSaveArea.ssAttrib = s.vp.guestVmcb.stateSaveArea.ssAttrib := by
  have hsw := cpuidSwitch_of_not_answered hvMax unloadLeaf s.vp.guestVmcb.stateSaveArea.ssAttrib
    subLeaf (nativeCpuid leaf subLeaf) hleaf
  have := guestCpuidRegs_run traps hvMax unloadLeaf nativeCpuid vpData s regs leaf subLeaf hflat
    (by rw [hsw]; exact decide_eq_false hunload)
  rwa [hsw] at this

/-- The low halves `__cpuid` reads are the results before the sign extension. -/
theorem guestCpuid_run_of_regs {t t' : HostState × GuestRegisters} {leaf subLeaf : BitVec 32}
    {r : CpuidRegisters}
    (h : (guestCpuidRegs traps hvMax unloadLeaf nativeCpuid vpData leaf subLeaf).run t =
      some (cpuidRegs sext64 r, t')) :
    (guestCpuid traps hvMax unloadLeaf nativeCpuid vpData leaf subLeaf).run t = some (r, t') := by
  simp only [guestCpuid, StateT.run_map, h, Option.map_eq_map, Option.map_some', cpuidRegs,
    low32_sext64]

example (s : HostState) (regs : GuestRegisters) (hflat : s.flat = true) :
    (svIsSimpleSvmHypervisorInstalled <$>
        guestCpuid traps hvMax unloadLeaf nativeCpuid vpData cpuidHvVendorAndMaxFunctions 0).run'
      (s, regs) = some true := by
  have hsw : (cpuidSwitch hvMax unloadLeaf s.vp.guestVmcb.stateSaveArea.ssAttrib
      cpuidHvVendorAndMaxFunctions 0 (nativeCpuid cpuidHvVendorAndMaxFunctions 0)).2 = false := by
    simp only [cpuidSwitch, if_neg (by decide : cpuidHvVendorAndMaxFunctions ≠
      cpuidProcessorAndProcessorFeatureIdentifiers), if_true]
  obtain ⟨t, hrun, -⟩ := guestCpuidRegs_run traps hvMax unloadLeaf nativeCpuid vpData s regs
    cpuidHvVendorAndMaxFunctions 0 hflat hsw
  simp only [StateT.run'_eq, StateT.run_map, guestCpuid_run_of_regs _ _ _ _ _ hrun,
    Option.map_eq_map, Option.map_some']
  rw [vendor_leaf_passes_installed_check]

theorem guestCpuid_run_native (s : HostState) (regs : GuestRegisters) {leaf : BitVec 32}
    (subLeaf : BitVec 32) (hflat : s.flat = true) (hleaf : leaf ∉ answeredLeaves)
    (hunload : ¬(leaf = unloadLeaf ∧ subLeaf = unloadLeaf ∧
      segmentDpl s.vp.guestVmcb.stateSaveArea.ssAttrib = dplSystem)) :
    ∃ t, (guestCpuid traps hvMax unloadLeaf nativeCpuid vpData leaf subLeaf).run (s, regs) =
        some (nativeCpuid leaf subLeaf, t) ∧
      t.1.flat = true ∧ t.1.msrs = s.msrs ∧
      t.1.vp.guestVmcb.stateSaveArea.ssAttrib = s.vp.guestVmcb.stateSaveArea.ssAttrib := by
  obtain ⟨t, h, rest⟩ := guestCpuidRegs_run_native traps hvMax unloadLeaf nativeCpuid vpData s
    regs subLeaf hflat hleaf hunload
  exact ⟨t, guestCpuid_run_of_regs traps hvMax unloadLeaf nativeCpuid vpData h, rest⟩

end Guest

/-- A program of the guest, as far as the hypervisor can see it. -/
inductive GuestProg (α : Type)
  | pure (a : α)
  | cpuid (leaf subLeaf : BitVec 32) (k : GuestRegisters → GuestProg α)
  | rdmsr (msr : BitVec 32) (k : BitVec 64 → GuestProg α)
  | wrmsr (msr : BitVec 32) (v : BitVec 64) (k : GuestProg α)

namespace GuestProg

variable {α : Type} (nativeCpuid : BitVec 32 → BitVec 32 → CpuidRegisters)
  (widen : BitVec 32 → BitVec 64)

/-- The program on a processor whose CPUID widens by `widen`; bare metal widens by `zext64`. -/
def runNative : GuestProg α → (BitVec 32 → BitVec 64) → α × (BitVec 32 → BitVec 64)
  | .pure a, msrs => (a, msrs)
  | .cpuid leaf subLeaf k, msrs => runNative (k (cpuidRegs widen (nativeCpuid leaf subLeaf))) msrs
  | .rdmsr msr k, msrs => runNative (k (msrs msr)) msrs
  | .wrmsr msr v k, msrs => runNative k (Function.update msrs msr v)

/-- The run asks no answered leaf, no accepted unload and no intercepted MSR. -/
def transparentOn (unloadLeaf : BitVec 32) (dpl : BitVec 2) (map : Nat → Bool) :
    GuestProg α → (BitVec 32 → BitVec 64) → Bool
  | .pure _, _ => true
  | .cpuid leaf subLeaf k, msrs =>
    decide (leaf ∉ answeredLeaves ∧ ¬(leaf = unloadLeaf ∧ subLeaf = unloadLeaf ∧ dpl = dplSystem)) &&
      transparentOn unloadLeaf dpl map (k (cpuidRegs widen (nativeCpuid leaf subLeaf))) msrs
  | .rdmsr msr k, msrs =>
    !msrAccessExits map msr false && transparentOn unloadLeaf dpl map (k (msrs msr)) msrs
  | .wrmsr msr v k, msrs =>
    !msrAccessExits map msr true && transparentOn unloadLeaf dpl map k (Function.update msrs msr v)

end GuestProg

section Guest

variable (traps : Traps) (hvMax unloadLeaf : BitVec 32)
  (nativeCpuid : BitVec 32 → BitVec 32 → CpuidRegisters) (vpData : BitVec 64) (map : Nat → Bool)

/-- The program run by the guest under the hypervisor, with the MSRPM `map`. -/
def runGuest {α : Type} : GuestProg α → GuestM α
  | .pure a => pure a
  | .cpuid leaf subLeaf k =>
    guestCpuidRegs traps hvMax unloadLeaf nativeCpuid vpData leaf subLeaf >>= fun r =>
      runGuest (k r)
  | .rdmsr msr k => guestRdmsr map msr >>= fun v => runGuest (k v)
  | .wrmsr msr v k => guestWrmsr map msr v >>= fun _ => runGuest k

/-- On bare metal the same program reads 0x80000008; under the hypervisor 0xFFFFFFFF80000008. -/
example :
    let prog : GuestProg (BitVec 64) := .cpuid 0x80000000 0 fun r => .pure r.rax
    let nativeCpuid : BitVec 32 → BitVec 32 → CpuidRegisters := fun _ _ => ⟨0x80000008, 0, 0, 0⟩
    (prog.runNative nativeCpuid zext64 fun _ => 0).1 = 0x80000008 ∧
      (prog.runNative nativeCpuid sext64 fun _ => 0).1 = 0xFFFFFFFF80000008 := by
  decide

end Guest

end SvmNest
