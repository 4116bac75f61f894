import SvmNest.Cpuid

/-!
# The #VMEXIT handler

`SvPrepareForVirtualization` sets the intercepts of the guest VMCB; `SvHandleVmExit`
dispatches on the exit code, first on the flat-mode switch (no nested guest) and otherwise
on the nested switch over the 02-view VMCB, and on an accepted unload request hands the
per-processor block's address back in EDX:EAX and clears EFER.SVME.

The trap handlers of `SvmTraps` and the nested handlers are not part of the source; they
are the fields of `Traps`, free to do anything to the state they are given. The VMLOAD on
entry reloads the MSRs of `vmloadMsrs`; `HostState.msrs` is one map, and `vmload` applies that
reload where a statement spans two exits. STGI and the flag restore of the unload path touch
no modelled state.
-/

namespace SvmNest

def eferSvme : BitVec 64 := 1#64 <<< 12
def maxUint64 : BitVec 64 := BitVec.allOnes 64

/-- The three VMCBs of the inner vCPU, by physical address. -/
structure VcpuVmx where
  vmcbHost02Pa : BitVec 64 := 0
  vmcbGuest02Pa : BitVec 64 := 0
  vmcbGuest12Pa : BitVec 64 := 0
  deriving DecidableEq, Repr

/-- What a #VMEXIT handler reads and writes: the block, the inner vCPU, the VMCBs by
physical address (`UtilVaFromPa`), and the MSRs. -/
structure HostState where
  vp : VirtualProcessorData
  vcpuVmx : VcpuVmx
  vmcbAt : BitVec 64 → Vmcb
  msrs : BitVec 32 → BitVec 64

abbrev Handler := HostState → GuestContext → HostState × GuestContext

/-- The handlers `SvHandleVmExit` calls whose code is not in the source. -/
structure Traps where
  handleVmrunEx : Handler
  handleVmmcall : Handler
  handleEffer : Handler
  handleLstrRead : Handler
  handleSvmHsave : Handler
  handleCpuidForL2ToL1 : Handler
  handleMsrAccessNest : Handler
  handleVmrunExForL1ToL2 : Handler
  handleVmmcallNest : Handler
  handleBreakPointExceptionNest : Handler

/-- Handlers that leave the state and the registers as they are. -/
def Traps.idle : Traps :=
  let h : Handler := fun s ctx => (s, ctx)
  ⟨h, h, h, h, h, h, h, h, h, h⟩

/-- What `SvPrepareForVirtualization` reads from the processor; `ssAttrib` is what
`SvGetSegmentAccessRight` derives from the GDT. -/
structure PrepareInputs where
  self : BitVec 64
  sharedVpData : BitVec 64
  guestVmcbPa : BitVec 64
  hostVmcbPa : BitVec 64
  hostStateAreaPa : BitVec 64
  pml4BasePa : BitVec 64
  msrpmPa : BitVec 64
  efer : BitVec 64
  rflags : BitVec 64
  rsp : BitVec 64
  rip : BitVec 64
  ssAttrib : BitVec 16

/-- `SvPrepareForVirtualization`: the block, and the value written to VM_HSAVE_PA. -/
def svPrepareForVirtualization (inp : PrepareInputs) (vp : VirtualProcessorData) :
    VirtualProcessorData × BitVec 64 :=
  let ca := vp.guestVmcb.controlArea
  let ca := { ca with
    interceptException := ca.interceptException ||| 1#32 <<< 3
    interceptMisc1 := ca.interceptMisc1 ||| svmInterceptMisc1Cpuid ||| svmInterceptMisc1MsrProt
    interceptMisc2 := ca.interceptMisc2 ||| svmInterceptMisc2Vmrun ||| svmInterceptMisc2Vmmcall
    msrpmBasePa := inp.msrpmPa
    guestAsid := 1
    npEnable := ca.npEnable ||| svmNpEnableNpEnable
    nCr3 := inp.pml4BasePa
    lbrVirtualizationEnable := ca.lbrVirtualizationEnable ||| svmEnableNestSvm
    vIntr := ca.vIntr ||| svmEnableVirtualGif }
  let sa := { vp.guestVmcb.stateSaveArea with
    ssAttrib := inp.ssAttrib, efer := inp.efer, rflags := inp.rflags, rsp := inp.rsp,
    rip := inp.rip }
  ({ hostStackLayout := { reserved1 := maxUint64, sharedVpData := inp.sharedVpData,
                          self := inp.self, hostVmcbPa := inp.hostVmcbPa,
                          guestVmcbPa := inp.guestVmcbPa },
     nest := { vp.nest with vcpuVmx := 0, cpuMode := .protectedMode, guestMsrEfer := inp.efer,
                            guestSvmHsave12 := 0 },
     guestVmcb := ⟨ca, sa⟩ },
   inp.hostStateAreaPa)

inductive MsrCase
  | effer
  | lstrRead
  | svmHsave
  | injectGp
  deriving DecidableEq, Repr

/-- The switch of `SvHandleMsrAccess`, on the whole 64-bit guest RCX. -/
def msrAccessCase (rcx : BitVec 64) : MsrCase :=
  if rcx = zext64 ia32MsrEfer then .effer
  else if rcx = zext64 ia32MsrLstr then .lstrRead
  else if rcx = zext64 ia32MsrVmHsave then .svmHsave
  else .injectGp

def svHandleMsrAccess (traps : Traps) : Handler := fun s ctx =>
  match msrAccessCase ctx.vpRegs.rcx with
  | .effer => traps.handleEffer s ctx
  | .lstrRead => traps.handleLstrRead s ctx
  | .svmHsave => traps.handleSvmHsave s ctx
  | .injectGp => ({ s with vp := svInjectGeneralProtectionException s.vp }, ctx)

inductive FlatCase
  | cpuid
  | msr
  | vmrun
  | vmmcall
  | npf
  deriving DecidableEq, Repr

/-- The cases of the flat-mode switch; `none` is its `default`, which bugchecks. -/
def flatCase (code : BitVec 64) : Option FlatCase :=
  if code = vmexitCpuid then some .cpuid
  else if code = vmexitMsr then some .msr
  else if code = vmexitVmrun then some .vmrun
  else if code = vmexitVmmcall then some .vmmcall
  else if code = vmexitNpf then some .npf
  else none

inductive NestedCase
  | cpuid
  | msr
  | vmrun
  | vmmcall
  | exceptionBp
  deriving DecidableEq, Repr

/-- The cases of the nested-mode switch; `none` bugchecks. -/
def nestedCase (code : BitVec 64) : Option NestedCase :=
  if code = vmexitCpuid then some .cpuid
  else if code = vmexitMsr then some .msr
  else if code = vmexitVmrun then some .vmrun
  else if code = vmexitVmmcall then some .vmmcall
  else if code = vmexitExceptionBp then some .exceptionBp
  else none

section Dispatch

variable (traps : Traps) (hvMax unloadLeaf : BitVec 32)
  (nativeCpuid : BitVec 32 → BitVec 32 → CpuidRegisters)

def flatHandler : FlatCase → Handler
  | .cpuid => fun s ctx =>
      let (vp, ctx) := svHandleCpuid hvMax unloadLeaf nativeCpuid s.vp ctx
      ({ s with vp := vp }, ctx)
  | .msr => svHandleMsrAccess traps
  | .vmrun => traps.handleVmrunEx
  | .vmmcall => traps.handleVmmcall
  | .npf => fun s ctx => (s, ctx)

def nestedHandler : NestedCase → Handler
  | .cpuid => traps.handleCpuidForL2ToL1
  | .msr => traps.handleMsrAccessNest
  | .vmrun => traps.handleVmrunExForL1ToL2
  | .vmmcall => traps.handleVmmcallNest
  | .exceptionBp => traps.handleBreakPointExceptionNest

end Dispatch

/-- How `SvHandleVmExit` ends. -/
inductive VmExitOutcome
  | bugCheck
  | resume (s : HostState) (regs : GuestRegisters)
  | unload (s : HostState) (regs : GuestRegisters)

def HostState.flat (s : HostState) : Bool := s.vp.nest.cpuMode != .vmxMode

def HostState.vmcb02 (s : HostState) : Vmcb := s.vmcbAt s.vcpuVmx.vmcbGuest02Pa

/-- The MSRs VMLOAD loads: FS.base, GS.base, KernelGsBase, STAR, LSTAR, CSTAR, SFMASK, SYSENTER. -/
def vmloadMsrs : List (BitVec 32) :=
  [0xC0000100, 0xC0000101, 0xC0000102, 0xC0000081, 0xC0000082, 0xC0000083, 0xC0000084,
    0x174, 0x175, 0x176]

/-- The MSRs after a VMLOAD of a VMCB that holds `saved`. -/
def vmload (saved msrs : BitVec 32 → BitVec 64) : BitVec 32 → BitVec 64 :=
  fun msr => if msr ∈ vmloadMsrs then saved msr else msrs msr

def unloadRax (vpData : BitVec 64) : BitVec 64 := vpData &&& zext64 maxUint32

def unloadRdx (vpData : BitVec 64) : BitVec 64 := vpData >>> 32

/-- `__writemsr(IA32_MSR_EFER, __readmsr(IA32_MSR_EFER) & ~EFER_SVME)`. -/
def clearSvme (efer : BitVec 64) : BitVec 64 := efer &&& ~~~eferSvme

/-- The unload path: RBX and RCX the resume point and stack, EDX:EAX the block's address. -/
def unloadExit (vpData : BitVec 64) (s : HostState) (regs : GuestRegisters) : VmExitOutcome :=
  .unload { s with msrs := Function.update s.msrs ia32MsrEfer (clearSvme (s.msrs ia32MsrEfer)) }
    { regs with rax := unloadRax vpData, rbx := s.vp.guestVmcb.controlArea.nRip,
                rcx := s.vp.guestVmcb.stateSaveArea.rsp, rdx := unloadRdx vpData }

/-- After a handler: the unload path, or RAX written back where VMRUN reloads it from. -/
def finishExit (vpData : BitVec 64) (s : HostState) (ctx : GuestContext) : VmExitOutcome :=
  if ctx.exitVm = .exitExit then unloadExit vpData s ctx.vpRegs
  else if s.flat then
    .resume { s with vp.guestVmcb.stateSaveArea.rax := ctx.vpRegs.rax } ctx.vpRegs
  else
    let vmcb02 : Vmcb := { s.vmcb02 with stateSaveArea.rax := ctx.vpRegs.rax }
    .resume { s with vmcbAt := Function.update s.vmcbAt s.vcpuVmx.vmcbGuest02Pa vmcb02 }
      ctx.vpRegs

/-- `SvHandleVmExit` for the block at address `vpData`. -/
def svHandleVmExit (traps : Traps) (hvMax unloadLeaf : BitVec 32)
    (nativeCpuid : BitVec 32 → BitVec 32 → CpuidRegisters) (vpData : BitVec 64)
    (s : HostState) (regs : GuestRegisters) : VmExitOutcome :=
  if s.flat then
    let ctx : GuestContext := ⟨{ regs with rax := s.vp.guestVmcb.stateSaveArea.rax }, .exitNothing⟩
    match flatCase s.vp.guestVmcb.controlArea.exitCode with
    | none => .bugCheck
    | some c =>
      let (s, ctx) := flatHandler traps hvMax unloadLeaf nativeCpuid c s ctx
      finishExit vpData s ctx
  else
    let ctx : GuestContext := ⟨{ regs with rax := s.vmcb02.stateSaveArea.rax }, .exitNothing⟩
    match nestedCase s.vmcb02.controlArea.exitCode with
    | none => .bugCheck
    | some c =>
      let (s, ctx) := nestedHandler traps c s ctx
      finishExit vpData s ctx


/-- The exits the prepared VMCB enables: #BP, CPUID, MSR, VMRUN, VMMCALL and #NPF. -/
theorem exitEnabled_prepared (inp : PrepareInputs) (code : BitVec 64) :
    exitEnabled (svPrepareForVirtualization inp {}).1.guestVmcb.controlArea code = true ↔
      code = vmexitExceptionBp ∨ code = vmexitCpuid ∨ code = vmexitMsr ∨ code = vmexitVmrun ∨
        code = vmexitVmmcall ∨ code = vmexitNpf := by
  -- the bits of the four vectors the prepared VMCB sets, read off once
  have hexc : ∀ k < 32, (0#32 ||| 1#32 <<< 3).getLsbD k = decide (k = 3) := by decide
  have hmisc1 : ∀ k < 32,
      (0#32 ||| svmInterceptMisc1Cpuid ||| svmInterceptMisc1MsrProt).getLsbD k =
        decide (k = 18 ∨ k = 28) := by decide
  have hmisc2 : ∀ k < 32,
      (0#32 ||| svmInterceptMisc2Vmrun ||| svmInterceptMisc2Vmmcall).getLsbD k =
        decide (k = 0 ∨ k = 1) := by decide
  have hnp : (0#64 ||| svmNpEnableNpEnable).getLsbD 0 = true := by decide
  simp only [BitVec.toNat_eq, vmexitExceptionBp, vmexitCpuid, vmexitMsr, vmexitVmrun, vmexitVmmcall,
    vmexitNpf, BitVec.ofNat_eq_ofNat, BitVec.toNat_ofNat, Nat.reduceMod]
  unfold exitEnabled
  simp only [svPrepareForVirtualization, BitVec.ofNat_eq_ofNat, BitVec.getLsbD_zero]
  generalize code.toNat = c
  -- one case per range of the decode
  by_cases h0 : c < 0x10
  · rw [if_pos h0]; simp only [Bool.false_eq_true, false_iff]; omega
  rw [if_neg h0]
  by_cases h1 : c < 0x20
  · rw [if_pos h1]; simp only [Bool.false_eq_true, false_iff]; omega
  rw [if_neg h1]
  by_cases h2 : c < 0x30
  · rw [if_pos h2]; simp only [Bool.false_eq_true, false_iff]; omega
  rw [if_neg h2]
  by_cases h3 : c < 0x40
  · rw [if_pos h3]; simp only [Bool.false_eq_true, false_iff]; omega
  rw [if_neg h3]
  by_cases h4 : c < 0x60
  · rw [if_pos h4, hexc _ (by omega), decide_eq_true_iff]; omega
  rw [if_neg h4]
  by_cases h5 : c < 0x80
  · rw [if_pos h5, hmisc1 _ (by omega), decide_eq_true_iff]; omega
  rw [if_neg h5]
  by_cases h6 : c < 0xA0
  · rw [if_pos h6, hmisc2 _ (by omega), decide_eq_true_iff]; omega
  rw [if_neg h6]
  by_cases h7 : c = 0x400
  · rw [if_pos h7]; exact iff_of_true hnp (by omega)
  · rw [if_neg h7]; simp only [Bool.false_eq_true, false_iff]; omega

theorem flatCase_isSome_of_enabled (inp : PrepareInputs) (code : BitVec 64)
    (h : exitEnabled (svPrepareForVirtualization inp {}).1.guestVmcb.controlArea code = true)
    (hbp : code ≠ vmexitExceptionBp) : (flatCase code).isSome := by
  obtain rfl | rfl | rfl | rfl | rfl | rfl := (exitEnabled_prepared inp code).1 h
  · exact absurd rfl hbp
  all_goals decide

theorem npf_exit_has_flat_case :
    let inp : PrepareInputs := ⟨0, 0, 0, 0, 0, 0, 0, 0, 0, 0, 0, 0⟩
    (exitEnabled (svPrepareForVirtualization inp {}).1.guestVmcb.controlArea vmexitNpf = true ∧
      vmexitNpf ≠ vmexitExceptionBp) ∧ (flatCase vmexitNpf).isSome :=
  have hnpf := (exitEnabled_prepared ⟨0, 0, 0, 0, 0, 0, 0, 0, 0, 0, 0, 0⟩ vmexitNpf).2 (by simp)
  ⟨⟨hnpf, by decide⟩, flatCase_isSome_of_enabled _ vmexitNpf hnpf (by decide)⟩

theorem breakpoint_exit_bugchecks (inp : PrepareInputs) (traps : Traps) (hvMax unloadLeaf : BitVec 32)
    (nativeCpuid : BitVec 32 → BitVec 32 → CpuidRegisters) (vpData : BitVec 64)
    (vcpuVmx : VcpuVmx) (vmcbAt : BitVec 64 → Vmcb) (msrs : BitVec 32 → BitVec 64)
    (regs : GuestRegisters) :
    let vp := (svPrepareForVirtualization inp {}).1
    exitEnabled vp.guestVmcb.controlArea vmexitExceptionBp = true ∧
      svHandleVmExit traps hvMax unloadLeaf nativeCpuid vpData
        ⟨{ vp with guestVmcb.controlArea.exitCode := vmexitExceptionBp }, vcpuVmx, vmcbAt, msrs⟩
        regs = .bugCheck :=
  ⟨(exitEnabled_prepared inp _).2 (.inl rfl), rfl⟩

section CpuidExit

variable (traps : Traps) (hvMax unloadLeaf : BitVec 32)
  (nativeCpuid : BitVec 32 → BitVec 32 → CpuidRegisters) (vpData : BitVec 64)

/-- A flat-mode CPUID exit: `cpuidSwitch`'s registers widened as `int`s, and RIP at NRip. -/
theorem svHandleVmExit_cpuid (s : HostState) (regs : GuestRegisters) (hflat : s.flat = true)
    (hcode : s.vp.guestVmcb.controlArea.exitCode = vmexitCpuid) :
    let leaf := low32 s.vp.guestVmcb.stateSaveArea.rax
    let subLeaf := low32 regs.rcx
    let r := cpuidSwitch hvMax unloadLeaf s.vp.guestVmcb.stateSaveArea.ssAttrib leaf subLeaf
      (nativeCpuid leaf subLeaf)
    let regs' : GuestRegisters := { rax := sext64 r.1.eax, rbx := sext64 r.1.ebx,
                                    rcx := sext64 r.1.ecx, rdx := sext64 r.1.edx }
    let s' := { s with vp.guestVmcb.stateSaveArea.rip := s.vp.guestVmcb.controlArea.nRip }
    svHandleVmExit traps hvMax unloadLeaf nativeCpuid vpData s regs =
      if r.2 then unloadExit vpData s' regs'
      else .resume { s' with vp.guestVmcb.stateSaveArea.rax := regs'.rax } regs' := by
  simp only [svHandleVmExit, hflat, hcode, flatCase, if_true, flatHandler, svHandleCpuid,
    finishExit]
  split <;> simp_all [HostState.flat]

/-- The unload request from ring 0 leaves with the block's address in EDX:EAX, SVME clear. -/
theorem svHandleVmExit_unload (s : HostState) (regs : GuestRegisters) (hflat : s.flat = true)
    (hcode : s.vp.guestVmcb.controlArea.exitCode = vmexitCpuid)
    (hleaf : low32 s.vp.guestVmcb.stateSaveArea.rax = unloadLeaf)
    (hsub : low32 regs.rcx = unloadLeaf)
    (hcpl : segmentDpl s.vp.guestVmcb.stateSaveArea.ssAttrib = dplSystem)
    (hother : unloadLeaf ∉ [cpuidProcessorAndProcessorFeatureIdentifiers,
      cpuidHvVendorAndMaxFunctions, cpuidHvInterface]) :
    ∃ s' regs', svHandleVmExit traps hvMax unloadLeaf nativeCpuid vpData s regs =
        .unload s' regs' ∧ regs'.rax = unloadRax vpData ∧ regs'.rdx = unloadRdx vpData ∧
      s'.msrs ia32MsrEfer = clearSvme (s.msrs ia32MsrEfer) := by
  rw [svHandleVmExit_cpuid traps hvMax unloadLeaf nativeCpuid vpData s regs hflat hcode]
  simp only [List.mem_cons, List.mem_singleton, not_or] at hother
  simp only [hleaf, hsub, cpuidSwitch, hother.1, hother.2.1, hother.2.2.1,
    if_false, and_self, if_true, hcpl, decide_True, unloadExit]
  exact ⟨_, _, rfl, rfl, rfl, by simp⟩

/-- On leaf 1 the hypervisor-present bit lands in EDX, sign-extended into RDX. -/
theorem svHandleVmExit_cpuid_leaf_one (s : HostState) (regs : GuestRegisters) (hflat : s.flat = true)
    (hcode : s.vp.guestVmcb.controlArea.exitCode = vmexitCpuid)
    (hleaf : low32 s.vp.guestVmcb.stateSaveArea.rax = cpuidProcessorAndProcessorFeatureIdentifiers) :
    let native := nativeCpuid 1 (low32 regs.rcx)
    ∃ s', svHandleVmExit traps hvMax unloadLeaf nativeCpuid vpData s regs =
      .resume s' { rax := sext64 native.eax, rbx := sext64 native.ebx, rcx := sext64 native.ecx,
                   rdx := sext64 (native.edx ||| cpuidFn0000_0001EcxHypervisorPresent) } := by
  rw [svHandleVmExit_cpuid traps hvMax unloadLeaf nativeCpuid vpData s regs hflat hcode]
  simp only [hleaf, cpuidSwitch, if_true]
  exact ⟨_, rfl⟩

end CpuidExit

theorem cpuid_leaf_one_failing_input (traps : Traps) (hvMax unloadLeaf : BitVec 32)
    (vpData : BitVec 64) (s : HostState) (regs : GuestRegisters) :
    ∃ s', svHandleVmExit traps hvMax unloadLeaf (fun _ _ => ⟨0, 0, 0, 0⟩) vpData
      { s with vp.nest.cpuMode := .protectedMode, vp.guestVmcb.controlArea.exitCode := vmexitCpuid,
               vp.guestVmcb.stateSaveArea.rax := 1 } regs =
      .resume s' { rax := 0, rbx := 0, rcx := 0, rdx := 0xFFFFFFFF80000000#64 } := by
  have hzero : sext64 0 = 0 := by decide
  have hedx : sext64 (0 ||| cpuidFn0000_0001EcxHypervisorPresent) = 0xFFFFFFFF80000000#64 := by
    decide
  simpa only [hzero, hedx] using
    svHandleVmExit_cpuid_leaf_one traps hvMax unloadLeaf (fun _ _ => ⟨0, 0, 0, 0⟩) vpData
      { s with vp.nest.cpuMode := .protectedMode, vp.guestVmcb.controlArea.exitCode := vmexitCpuid,
               vp.guestVmcb.stateSaveArea.rax := 1 } regs rfl rfl
      (by decide : low32 1 = cpuidProcessorAndProcessorFeatureIdentifiers)

end SvmNest
