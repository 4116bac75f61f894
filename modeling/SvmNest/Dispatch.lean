import SvmNest.VmExit

/-!
# The exit dispatcher over whole runs

On each #VMEXIT the processor writes the exit into the VMCB it was running and
`SvHandleVmExit` decides; a run goes on while the guest is resumed. The processor never writes
a VMCB's intercepts, and delivers only the exits they enable.

The dispatcher writes neither the host stack layout (whose `Reserved1` sentinel it asserts) nor
the guest VMCB's configuration, so along every run both stay as `SvPrepareForVirtualization`
left them, provided the `SvmTraps` handlers, which are not in the source, leave them alone.
-/

namespace SvmNest

/-- The part of a control area the processor never writes. -/
structure InterceptConfig where
  interceptCrRead : BitVec 16
  interceptCrWrite : BitVec 16
  interceptDrRead : BitVec 16
  interceptDrWrite : BitVec 16
  interceptException : BitVec 32
  interceptMisc1 : BitVec 32
  interceptMisc2 : BitVec 32
  msrpmBasePa : BitVec 64
  guestAsid : BitVec 32
  npEnable : BitVec 64
  nCr3 : BitVec 64
  deriving DecidableEq, Repr

def ControlArea.interceptConfig (ca : ControlArea) : InterceptConfig :=
  ⟨ca.interceptCrRead, ca.interceptCrWrite, ca.interceptDrRead, ca.interceptDrWrite,
    ca.interceptException, ca.interceptMisc1, ca.interceptMisc2, ca.msrpmBasePa, ca.guestAsid,
    ca.npEnable, ca.nCr3⟩

theorem exitEnabled_congr {ca ca' : ControlArea}
    (h : ca.interceptConfig = ca'.interceptConfig) (code : BitVec 64) :
    exitEnabled ca code = exitEnabled ca' code := by
  simp only [ControlArea.interceptConfig, InterceptConfig.mk.injEq] at h
  obtain ⟨h1, h2, h3, h4, h5, h6, h7, -, -, h8, -⟩ := h
  simp only [exitEnabled, h1, h2, h3, h4, h5, h6, h7, h8]

/-- The host stack layout and the guest VMCB's configuration, kept from `s` to `s'`. -/
structure Keeps (s s' : HostState) : Prop where
  layout : s'.vp.hostStackLayout = s.vp.hostStackLayout
  config : s'.vp.guestVmcb.controlArea.interceptConfig = s.vp.guestVmcb.controlArea.interceptConfig

theorem Keeps.refl (s : HostState) : Keeps s s := ⟨rfl, rfl⟩

theorem Keeps.trans {s s' s'' : HostState} (h : Keeps s s') (h' : Keeps s' s'') : Keeps s s'' :=
  ⟨h'.layout.trans h.layout, h'.config.trans h.config⟩

def Traps.handlers (traps : Traps) : List Handler :=
  [traps.handleVmrunEx, traps.handleVmmcall, traps.handleEffer, traps.handleLstrRead,
    traps.handleSvmHsave, traps.handleCpuidForL2ToL1, traps.handleMsrAccessNest,
    traps.handleVmrunExForL1ToL2, traps.handleVmmcallNest, traps.handleBreakPointExceptionNest]

/-- Every handler of `SvmTraps` keeps the layout and the guest VMCB's configuration. -/
def Traps.Keep (traps : Traps) : Prop :=
  ∀ h ∈ traps.handlers, ∀ s ctx, Keeps s (h s ctx).1

theorem Traps.idle_keep : Traps.idle.Keep := by
  intro h hh s ctx
  simp only [Traps.handlers, Traps.idle, List.mem_cons, List.mem_singleton, or_self,
    List.not_mem_nil, or_false] at hh
  subst hh
  exact Keeps.refl s

/-- The VMCB the processor runs the guest from. `SvLaunchVm` runs the VMCB at
`HostStackLayout.GuestVmcbPa`; the model assumes the handlers keep that address on the guest
VMCB in flat mode and on the 02-view otherwise, and reads the mode instead. -/
def HostState.runningVmcb (s : HostState) : Vmcb := if s.flat then s.vp.guestVmcb else s.vmcb02

/-- The VMCB the first VMLOAD of `SvHandleVmExit` reads; `none` is a NULL `vcpu_vmx` dereference. -/
def svHandleVmExitVmloadPa (s : HostState) : Option (BitVec 64) :=
  if s.flat ∧ s.vp.nest.vcpuVmx = 0 then some s.vp.hostStackLayout.hostVmcbPa
  else if s.vp.nest.vcpuVmx = 0 then none
  else some s.vcpuVmx.vmcbHost02Pa

/-- A #VMEXIT: the VMCB the processor was running becomes `v`. -/
def recordExit (s : HostState) (v : Vmcb) : HostState :=
  if s.flat then { s with vp.guestVmcb := v }
  else { s with vmcbAt := Function.update s.vmcbAt s.vcpuVmx.vmcbGuest02Pa v }

/-- The store of `EventInj` into the VMCB at `vmcb_guest_02_pa`. -/
def injectVmcb02 (s : HostState) (event : BitVec 64) : HostState :=
  let vmcb02 : Vmcb := { s.vmcb02 with controlArea.eventInj := event }
  { s with vmcbAt := Function.update s.vmcbAt s.vcpuVmx.vmcbGuest02Pa vmcb02 }

/-- `SvInjectGeneralProtectionExceptionVmcb02`: #GP, vector 13, type 3, error code 0. -/
def svInjectGeneralProtectionExceptionVmcb02 (s : HostState) : HostState :=
  injectVmcb02 s (eventInj 13 3 true true)

/-- `SvInjectBPExceptionVmcb02`: vector 3, type 4, error-code-valid set. -/
def svInjectBPExceptionVmcb02 (s : HostState) : HostState :=
  injectVmcb02 s (eventInj 3 4 true true)

/-- An injection into the 02-view keeps the configuration, and reaches the VMCB run next only in
VMX mode. -/
theorem injectVmcb02_spec (s : HostState) (event : BitVec 64) :
    Keeps s (injectVmcb02 s event) ∧
      (injectVmcb02 s event).runningVmcb =
        if s.flat then s.vp.guestVmcb else { s.vmcb02 with controlArea.eventInj := event } := by
  refine ⟨⟨rfl, rfl⟩, ?_⟩
  simp only [HostState.runningVmcb, injectVmcb02, HostState.flat, HostState.vmcb02,
    Function.update_same]

section Step

variable {traps : Traps} (hk : traps.Keep) (hvMax unloadLeaf : BitVec 32)
  (nativeCpuid : BitVec 32 → BitVec 32 → CpuidRegisters) (vpData : BitVec 64)

/-- A resumed exit is a handler of the mode's switch followed by `finishExit`. -/
theorem svHandleVmExit_resume {s s' : HostState} {regs regs' : GuestRegisters}
    (h : svHandleVmExit traps hvMax unloadLeaf nativeCpuid vpData s regs = .resume s' regs') :
    ∃ s₁ ctx₁, finishExit vpData s₁ ctx₁ = .resume s' regs' ∧
      ((∃ c ctx, flatHandler traps hvMax unloadLeaf nativeCpuid c s ctx = (s₁, ctx₁)) ∨
        ∃ c ctx, nestedHandler traps c s ctx = (s₁, ctx₁)) := by
  unfold svHandleVmExit at h
  split at h
  · split at h
    · cases h
    · exact ⟨_, _, h, .inl ⟨_, _, rfl⟩⟩
  · split at h
    · cases h
    · exact ⟨_, _, h, .inr ⟨_, _, rfl⟩⟩

include hk in
theorem keeps_flatHandler (c : FlatCase) (s : HostState) (ctx : GuestContext) :
    Keeps s (flatHandler traps hvMax unloadLeaf nativeCpuid c s ctx).1 := by
  cases c with
  | cpuid => exact ⟨rfl, rfl⟩
  | msr =>
    simp only [flatHandler, svHandleMsrAccess]
    split
    · exact hk _ (by simp [Traps.handlers]) s ctx
    · exact hk _ (by simp [Traps.handlers]) s ctx
    · exact hk _ (by simp [Traps.handlers]) s ctx
    · exact ⟨rfl, rfl⟩
  | vmrun => exact hk traps.handleVmrunEx (by simp [Traps.handlers]) s ctx
  | vmmcall => exact hk traps.handleVmmcall (by simp [Traps.handlers]) s ctx
  | npf => exact Keeps.refl s

include hk in
theorem keeps_nestedHandler (c : NestedCase) (s : HostState) (ctx : GuestContext) :
    Keeps s (nestedHandler traps c s ctx).1 := by
  cases c <;> simp only [nestedHandler] <;> exact hk _ (by simp [Traps.handlers]) s ctx

theorem keeps_finishExit {s s' : HostState} {ctx : GuestContext} {regs' : GuestRegisters}
    (h : finishExit vpData s ctx = .resume s' regs') : Keeps s s' := by
  unfold finishExit at h
  split at h
  · simp [unloadExit] at h
  split at h <;> cases h <;> exact ⟨rfl, rfl⟩

include hk in
theorem svHandleVmExit_keeps {s s' : HostState} {regs regs' : GuestRegisters}
    (h : svHandleVmExit traps hvMax unloadLeaf nativeCpuid vpData s regs = .resume s' regs') :
    Keeps s s' := by
  obtain ⟨s₁, ctx₁, hfin, ⟨c, ctx, hc⟩ | ⟨c, ctx, hc⟩⟩ :=
    svHandleVmExit_resume hvMax unloadLeaf nativeCpuid vpData h
  · have := keeps_flatHandler hk hvMax unloadLeaf nativeCpuid c s ctx
    rw [hc] at this
    exact this.trans (keeps_finishExit vpData hfin)
  · have := keeps_nestedHandler hk c s ctx
    rw [hc] at this
    exact this.trans (keeps_finishExit vpData hfin)

theorem keeps_recordExit {s : HostState} {v : Vmcb}
    (h : v.controlArea.interceptConfig = s.runningVmcb.controlArea.interceptConfig) :
    Keeps s (recordExit s v) := by
  unfold recordExit
  split
  · next hflat => exact ⟨rfl, by rw [h, HostState.runningVmcb, if_pos hflat]⟩
  · exact ⟨rfl, rfl⟩

end Step

variable (traps : Traps) (hvMax unloadLeaf : BitVec 32)
  (nativeCpuid : BitVec 32 → BitVec 32 → CpuidRegisters) (vpData : BitVec 64)

/-- The states a processor goes through while `SvHandleVmExit` keeps resuming the guest. -/
inductive DispatchRun : HostState → HostState → Prop
  | done (s : HostState) : DispatchRun s s
  | exit {s s' t : HostState} (v : Vmcb) (regs regs' : GuestRegisters)
      (hconfig : v.controlArea.interceptConfig = s.runningVmcb.controlArea.interceptConfig)
      (henabled : exitEnabled v.controlArea v.controlArea.exitCode = true)
      (hresume : svHandleVmExit traps hvMax unloadLeaf nativeCpuid vpData (recordExit s v) regs =
        .resume s' regs')
      (rest : DispatchRun s' t) : DispatchRun s t

variable {traps hvMax unloadLeaf nativeCpuid vpData}

theorem DispatchRun.keeps (hk : traps.Keep) {s t : HostState}
    (h : DispatchRun traps hvMax unloadLeaf nativeCpuid vpData s t) : Keeps s t := by
  induction h with
  | done s => exact Keeps.refl s
  | exit v regs regs' hconfig _ hresume _ ih =>
    exact ((keeps_recordExit hconfig).trans
      (svHandleVmExit_keeps hk hvMax unloadLeaf nativeCpuid vpData hresume)).trans ih

/-- Along every run from a prepared block, the layout and sentinel stay, the enabled exits stay
those `SvPrepareForVirtualization` chose, and the flat-mode VMLOAD reads the saved host VMCB. -/
theorem dispatchRun_keeps_prepared (hk : traps.Keep) (inp : PrepareInputs) {s t : HostState}
    (hs : s.vp = (svPrepareForVirtualization inp {}).1)
    (h : DispatchRun traps hvMax unloadLeaf nativeCpuid vpData s t) :
    t.vp.hostStackLayout = s.vp.hostStackLayout ∧ t.vp.hostStackLayout.reserved1 = maxUint64 ∧
      (∀ code, exitEnabled t.vp.guestVmcb.controlArea code = true ↔
        code = vmexitExceptionBp ∨ code = vmexitCpuid ∨ code = vmexitMsr ∨ code = vmexitVmrun ∨
          code = vmexitVmmcall ∨ code = vmexitNpf) ∧
      (t.flat = true → t.vp.nest.vcpuVmx = 0 → svHandleVmExitVmloadPa t = some inp.hostVmcbPa) := by
  have hkeep := h.keeps hk
  refine ⟨hkeep.layout, by rw [hkeep.layout, hs]; rfl, fun code => ?_, fun hflat hv => ?_⟩
  · rw [exitEnabled_congr hkeep.config, hs]
    exact exitEnabled_prepared inp code
  · rw [svHandleVmExitVmloadPa, if_pos ⟨hflat, hv⟩, hkeep.layout, hs]
    rfl

theorem dispatchRun_keeps_prepared_after_cpuid_exit :
    let inp : PrepareInputs := ⟨0, 0, 0, 0, 0, 0, 0, 0, 0, 0, 0, 0⟩
    let s : HostState := ⟨(svPrepareForVirtualization inp {}).1, {}, fun _ => {}, fun _ => 0⟩
    let v : Vmcb := { s.vp.guestVmcb with controlArea.exitCode := vmexitCpuid }
    let nativeCpuid : BitVec 32 → BitVec 32 → CpuidRegisters := fun _ _ => ⟨0, 0, 0, 0⟩
    let t := recordExit s v
    (Traps.idle.Keep ∧ s.vp = (svPrepareForVirtualization inp {}).1 ∧
      DispatchRun Traps.idle 0x40000001 0x41414141 nativeCpuid 0 s t) ∧
    t.vp.hostStackLayout = s.vp.hostStackLayout ∧ t.vp.hostStackLayout.reserved1 = maxUint64 ∧
      (∀ code, exitEnabled t.vp.guestVmcb.controlArea code = true ↔
        code = vmexitExceptionBp ∨ code = vmexitCpuid ∨ code = vmexitMsr ∨ code = vmexitVmrun ∨
          code = vmexitVmmcall ∨ code = vmexitNpf) ∧
      (t.flat = true → t.vp.nest.vcpuVmx = 0 → svHandleVmExitVmloadPa t = some inp.hostVmcbPa) := by
  intro inp s v nativeCpuid t
  have hrun : DispatchRun Traps.idle 0x40000001 0x41414141 nativeCpuid 0 s t :=
    .exit v {} {} rfl (by decide) rfl (.done _)
  exact ⟨⟨Traps.idle_keep, rfl, hrun⟩, dispatchRun_keeps_prepared Traps.idle_keep inp rfl hrun⟩

end SvmNest
