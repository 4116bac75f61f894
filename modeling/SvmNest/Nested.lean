import SvmNest.VmExit

/-!
# Nested-mode helpers

`HandleMsrReadAndWrite` emulates the RDMSR or WRMSR of the nested guest through a
`LARGE_INTEGER`, whose `LowPart` is unsigned and `HighPart` signed; which one the exit was
is read from the 02-view VMCB's ExitInfo1. `SaveGuestVmcb12FromGuestVmcb02` copies the state
of a nested exit from the 02-view into L1's 12-view and points the 02-view back at L1.

The VMCBs `UtilVaFromPa` reaches are whole page-aligned blocks by physical address, none of
them the outer guest VMCB, so two views are one block exactly when their addresses are equal.
-/

namespace SvmNest

/-- `LARGE_INTEGER.LowPart`, a `DWORD`. -/
def lowPart (q : BitVec 64) : BitVec 32 := q.extractLsb' 0 32

/-- `LARGE_INTEGER.HighPart`, a `LONG`. -/
def highPart (q : BitVec 64) : BitVec 32 := q.extractLsb' 32 32

def quadPart (low high : BitVec 32) : BitVec 64 := high ++ low

theorem toNat_quadPart (low high : BitVec 32) :
    (quadPart low high).toNat = high.toNat * 2 ^ 32 + low.toNat := by
  rw [quadPart, BitVec.toNat_append, Nat.shiftLeft_eq, Nat.mul_comm,
    ← Nat.mul_add_lt_is_or low.isLt]

@[simp] theorem lowPart_quadPart (low high : BitVec 32) : lowPart (quadPart low high) = low := by
  apply BitVec.eq_of_toNat_eq
  have := low.isLt
  simp only [lowPart, BitVec.extractLsb'_toNat, toNat_quadPart]
  omega

@[simp] theorem highPart_quadPart (low high : BitVec 32) : highPart (quadPart low high) = high := by
  apply BitVec.eq_of_toNat_eq
  have := low.isLt
  simp only [highPart, BitVec.extractLsb'_toNat, toNat_quadPart, Nat.shiftRight_eq_div_pow]
  omega

theorem toNat_highPart (q : BitVec 64) : (highPart q).toNat = q.toNat / 2 ^ 32 := by
  have := q.isLt
  simp only [highPart, BitVec.extractLsb'_toNat]
  omega

/-- `HandleMsrReadAndWrite`; `UtilReadMsr64` and `UtilWriteMsr64` pass on only ECX. -/
def handleMsrReadAndWrite (s : HostState) (ctx : GuestContext) : HostState × GuestContext :=
  let msrNum := low32 ctx.vpRegs.rcx
  if s.vmcb02.controlArea.exitInfo1 = 0 then
    let msrValue := s.msrs msrNum
    (s, { ctx with vpRegs := { ctx.vpRegs with rax := zext64 (lowPart msrValue),
                                               rdx := sext64 (highPart msrValue) } })
  else
    let msrValue := quadPart (low32 ctx.vpRegs.rax) (low32 ctx.vpRegs.rdx)
    ({ s with msrs := Function.update s.msrs msrNum msrValue }, ctx)

section MsrEmulation

variable (s : HostState) (ctx : GuestContext)

/-- RDMSR: RAX gets the low half zero-extended, RDX the high half sign-extended. -/
theorem handleMsrReadAndWrite_read (h : s.vmcb02.controlArea.exitInfo1 = 0) :
    ((handleMsrReadAndWrite s ctx).2.vpRegs.rax).toNat =
        (s.msrs (low32 ctx.vpRegs.rcx)).toNat % 2 ^ 32 ∧
      ((handleMsrReadAndWrite s ctx).2.vpRegs.rdx).toNat =
        if (s.msrs (low32 ctx.vpRegs.rcx)).toNat < 2 ^ 63
        then (s.msrs (low32 ctx.vpRegs.rcx)).toNat / 2 ^ 32
        else (s.msrs (low32 ctx.vpRegs.rcx)).toNat / 2 ^ 32 + 0xFFFFFFFF00000000 := by
  simp only [handleMsrReadAndWrite, h, if_true, toNat_zext64, lowPart, BitVec.extractLsb'_toNat]
  generalize s.msrs (low32 ctx.vpRegs.rcx) = v
  have hv := v.isLt
  refine ⟨by simp, ?_⟩
  split_ifs
  · rw [toNat_sext64_of_lt _ (by rw [toNat_highPart]; omega), toNat_highPart]
  · rw [toNat_sext64_of_ge _ (by rw [toNat_highPart]; omega), toNat_highPart]

example : (handleMsrReadAndWrite ⟨{}, {}, fun _ => {}, fun _ => 0x8000000000000001⟩
    ⟨{ rcx := 0xC0000082 }, .exitNothing⟩).2.vpRegs.rdx = 0xFFFFFFFF80000000 := by
  decide

/-- WRMSR: the MSR in ECX gets EDX:EAX. -/
theorem handleMsrReadAndWrite_write (h : s.vmcb02.controlArea.exitInfo1 ≠ 0) :
    ((handleMsrReadAndWrite s ctx).1.msrs (low32 ctx.vpRegs.rcx)).toNat =
      ctx.vpRegs.rdx.toNat % 2 ^ 32 * 2 ^ 32 + ctx.vpRegs.rax.toNat % 2 ^ 32 := by
  simp only [handleMsrReadAndWrite, h, if_false, Function.update_same, toNat_quadPart, toNat_low32]

end MsrEmulation

/-- An RDMSR of LSTAR holding 0xFFFFF80000000000 returns RDX = 0xFFFFFFFFFFFFF800. -/
theorem handleMsrReadAndWrite_lstar_read (s : HostState) (ctx : GuestContext) :
    let vmcb02 : Vmcb := { s.vmcb02 with controlArea.exitInfo1 := 0 }
    let s' := { s with msrs := Function.update s.msrs ia32MsrLstr 0xFFFFF80000000000,
                       vmcbAt := Function.update s.vmcbAt s.vcpuVmx.vmcbGuest02Pa vmcb02 }
    let r := (handleMsrReadAndWrite s' ⟨{ ctx.vpRegs with rcx := 0xC0000082 }, ctx.exitVm⟩).2.vpRegs
    r.rax = 0 ∧ r.rdx = 0xFFFFFFFFFFFFF800#64 := by
  simp only [handleMsrReadAndWrite, HostState.vmcb02, Function.update_same, if_true,
    Function.update_apply, if_pos (show low32 0xC0000082 = ia32MsrLstr by decide)]
  decide

/-- `SaveGuestVmcb12FromGuestVmcb02`; every field of the 02-view is read before it is written. -/
def saveGuestVmcb12FromGuestVmcb02 (s : HostState) (ctx : GuestContext) :
    HostState × GuestContext :=
  let pa02 := s.vcpuVmx.vmcbGuest02Pa
  let pa12 := s.vcpuVmx.vmcbGuest12Pa
  let v02 := s.vmcbAt pa02
  let v12 := s.vmcbAt pa12
  let v12 : Vmcb :=
    { controlArea := { v12.controlArea with
        nRip := v02.controlArea.nRip, exitCode := v02.controlArea.exitCode,
        exitInfo1 := v02.controlArea.exitInfo1, exitInfo2 := v02.controlArea.exitInfo2,
        exitIntInfo := v02.controlArea.exitIntInfo, eventInj := v02.controlArea.eventInj }
      stateSaveArea := { v12.stateSaveArea with
        rax := ctx.vpRegs.rax, rsp := v02.stateSaveArea.rsp, rflags := v02.stateSaveArea.rflags,
        rip := v02.stateSaveArea.rip, cpl := v02.stateSaveArea.cpl,
        lStar := v02.stateSaveArea.lStar } }
  let vmcbAt := Function.update s.vmcbAt pa12 v12
  let v02 := vmcbAt pa02
  let v02 : Vmcb :=
    { v02 with stateSaveArea := { v02.stateSaveArea with
        rsp := s.vp.guestVmcb.stateSaveArea.rsp, rip := s.vp.guestVmcb.controlArea.nRip,
        rflags := s.vp.guestVmcb.stateSaveArea.rflags } }
  ({ s with vmcbAt := Function.update vmcbAt pa02 v02 },
   { ctx with vpRegs := { ctx.vpRegs with rax := pa12 } })

/-- What the merge leaves in `r`: the written fields of the two views and of RAX, and
everything else as in `s` and `ctx`. -/
structure MergeEffect (s : HostState) (ctx : GuestContext) (r : HostState × GuestContext) :
    Prop where
  view12 :
    let v02 := s.vmcbAt s.vcpuVmx.vmcbGuest02Pa
    let v12 := s.vmcbAt s.vcpuVmx.vmcbGuest12Pa
    r.1.vmcbAt s.vcpuVmx.vmcbGuest12Pa =
      { controlArea := { v12.controlArea with
          nRip := v02.controlArea.nRip, exitCode := v02.controlArea.exitCode,
          exitInfo1 := v02.controlArea.exitInfo1, exitInfo2 := v02.controlArea.exitInfo2,
          exitIntInfo := v02.controlArea.exitIntInfo, eventInj := v02.controlArea.eventInj }
        stateSaveArea := { v12.stateSaveArea with
          rax := ctx.vpRegs.rax, rsp := v02.stateSaveArea.rsp,
          rflags := v02.stateSaveArea.rflags, rip := v02.stateSaveArea.rip,
          cpl := v02.stateSaveArea.cpl, lStar := v02.stateSaveArea.lStar } }
  view02 :
    let v02 := s.vmcbAt s.vcpuVmx.vmcbGuest02Pa
    r.1.vmcbAt s.vcpuVmx.vmcbGuest02Pa =
      { v02 with stateSaveArea := { v02.stateSaveArea with
          rsp := s.vp.guestVmcb.stateSaveArea.rsp, rip := s.vp.guestVmcb.controlArea.nRip,
          rflags := s.vp.guestVmcb.stateSaveArea.rflags } }
  others : ∀ pa, pa ≠ s.vcpuVmx.vmcbGuest02Pa → pa ≠ s.vcpuVmx.vmcbGuest12Pa →
    r.1.vmcbAt pa = s.vmcbAt pa
  vp : r.1.vp = s.vp
  vcpuVmx : r.1.vcpuVmx = s.vcpuVmx
  msrs : r.1.msrs = s.msrs
  regs : r.2 = { ctx with vpRegs := { ctx.vpRegs with rax := s.vcpuVmx.vmcbGuest12Pa } }

/-- With the two views at different addresses, the merge has exactly the effect `MergeEffect`. -/
theorem saveGuestVmcb12FromGuestVmcb02_effect (s : HostState) (ctx : GuestContext)
    (hne : s.vcpuVmx.vmcbGuest02Pa ≠ s.vcpuVmx.vmcbGuest12Pa) :
    MergeEffect s ctx (saveGuestVmcb12FromGuestVmcb02 s ctx) where
  view12 := by
    simp only [saveGuestVmcb12FromGuestVmcb02, Function.update_noteq (Ne.symm hne),
      Function.update_same]
  view02 := by
    simp only [saveGuestVmcb12FromGuestVmcb02, Function.update_same, Function.update_noteq hne]
  others pa h02 h12 := by
    simp only [saveGuestVmcb12FromGuestVmcb02, Function.update_noteq h02, Function.update_noteq h12]
  vp := rfl
  vcpuVmx := rfl
  msrs := rfl
  regs := rfl

/-- A nested exit with the 02-view at 0x1000 and the 12-view at 0x2000. -/
theorem saveGuestVmcb12FromGuestVmcb02_effect_at_distinct_views :
    let s : HostState := ⟨{}, ⟨0x3000, 0x1000, 0x2000⟩, fun _ => {}, fun _ => 0⟩
    let ctx : GuestContext := ⟨{ rax := 0x1234 }, .exitNothing⟩
    s.vcpuVmx.vmcbGuest02Pa ≠ s.vcpuVmx.vmcbGuest12Pa ∧
      MergeEffect s ctx (saveGuestVmcb12FromGuestVmcb02 s ctx) :=
  ⟨by decide, saveGuestVmcb12FromGuestVmcb02_effect _ _ (by decide)⟩

end SvmNest
