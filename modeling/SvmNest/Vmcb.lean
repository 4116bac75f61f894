import SvmNest.Word

/-!
# The VMCB and the per-processor records a #VMEXIT reads

The field names are those of `SvmStruct.h`, which is not part of the source; widths and
bit positions follow the AMD64 VMCB layout. A field whose default is `0` is what the
zero-filled allocation of `SvAllocatePageAlingedPhysicalMemory` leaves there, so `{}` is
a freshly allocated record. Only fields that a modelled function reads or writes are kept.
-/

namespace SvmNest

structure ControlArea where
  interceptCrRead : BitVec 16 := 0
  interceptCrWrite : BitVec 16 := 0
  interceptDrRead : BitVec 16 := 0
  interceptDrWrite : BitVec 16 := 0
  interceptException : BitVec 32 := 0
  interceptMisc1 : BitVec 32 := 0
  interceptMisc2 : BitVec 32 := 0
  msrpmBasePa : BitVec 64 := 0
  guestAsid : BitVec 32 := 0
  vIntr : BitVec 64 := 0
  exitCode : BitVec 64 := 0
  exitInfo1 : BitVec 64 := 0
  exitInfo2 : BitVec 64 := 0
  exitIntInfo : BitVec 64 := 0
  npEnable : BitVec 64 := 0
  eventInj : BitVec 64 := 0
  nCr3 : BitVec 64 := 0
  lbrVirtualizationEnable : BitVec 64 := 0
  nRip : BitVec 64 := 0
  deriving DecidableEq, Repr

structure StateSaveArea where
  ssAttrib : BitVec 16 := 0
  cpl : BitVec 8 := 0
  efer : BitVec 64 := 0
  rflags : BitVec 64 := 0
  rip : BitVec 64 := 0
  rsp : BitVec 64 := 0
  rax : BitVec 64 := 0
  lStar : BitVec 64 := 0
  deriving DecidableEq, Repr

structure Vmcb where
  controlArea : ControlArea := {}
  stateSaveArea : StateSaveArea := {}
  deriving DecidableEq, Repr

def vmexitExceptionBp : BitVec 64 := 0x43
def vmexitCpuid : BitVec 64 := 0x72
def vmexitMsr : BitVec 64 := 0x7C
def vmexitVmrun : BitVec 64 := 0x80
def vmexitVmmcall : BitVec 64 := 0x81
def vmexitNpf : BitVec 64 := 0x400

def svmInterceptMisc1Cpuid : BitVec 32 := 1#32 <<< 18
def svmInterceptMisc1MsrProt : BitVec 32 := 1#32 <<< 28
def svmInterceptMisc2Vmrun : BitVec 32 := 1#32 <<< 0
def svmInterceptMisc2Vmmcall : BitVec 32 := 1#32 <<< 1
def svmNpEnableNpEnable : BitVec 64 := 1#64 <<< 0
/-- Virtualized VMSAVE/VMLOAD, bit 1 of the VMCB's LBR virtualization field. -/
def svmEnableNestSvm : BitVec 64 := 1#64 <<< 1
/-- V_GIF enable, bit 25 of the VMCB's virtual interrupt field. -/
def svmEnableVirtualGif : BitVec 64 := 1#64 <<< 25

/-- The exits a guest can cause: bit `n` of an intercept vector enables exit code `base + n`,
and nested paging the nested page fault. -/
def exitEnabled (ca : ControlArea) (code : BitVec 64) : Bool :=
  let c := code.toNat
  if c < 0x10 then ca.interceptCrRead.getLsbD c
  else if c < 0x20 then ca.interceptCrWrite.getLsbD (c - 0x10)
  else if c < 0x30 then ca.interceptDrRead.getLsbD (c - 0x20)
  else if c < 0x40 then ca.interceptDrWrite.getLsbD (c - 0x30)
  else if c < 0x60 then ca.interceptException.getLsbD (c - 0x40)
  else if c < 0x80 then ca.interceptMisc1.getLsbD (c - 0x60)
  else if c < 0xA0 then ca.interceptMisc2.getLsbD (c - 0x80)
  else if c = 0x400 then ca.npEnable.getLsbD 0
  else false

def ia32MsrEfer : BitVec 32 := 0xC0000080
def ia32MsrLstr : BitVec 32 := 0xC0000082
def ia32MsrVmHsave : BitVec 32 := 0xC0010117

/-- The registers `SvLaunchVm` saves on a #VMEXIT that a modelled handler touches. -/
structure GuestRegisters where
  rax : BitVec 64 := 0
  rbx : BitVec 64 := 0
  rcx : BitVec 64 := 0
  rdx : BitVec 64 := 0
  deriving DecidableEq, Repr

inductive ExitReason
  | exitNothing
  | exitExit
  deriving DecidableEq, Repr

structure GuestContext where
  vpRegs : GuestRegisters
  exitVm : ExitReason
  deriving DecidableEq, Repr

inductive CpuMode
  | protectedMode
  | vmxMode
  deriving DecidableEq, Repr

structure ProcessorNestData where
  cpuMode : CpuMode := .protectedMode
  vcpuVmx : BitVec 64 := 0
  guestMsrEfer : BitVec 64 := 0
  guestSvmHsave12 : BitVec 64 := 0
  deriving DecidableEq, Repr

structure HostStackLayout where
  reserved1 : BitVec 64 := 0
  sharedVpData : BitVec 64 := 0
  self : BitVec 64 := 0
  hostVmcbPa : BitVec 64 := 0
  guestVmcbPa : BitVec 64 := 0
  deriving DecidableEq, Repr

/-- `VIRTUAL_PROCESSOR_DATA`, with the page `pProcessNestData` points to inlined. -/
structure VirtualProcessorData where
  hostStackLayout : HostStackLayout := {}
  nest : ProcessorNestData := {}
  guestVmcb : Vmcb := {}
  deriving DecidableEq, Repr

/-- `SEGMENT_ATTRIBUTE.Fields.Dpl`: bits 5 and 6 of the attribute word. -/
def segmentDpl (attrib : BitVec 16) : BitVec 2 := attrib.extractLsb' 5 2

def dplSystem : BitVec 2 := 0

/-- `EVENTINJ`: vector in bits 0-7, type in 8-10, error-code-valid in 11, valid in 31. -/
def eventInj (vector : BitVec 8) (type : BitVec 3) (errorCodeValid valid : Bool) : BitVec 64 :=
  vector.setWidth 64 ||| type.setWidth 64 <<< 8 |||
    (if errorCodeValid then 1#64 <<< 11 else 0) ||| (if valid then 1#64 <<< 31 else 0)

/-- `SvInjectGeneralProtectionException`: #GP, vector 13, type 3, error code 0. -/
def svInjectGeneralProtectionException (vp : VirtualProcessorData) : VirtualProcessorData :=
  { vp with guestVmcb.controlArea.eventInj := eventInj 13 3 true true }

end SvmNest
