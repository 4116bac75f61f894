import SvmNest.Vmcb

/-!
# CPUID interception

`SvHandleCpuid` runs CPUID natively for the guest's EAX and ECX into `int registers[4]`,
patches the result for a few leaves, and assigns each `int` to a 64-bit guest register.
`SvIsSimpleSvmHypervisorInstalled` reads the vendor leaf back and compares its twelve
bytes, as a C string, with the signature.

`CPUID_HV_MAX` and `CPUID_UNLOAD_SIMPLE_SVM` come from a header that is not part of the
source, so they are parameters here; the other leaves are the ones the source names.
-/

namespace SvmNest

/-- `int registers[4]` as `__cpuidex` fills it: EAX, EBX, ECX, EDX. -/
structure CpuidRegisters where
  eax : BitVec 32
  ebx : BitVec 32
  ecx : BitVec 32
  edx : BitVec 32
  deriving DecidableEq, Repr

def cpuidProcessorAndProcessorFeatureIdentifiers : BitVec 32 := 0x00000001
def cpuidHvVendorAndMaxFunctions : BitVec 32 := 0x40000000
def cpuidHvInterface : BitVec 32 := 0x40000001
/-- Bit 31 of CPUID Fn0000_0001 ECX, reserved for a hypervisor to announce itself. -/
def cpuidFn0000_0001EcxHypervisorPresent : BitVec 32 := 1#32 <<< 31

/-- MSVC's value of a multi-character literal: the first character is the top byte. -/
def multiChar (a b c d : Char) : BitVec 32 :=
  BitVec.ofNat 32 (((a.toNat * 256 + b.toNat) * 256 + c.toNat) * 256 + d.toNat)

/-- The switch of `SvHandleCpuid`: the registers, and whether it accepts an unload request. -/
def cpuidSwitch (hvMax unloadLeaf : BitVec 32) (ssAttrib : BitVec 16)
    (leaf subLeaf : BitVec 32) (r : CpuidRegisters) : CpuidRegisters × Bool :=
  if leaf = cpuidProcessorAndProcessorFeatureIdentifiers then
    ({ r with edx := r.edx ||| cpuidFn0000_0001EcxHypervisorPresent }, false)
  else if leaf = cpuidHvVendorAndMaxFunctions then
    (⟨hvMax, multiChar 'N' 'm' 'v' 'S', multiChar ' ' 't' 's' 'e',
      multiChar ' ' ' ' ' ' ' '⟩, false)
  else if leaf = cpuidHvInterface then
    (⟨multiChar '0' '#' 'v' 'H', 0, 0, 0⟩, false)
  else if leaf = unloadLeaf ∧ subLeaf = unloadLeaf then
    (r, segmentDpl ssAttrib = dplSystem)
  else (r, false)

/-- `SvHandleCpuid`. `nativeCpuid leaf subLeaf` is what `__cpuidex` returns on the host. -/
def svHandleCpuid (hvMax unloadLeaf : BitVec 32)
    (nativeCpuid : BitVec 32 → BitVec 32 → CpuidRegisters)
    (vp : VirtualProcessorData) (ctx : GuestContext) : VirtualProcessorData × GuestContext :=
  let leaf := low32 ctx.vpRegs.rax
  let subLeaf := low32 ctx.vpRegs.rcx
  let (registers, unload) := cpuidSwitch hvMax unloadLeaf vp.guestVmcb.stateSaveArea.ssAttrib
    leaf subLeaf (nativeCpuid leaf subLeaf)
  ({ vp with guestVmcb.stateSaveArea.rip := vp.guestVmcb.controlArea.nRip },
   { vpRegs := { ctx.vpRegs with rax := sext64 registers.eax, rbx := sext64 registers.ebx,
                                 rcx := sext64 registers.ecx, rdx := sext64 registers.edx },
     exitVm := if unload then .exitExit else ctx.exitVm })

/-- The four bytes of a register as `RtlCopyMemory` copies them, lowest first. -/
def littleEndianBytes (x : BitVec 32) : List (BitVec 8) :=
  [x.extractLsb' 0 8, x.extractLsb' 8 8, x.extractLsb' 16 8, x.extractLsb' 24 8]

def simpleSvmSignature : List (BitVec 8) :=
  "SvmNest     ".toList.map (fun c => BitVec.ofNat 8 c.toNat)

/-- `SvIsSimpleSvmHypervisorInstalled` on leaf 0x40000000, compared as `strcmp` does. -/
def svIsSimpleSvmHypervisorInstalled (r : CpuidRegisters) : Bool :=
  (littleEndianBytes r.ebx ++ littleEndianBytes r.ecx ++ littleEndianBytes r.edx).takeWhile
    (· ≠ 0) = simpleSvmSignature

/-- The vendor leaf the handler returns is the signature the installation test expects. -/
theorem vendor_leaf_passes_installed_check (hvMax unloadLeaf : BitVec 32) (ssAttrib : BitVec 16)
    (subLeaf : BitVec 32) (r : CpuidRegisters) :
    svIsSimpleSvmHypervisorInstalled
      (cpuidSwitch hvMax unloadLeaf ssAttrib cpuidHvVendorAndMaxFunctions subLeaf r).1 := by
  simp only [cpuidSwitch, if_neg (by decide : cpuidHvVendorAndMaxFunctions ≠
    cpuidProcessorAndProcessorFeatureIdentifiers), if_true, svIsSimpleSvmHypervisorInstalled]
  decide

end SvmNest
