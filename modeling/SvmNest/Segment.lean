import Mathlib.Tactic.IntervalCases
import SvmNest.VmExit

/-!
# Segment attributes

`SvGetSegmentAccessRight` copies the attribute bit-fields of the GDT entry a selector names
into a `SEGMENT_ATTRIBUTE` whose local starts uninitialized (an argument here). The CPUID
handler reads the caller's privilege level from the SS attributes, so an unload request is
accepted exactly when the descriptor behind SS has DPL 0.

The bit positions are those of the x86 descriptor and the VMCB attribute word; the header is not
in the source. The selector is masked with `~RPL_MASK` only, so an LDT selector would be looked
up in the GDT; the kernel segments the driver captures are all GDT selectors.
-/

namespace SvmNest

/-- `RPL_MASK`: the requested-privilege-level bits of a selector. -/
def rplMask : BitVec 16 := 3

/-- A store into the bit-field at bits `lo` to `lo + w - 1` of a 16-bit word. -/
def setField16 (x : BitVec 16) (lo w : Nat) (v : BitVec w) : BitVec 16 :=
  x &&& ~~~((BitVec.allOnes w).setWidth 16 <<< lo) ||| v.setWidth 16 <<< lo

theorem getLsbD_setField16 (x : BitVec 16) (lo w : Nat) (v : BitVec w) {i : Nat} (hi : i < 16) :
    (setField16 x lo w v).getLsbD i =
      if lo ≤ i ∧ i < lo + w then v.getLsbD (i - lo) else x.getLsbD i := by
  simp only [setField16, BitVec.getLsbD_or, BitVec.getLsbD_and, BitVec.getLsbD_not,
    BitVec.getLsbD_shiftLeft, BitVec.getLsbD_setWidth, BitVec.getLsbD_allOnes, hi]
  by_cases h : lo ≤ i ∧ i < lo + w
  · simp [h, show i - lo < w by omega, show i - lo < 16 by omega, show ¬i < lo by omega]
  · rw [if_neg h]
    by_cases h' : i < lo
    · simp [h']
    · simp [h', show ¬i - lo < w by omega, BitVec.getLsbD_ge v (i - lo) (by omega)]

/-- `GdtBase + (SegmentSelector & ~RPL_MASK)`. -/
def segmentDescriptorAddress (gdtBase : BitVec 64) (segmentSelector : BitVec 16) : BitVec 64 :=
  gdtBase + (segmentSelector &&& ~~~rplMask).setWidth 64

/-- `SvGetSegmentAccessRight`; `attrib` is what the uninitialized local holds. -/
def svGetSegmentAccessRight (readDescriptor : BitVec 64 → BitVec 64) (attrib : BitVec 16)
    (segmentSelector : BitVec 16) (gdtBase : BitVec 64) : BitVec 16 :=
  let descriptor := readDescriptor (segmentDescriptorAddress gdtBase segmentSelector)
  let attrib := setField16 attrib 0 4 (descriptor.extractLsb' 40 4)   -- Type
  let attrib := setField16 attrib 4 1 (descriptor.extractLsb' 44 1)   -- System
  let attrib := setField16 attrib 5 2 (descriptor.extractLsb' 45 2)   -- Dpl
  let attrib := setField16 attrib 7 1 (descriptor.extractLsb' 47 1)   -- Present
  let attrib := setField16 attrib 8 1 (descriptor.extractLsb' 52 1)   -- Avl
  let attrib := setField16 attrib 9 1 (descriptor.extractLsb' 53 1)   -- LongMode
  let attrib := setField16 attrib 10 1 (descriptor.extractLsb' 54 1)  -- DefaultBit
  let attrib := setField16 attrib 11 1 (descriptor.extractLsb' 55 1)  -- Granularity
  setField16 attrib 12 4 0                                                -- Reserved1

/-- The stores cover all sixteen bits: descriptor bits 40-47 and 52-55, then four clear bits. -/
theorem svGetSegmentAccessRight_eq (readDescriptor : BitVec 64 → BitVec 64)
    (attrib segmentSelector : BitVec 16) (gdtBase : BitVec 64) :
    svGetSegmentAccessRight readDescriptor attrib segmentSelector gdtBase =
      0#4 ++ (readDescriptor (segmentDescriptorAddress gdtBase segmentSelector)).extractLsb' 52 4 ++
        (readDescriptor (segmentDescriptorAddress gdtBase segmentSelector)).extractLsb' 40 8 := by
  apply BitVec.eq_of_getLsbD_eq
  intro ⟨i, hi⟩
  simp only [svGetSegmentAccessRight, getLsbD_setField16 _ _ _ _ hi, BitVec.getLsbD_append,
    BitVec.getLsbD_extractLsb']
  interval_cases i <;> simp

theorem segmentDpl_svGetSegmentAccessRight (readDescriptor : BitVec 64 → BitVec 64)
    (attrib segmentSelector : BitVec 16) (gdtBase : BitVec 64) :
    segmentDpl (svGetSegmentAccessRight readDescriptor attrib segmentSelector gdtBase) =
      (readDescriptor (segmentDescriptorAddress gdtBase segmentSelector)).extractLsb' 45 2 := by
  rw [svGetSegmentAccessRight_eq]
  apply BitVec.eq_of_getLsbD_eq
  intro ⟨i, hi⟩
  simp only [segmentDpl, BitVec.getLsbD_extractLsb', BitVec.getLsbD_append]
  interval_cases i <;> simp

/-- The attribute word is the descriptor's layout whatever the local held, with its DPL. -/
theorem svGetSegmentAccessRight_layout (readDescriptor : BitVec 64 → BitVec 64)
    (attrib segmentSelector : BitVec 16) (gdtBase : BitVec 64) :
    svGetSegmentAccessRight readDescriptor attrib segmentSelector gdtBase =
        0#4 ++ (readDescriptor (segmentDescriptorAddress gdtBase segmentSelector)).extractLsb' 52 4 ++
          (readDescriptor (segmentDescriptorAddress gdtBase segmentSelector)).extractLsb' 40 8 ∧
      segmentDpl (svGetSegmentAccessRight readDescriptor attrib segmentSelector gdtBase) =
        (readDescriptor (segmentDescriptorAddress gdtBase segmentSelector)).extractLsb' 45 2 :=
  ⟨svGetSegmentAccessRight_eq readDescriptor attrib segmentSelector gdtBase,
    segmentDpl_svGetSegmentAccessRight readDescriptor attrib segmentSelector gdtBase⟩

/-- The unload request is accepted exactly when the SS descriptor's DPL is 0. -/
theorem svHandleVmExit_unloads_iff_descriptor_dpl (traps : Traps) (hvMax unloadLeaf : BitVec 32)
    (nativeCpuid : BitVec 32 → BitVec 32 → CpuidRegisters) (vpData : BitVec 64)
    (readDescriptor : BitVec 64 → BitVec 64) (attrib segmentSelector : BitVec 16)
    (gdtBase : BitVec 64) (s : HostState) (regs : GuestRegisters) (hflat : s.flat = true)
    (hcode : s.vp.guestVmcb.controlArea.exitCode = vmexitCpuid)
    (hleaf : low32 s.vp.guestVmcb.stateSaveArea.rax = unloadLeaf)
    (hsub : low32 regs.rcx = unloadLeaf)
    (hother : unloadLeaf ∉ [cpuidProcessorAndProcessorFeatureIdentifiers,
      cpuidHvVendorAndMaxFunctions, cpuidHvInterface])
    (hss : s.vp.guestVmcb.stateSaveArea.ssAttrib =
      svGetSegmentAccessRight readDescriptor attrib segmentSelector gdtBase) :
    (∃ s' regs', svHandleVmExit traps hvMax unloadLeaf nativeCpuid vpData s regs = .unload s' regs') ↔
      (readDescriptor (segmentDescriptorAddress gdtBase segmentSelector)).extractLsb' 45 2 = 0 := by
  rw [svHandleVmExit_cpuid traps hvMax unloadLeaf nativeCpuid vpData s regs hflat hcode]
  simp only [List.mem_cons, List.mem_singleton, not_or] at hother
  simp only [hleaf, hsub, cpuidSwitch, hother.1, hother.2.1, hother.2.2.1, if_false, true_and,
    if_true, hss, segmentDpl_svGetSegmentAccessRight, dplSystem]
  split
  · next h => exact iff_of_true ⟨_, _, rfl⟩ (of_decide_eq_true h)
  · next h => exact iff_of_false (fun ⟨_, _, h'⟩ => nomatch h') fun h' => h (decide_eq_true h')

/-- The kernel's flat data descriptor 0x00CF93000000FFFF has DPL 0. -/
theorem svHandleVmExit_unloads_from_kernel_stack :
    let readDescriptor : BitVec 64 → BitVec 64 := fun _ => 0x00CF93000000FFFF
    let ssAttrib := svGetSegmentAccessRight readDescriptor 0 0x18 0
    let vp := (svPrepareForVirtualization ⟨0, 0, 0, 0, 0, 0, 0, 0, 0, 0, 0, ssAttrib⟩ {}).1
    let vpExit := { vp with guestVmcb.controlArea.exitCode := vmexitCpuid }
    let s : HostState := ⟨{ vpExit with guestVmcb.stateSaveArea.rax := 0x41414141 }, {},
      fun _ => {}, fun _ => 0⟩
    let regs : GuestRegisters := { rcx := 0x41414141 }
    (s.flat = true ∧ s.vp.guestVmcb.controlArea.exitCode = vmexitCpuid ∧
      low32 s.vp.guestVmcb.stateSaveArea.rax = 0x41414141 ∧ low32 regs.rcx = 0x41414141 ∧
      (0x41414141 : BitVec 32) ∉ [cpuidProcessorAndProcessorFeatureIdentifiers,
        cpuidHvVendorAndMaxFunctions, cpuidHvInterface] ∧
      s.vp.guestVmcb.stateSaveArea.ssAttrib = svGetSegmentAccessRight readDescriptor 0 0x18 0) ∧
    ((∃ s' regs', svHandleVmExit Traps.idle 0x40000001 0x41414141 (fun _ _ => ⟨0, 0, 0, 0⟩) 0 s regs =
        .unload s' regs') ↔
      (readDescriptor (segmentDescriptorAddress 0 0x18)).extractLsb' 45 2 = 0) := by
  intro readDescriptor ssAttrib vp vpExit s regs
  exact ⟨⟨rfl, rfl, by decide, by decide, by decide, rfl⟩,
    svHandleVmExit_unloads_iff_descriptor_dpl Traps.idle 0x40000001 0x41414141 _ 0 readDescriptor 0
      0x18 0 s regs rfl rfl (by decide) (by decide) (by decide) rfl⟩

end SvmNest
