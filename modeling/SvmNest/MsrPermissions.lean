import SvmNest.VmExit

/-!
# The MSR permissions map

`SvBuildMsrPermissionsMap` clears the map through an `RTL_BITMAP` header and sets the
write bit of EFER and both bits of LSTAR and VM_HSAVE_PA. The processor reads the map
with two bits per MSR in three ranges; an access outside them always exits. The exit
then reaches `SvHandleMsrAccess`, whose switch compares the guest's whole RCX, while the
processor chose the MSR by ECX alone.
-/

namespace SvmNest

/-- `SVM_MSR_PERMISSIONS_MAP_SIZE`, from a header not in the source: the spec's 8 KiB. -/
def svmMsrPermissionsMapSize : Nat := 0x2000

/-- `RTL_BITMAP` over a buffer; bits at or past `sizeOfBitMap` are memory past its end. -/
structure RtlBitmap where
  sizeOfBitMap : Nat
  buffer : Nat → Bool

def rtlInitializeBitMap (buffer : Nat → Bool) (sizeOfBitMap : Nat) : RtlBitmap :=
  ⟨sizeOfBitMap, buffer⟩

def rtlClearAllBits (h : RtlBitmap) : RtlBitmap :=
  { h with buffer := fun i => if i < h.sizeOfBitMap then false else h.buffer i }

/-- `RtlSetBits`; a range that does not fit the bitmap writes out of bounds, `none`. -/
def rtlSetBits (h : RtlBitmap) (start count : Nat) : Option RtlBitmap :=
  if start + count ≤ h.sizeOfBitMap then
    some { h with buffer := fun i => if start ≤ i ∧ i < start + count then true else h.buffer i }
  else none

theorem rtlSetBits_of_le (h : RtlBitmap) (start count : Nat)
    (hle : start + count ≤ h.sizeOfBitMap) :
    rtlSetBits h start count = some
      { h with buffer := fun i => if start ≤ i ∧ i < start + count then true else h.buffer i } :=
  if_pos hle

def bitsPerMsr : BitVec 32 := 2
def secondMsrRangeBase : BitVec 32 := 0xC0000000
def thirdMsrRangeBase : BitVec 32 := 0xC0010000
def secondMsrpmOffset : BitVec 32 := 0x800 * 8
def thirdMsrpmOffset : BitVec 32 := 0x1000 * 8

/-- `(Msr - Base) * BITS_PER_MSR` plus the range's offset, in `ULONG` arithmetic. -/
def msrpmOffset (msrpmBase rangeBase msr : BitVec 32) : Nat :=
  (msrpmBase + (msr - rangeBase) * bitsPerMsr).toNat

/-- `SvBuildMsrPermissionsMap` on the map's initial content. -/
def svBuildMsrPermissionsMap (msrPermissionsMap : Nat → Bool) : Option (Nat → Bool) := do
  let h := rtlClearAllBits (rtlInitializeBitMap msrPermissionsMap (svmMsrPermissionsMapSize * 8))
  let offset := msrpmOffset secondMsrpmOffset secondMsrRangeBase ia32MsrEfer
  let h ← rtlSetBits h (offset + 1) 1
  let offset := msrpmOffset secondMsrpmOffset secondMsrRangeBase ia32MsrLstr
  let h ← rtlSetBits h offset 1
  let h ← rtlSetBits h (offset + 1) 1
  let offset := msrpmOffset thirdMsrpmOffset thirdMsrRangeBase ia32MsrVmHsave
  let h ← rtlSetBits h offset 1
  let h ← rtlSetBits h (offset + 1) 1
  pure h.buffer

/-- The bits `SvBuildMsrPermissionsMap` leaves set inside the map. -/
def interceptedBits : List Nat := [16641, 16644, 16645, 33326, 33327]

/-- The build succeeds, sets exactly the five bits, and leaves the memory past the map. -/
theorem svBuildMsrPermissionsMap_eq (msrPermissionsMap : Nat → Bool) :
    svBuildMsrPermissionsMap msrPermissionsMap = some fun i =>
      if i < svmMsrPermissionsMapSize * 8 then decide (i ∈ interceptedBits)
      else msrPermissionsMap i := by
  have efer : msrpmOffset secondMsrpmOffset secondMsrRangeBase ia32MsrEfer = 16640 := by decide
  have lstr : msrpmOffset secondMsrpmOffset secondMsrRangeBase ia32MsrLstr = 16644 := by decide
  have hsave : msrpmOffset thirdMsrpmOffset thirdMsrRangeBase ia32MsrVmHsave = 33326 := by decide
  simp only [svBuildMsrPermissionsMap, efer, lstr, hsave, rtlInitializeBitMap, rtlClearAllBits,
    svmMsrPermissionsMapSize, Option.bind_eq_bind, Option.pure_def]
  rw [rtlSetBits_of_le _ _ _ (by simp), Option.some_bind, rtlSetBits_of_le _ _ _ (by simp),
    Option.some_bind, rtlSetBits_of_le _ _ _ (by simp), Option.some_bind,
    rtlSetBits_of_le _ _ _ (by simp), Option.some_bind, rtlSetBits_of_le _ _ _ (by simp),
    Option.some_bind]
  congr 1
  funext i
  simp only [interceptedBits, List.mem_cons, List.mem_nil_iff, or_false]
  by_cases hi : i = 16641 ∨ i = 16644 ∨ i = 16645 ∨ i = 33326 ∨ i = 33327
  · rcases hi with rfl | rfl | rfl | rfl | rfl <;> rfl
  · rw [if_neg (by omega), if_neg (by omega), if_neg (by omega), if_neg (by omega),
      if_neg (by omega), decide_eq_false hi]

/-- The bit the processor reads for an access of the MSR in ECX; `none` outside the ranges. -/
def msrpmBit (ecx : BitVec 32) (write : Bool) : Option Nat :=
  let m := ecx.toNat
  let rw := if write then 1 else 0
  if m ≤ 0x1FFF then some (0x000 * 8 + m * 2 + rw)
  else if 0xC0000000 ≤ m ∧ m ≤ 0xC0001FFF then some (0x800 * 8 + (m - 0xC0000000) * 2 + rw)
  else if 0xC0010000 ≤ m ∧ m ≤ 0xC0011FFF then some (0x1000 * 8 + (m - 0xC0010000) * 2 + rw)
  else none

/-- Whether an access exits: the consulted bit is set, or the MSR is outside the ranges. -/
def msrAccessExits (map : Nat → Bool) (ecx : BitVec 32) (write : Bool) : Bool :=
  match msrpmBit ecx write with
  | some i => map i
  | none => true

/-- The accesses the built map intercepts: EFER writes, LSTAR and VM_HSAVE_PA. -/
def Intercepted (ecx : BitVec 32) (write : Bool) : Prop :=
  (ecx = ia32MsrEfer ∧ write = true) ∨ ecx = ia32MsrLstr ∨ ecx = ia32MsrVmHsave

theorem msrpmBit_eq_some {ecx : BitVec 32} {write : Bool} {i : Nat}
    (h : msrpmBit ecx write = some i) :
    let rw := if write then 1 else 0
    (ecx.toNat ≤ 0x1FFF ∧ i = 0x000 * 8 + ecx.toNat * 2 + rw) ∨
    (0xC0000000 ≤ ecx.toNat ∧ ecx.toNat ≤ 0xC0001FFF ∧
      i = 0x800 * 8 + (ecx.toNat - 0xC0000000) * 2 + rw) ∨
    (0xC0010000 ≤ ecx.toNat ∧ ecx.toNat ≤ 0xC0011FFF ∧
      i = 0x1000 * 8 + (ecx.toNat - 0xC0010000) * 2 + rw) := by
  unfold msrpmBit at h
  by_cases h1 : ecx.toNat ≤ 0x1FFF
  · rw [if_pos h1, Option.some.injEq] at h; exact .inl ⟨h1, h.symm⟩
  rw [if_neg h1] at h
  by_cases h2 : 0xC0000000 ≤ ecx.toNat ∧ ecx.toNat ≤ 0xC0001FFF
  · rw [if_pos h2, Option.some.injEq] at h; exact .inr (.inl ⟨h2.1, h2.2, h.symm⟩)
  rw [if_neg h2] at h
  by_cases h3 : 0xC0010000 ≤ ecx.toNat ∧ ecx.toNat ≤ 0xC0011FFF
  · rw [if_pos h3, Option.some.injEq] at h; exact .inr (.inr ⟨h3.1, h3.2, h.symm⟩)
  rw [if_neg h3] at h
  cases h

theorem msrpmBit_lt (ecx : BitVec 32) (write : Bool) (i : Nat) (h : msrpmBit ecx write = some i) :
    i < svmMsrPermissionsMapSize * 8 := by
  have := msrpmBit_eq_some h
  simp only [svmMsrPermissionsMapSize]
  split at this <;> omega

theorem mem_interceptedBits_iff (ecx : BitVec 32) (write : Bool) (i : Nat)
    (h : msrpmBit ecx write = some i) : i ∈ interceptedBits ↔ Intercepted ecx write := by
  simp only [interceptedBits, Intercepted, ia32MsrEfer, ia32MsrLstr, ia32MsrVmHsave,
    BitVec.toNat_eq, BitVec.ofNat_eq_ofNat, BitVec.toNat_ofNat, Nat.reduceMod, List.mem_cons,
    List.mem_nil_iff, or_false]
  rcases msrpmBit_eq_some h with ⟨h1, rfl⟩ | ⟨h1, h2, rfl⟩ | ⟨h1, h2, rfl⟩ <;> cases write <;>
    simp only [if_true, Bool.false_eq_true, if_false, and_false, false_or, and_true] <;> omega

/-- In the three ranges, an access exits under the built map exactly when it is intercepted. -/
theorem msrAccessExits_built (msrPermissionsMap : Nat → Bool) (ecx : BitVec 32) (write : Bool)
    (i : Nat) (h : msrpmBit ecx write = some i) :
    ∃ map, svBuildMsrPermissionsMap msrPermissionsMap = some map ∧
      (msrAccessExits map ecx write = true ↔ Intercepted ecx write) := by
  refine ⟨_, svBuildMsrPermissionsMap_eq msrPermissionsMap, ?_⟩
  simp only [msrAccessExits, h, if_pos (msrpmBit_lt ecx write i h), decide_eq_true_eq]
  exact mem_interceptedBits_iff ecx write i h

theorem msrAccessCase_ne_injectGp_of_intercepted (rcx : BitVec 64) (write : Bool)
    (hhigh : rcx = zext64 (low32 rcx)) (h : Intercepted (low32 rcx) write) :
    msrAccessCase rcx ≠ .injectGp := by
  rw [hhigh]
  rcases h with ⟨h, -⟩ | h | h <;> rw [h] <;> decide

/-- Under the built map, with the upper half of RCX clear, an access that exits reaches the #GP
branch of `SvHandleMsrAccess` exactly when its MSR is outside the three MSRPM ranges. -/
theorem msrAccessCase_injectGp_iff_out_of_range {buf map : Nat → Bool}
    (hmap : svBuildMsrPermissionsMap buf = some map) (rcx : BitVec 64) (write : Bool)
    (hhigh : rcx = zext64 (low32 rcx)) (hexit : msrAccessExits map (low32 rcx) write = true) :
    msrAccessCase rcx = .injectGp ↔ msrpmBit (low32 rcx) write = none := by
  rcases e : msrpmBit (low32 rcx) write with - | i
  · -- EFER, LSTAR and VM_HSAVE_PA all lie in the ranges
    have out : ∀ msr, msrpmBit msr write ≠ none → low32 rcx ≠ msr := fun msr h he => h (he ▸ e)
    rw [hhigh]
    simp only [msrAccessCase, zext64_injective.eq_iff, iff_true,
      if_neg (out ia32MsrEfer (by cases write <;> decide)),
      if_neg (out ia32MsrLstr (by cases write <;> decide)),
      if_neg (out ia32MsrVmHsave (by cases write <;> decide))]
  · obtain ⟨map', hmap', hiff⟩ := msrAccessExits_built buf _ write i e
    rw [hmap, Option.some.injEq] at hmap'
    subst hmap'
    exact iff_of_false (msrAccessCase_ne_injectGp_of_intercepted rcx write hhigh (hiff.1 hexit))
      nofun

theorem lstar_read_reaches_handler :
    let rcx : BitVec 64 := 0xC0000082
    let map : Nat → Bool := fun i =>
      if i < svmMsrPermissionsMapSize * 8 then decide (i ∈ interceptedBits) else false
    (svBuildMsrPermissionsMap (fun _ => false) = some map ∧ rcx = zext64 (low32 rcx) ∧
      msrAccessExits map (low32 rcx) false = true) ∧
    (msrAccessCase rcx = .injectGp ↔ msrpmBit (low32 rcx) false = none) :=
  ⟨⟨svBuildMsrPermissionsMap_eq _, by decide, by decide⟩,
    msrAccessCase_injectGp_iff_out_of_range (svBuildMsrPermissionsMap_eq fun _ => false) _ false
      (by decide) (by decide)⟩

/-- A WRMSR of EFER with bit 32 of RCX set exits, and `SvHandleMsrAccess` injects #GP. -/
theorem efer_write_with_upper_rcx_bits_injects_gp (msrPermissionsMap : Nat → Bool)
    (traps : Traps) (s : HostState) (regs : GuestRegisters) (exitVm : ExitReason) :
    let rcx : BitVec 64 := 0x1C0000080
    ∃ map, svBuildMsrPermissionsMap msrPermissionsMap = some map ∧
      low32 rcx = ia32MsrEfer ∧ msrAccessExits map (low32 rcx) true = true ∧
      svHandleMsrAccess traps s ⟨{ regs with rcx := rcx }, exitVm⟩ =
        ({ s with vp := svInjectGeneralProtectionException s.vp }, ⟨{ regs with rcx := rcx }, exitVm⟩) := by
  have hcase : msrAccessCase 0x1C0000080 = .injectGp := by decide
  refine ⟨_, svBuildMsrPermissionsMap_eq msrPermissionsMap, by decide, ?_, ?_⟩
  · obtain ⟨map, hmap, hexit⟩ := msrAccessExits_built msrPermissionsMap (low32 0x1C0000080) true
      16641 (by decide)
    rw [svBuildMsrPermissionsMap_eq, Option.some.injEq] at hmap
    exact hmap ▸ hexit.2 (.inl ⟨by decide, rfl⟩)
  · simp only [svHandleMsrAccess, hcase]

end SvmNest
