import SvmNest.Word

/-!
# The nested page tables

`SvBuildNestedPageTables` fills the zero-filled `SHARED_VIRTUAL_PROCESSOR_DATA`: one PML4
entry pointing at the page directory pointer table, 512 PDPT entries each pointing at a page
directory, and 512 × 512 two-megabyte leaves whose frame numbers count up from zero.

The processor's nested walk is modelled at the physical-address level: it reads the PML4
entry from the page at nCR3, and each later table from the page the previous entry's frame
number names. Physical addresses come from `MmGetPhysicalAddress`; where the tables sit is
a parameter, with the page alignment and 52-bit width every physical address of a page has.
-/

namespace SvmNest

/-- The fields of `PML4_ENTRY_2MB`, `PDP_ENTRY_2MB` and `PD_ENTRY_2MB` that are written or walked. -/
structure PageEntry where
  valid : Bool := false
  write : Bool := false
  user : Bool := false
  largePage : Bool := false
  pageFrameNumber : Nat := 0
  deriving DecidableEq, Repr

/-- `Pml4Entries` (a whole page), `PdpEntries` and `PdeEntries`. -/
structure NestedPageTables where
  pml4Entries : Nat → PageEntry := fun _ => {}
  pdpEntries : Nat → PageEntry := fun _ => {}
  pdeEntries : Nat → Nat → PageEntry := fun _ _ => {}

def pageShift : Nat := 12

def pml4Entry (pdpBasePa : Nat) (e : PageEntry) : PageEntry :=
  { e with pageFrameNumber := (pdpBasePa >>> pageShift) % 2 ^ 40, valid := true, write := true,
           user := true }

def pdpEntry (pdeBasePa : Nat) (e : PageEntry) : PageEntry :=
  { e with pageFrameNumber := (pdeBasePa >>> pageShift) % 2 ^ 40, valid := true, write := true,
           user := true }

/-- PD entry `(i, j)`: the 2 MiB frame `i * 512 + j`, valid, writable, user, large. -/
def pdEntry (i j : Nat) (e : PageEntry) : PageEntry :=
  { e with pageFrameNumber := (i * 512 + j) % 2 ^ 31, valid := true, write := true, user := true,
           largePage := true }

def pdeLoop (i : Nat) : Nat → NestedPageTables → NestedPageTables
  | 0, t => t
  | j + 1, t =>
    let t := pdeLoop i j t
    let row := Function.update (t.pdeEntries i) j (pdEntry i j (t.pdeEntries i j))
    { t with pdeEntries := Function.update t.pdeEntries i row }

/-- The outer loop; `pdeBasePa i` is the physical address of `PdeEntries[i]`. -/
def pdpLoop (pdeBasePa : Nat → Nat) : Nat → NestedPageTables → NestedPageTables
  | 0, t => t
  | i + 1, t =>
    let t := pdpLoop pdeBasePa i t
    let entry := pdpEntry (pdeBasePa i) (t.pdpEntries i)
    pdeLoop i 512 { t with pdpEntries := Function.update t.pdpEntries i entry }

/-- `SvBuildNestedPageTables`, given the physical addresses of its tables. -/
def svBuildNestedPageTables (pdpBasePa : Nat) (pdeBasePa : Nat → Nat) (t : NestedPageTables) :
    NestedPageTables :=
  pdpLoop pdeBasePa 512
    { t with pml4Entries := Function.update t.pml4Entries 0 (pml4Entry pdpBasePa (t.pml4Entries 0)) }

@[simp] theorem pdeLoop_pml4Entries (i n : Nat) (t : NestedPageTables) :
    (pdeLoop i n t).pml4Entries = t.pml4Entries := by
  induction n <;> simp [pdeLoop, *]

@[simp] theorem pdeLoop_pdpEntries (i n : Nat) (t : NestedPageTables) :
    (pdeLoop i n t).pdpEntries = t.pdpEntries := by
  induction n <;> simp [pdeLoop, *]

theorem pdeLoop_pdeEntries (i n : Nat) (t : NestedPageTables) (a b : Nat) :
    (pdeLoop i n t).pdeEntries a b =
      if a = i ∧ b < n then pdEntry i b (t.pdeEntries i b) else t.pdeEntries a b := by
  induction n with
  | zero => simp [pdeLoop]
  | succ n ih =>
    simp only [pdeLoop, Function.update_apply]
    by_cases ha : a = i
    · subst ha
      by_cases hb : b = n
      · subst hb
        simp [ih]
      · by_cases hbn : b < n
        · simp [hb, hbn, ih, show b < n + 1 by omega]
        · simp [hb, hbn, ih, show ¬b < n + 1 by omega]
    · simp [ha, ih]

@[simp] theorem pdpLoop_pml4Entries (f : Nat → Nat) (n : Nat) (t : NestedPageTables) :
    (pdpLoop f n t).pml4Entries = t.pml4Entries := by
  induction n <;> simp [pdpLoop, *]

theorem pdpLoop_pdpEntries (f : Nat → Nat) (n : Nat) (t : NestedPageTables) (a : Nat) :
    (pdpLoop f n t).pdpEntries a =
      if a < n then pdpEntry (f a) (t.pdpEntries a) else t.pdpEntries a := by
  induction n with
  | zero => simp [pdpLoop]
  | succ n ih =>
    simp only [pdpLoop, pdeLoop_pdpEntries, Function.update_apply]
    by_cases ha : a = n
    · subst ha
      simp [ih]
    · by_cases hlt : a < n
      · simp [ha, hlt, ih, show a < n + 1 by omega]
      · simp [ha, hlt, ih, show ¬a < n + 1 by omega]

theorem pdpLoop_pdeEntries (f : Nat → Nat) (n : Nat) (t : NestedPageTables) (a b : Nat) :
    (pdpLoop f n t).pdeEntries a b =
      if a < n ∧ b < 512 then pdEntry a b (t.pdeEntries a b) else t.pdeEntries a b := by
  induction n with
  | zero => simp [pdpLoop]
  | succ n ih =>
    simp only [pdpLoop, pdeLoop_pdeEntries]
    by_cases ha : a = n
    · subst ha
      by_cases hb : b < 512 <;> simp [hb, ih]
    · by_cases hlt : a < n
      · simp [ha, hlt, ih, show a < n + 1 by omega]
      · simp [ha, hlt, ih, show ¬a < n + 1 by omega]

section Built

variable (pdpBasePa : Nat) (pdeBasePa : Nat → Nat)

theorem built_pml4Entries (k : Nat) :
    (svBuildNestedPageTables pdpBasePa pdeBasePa {}).pml4Entries k =
      if k = 0 then pml4Entry pdpBasePa {} else {} := by
  rw [svBuildNestedPageTables, pdpLoop_pml4Entries]
  exact Function.update_apply _ _ _ _

theorem built_pdpEntries (i : Nat) (hi : i < 512) :
    (svBuildNestedPageTables pdpBasePa pdeBasePa {}).pdpEntries i = pdpEntry (pdeBasePa i) {} := by
  rw [svBuildNestedPageTables, pdpLoop_pdpEntries, if_pos hi]

theorem built_pdeEntries (i j : Nat) (hi : i < 512) (hj : j < 512) :
    (svBuildNestedPageTables pdpBasePa pdeBasePa {}).pdeEntries i j = pdEntry i j {} := by
  rw [svBuildNestedPageTables, pdpLoop_pdeEntries, if_pos ⟨hi, hj⟩]

end Built

/-- Physical memory as the walk reads it: the 512 entries of the page at an address. -/
abbrev PhysMem := Nat → Nat → PageEntry

def pml4Index (g : BitVec 64) : Nat := g.toNat / 2 ^ 39 % 512
def pdptIndex (g : BitVec 64) : Nat := g.toNat / 2 ^ 30 % 512
def pdIndex (g : BitVec 64) : Nat := g.toNat / 2 ^ 21 % 512

/-- The 48 walked bits are the PML4 index above the low 39 bits. -/
theorem walkedBits_eq (g : BitVec 64) :
    g.toNat % 2 ^ 48 = g.toNat % 2 ^ 39 + 2 ^ 39 * pml4Index g := by
  rw [show 2 ^ 48 = 2 ^ 39 * 512 from rfl, Nat.mod_mul, pml4Index]

/-- The leaf frame of `g` with its 2 MiB offset spells out the low 39 bits of `g`. -/
theorem leafFrame_add_offset (g : BitVec 64) :
    (pdptIndex g * 512 + pdIndex g) % 2 ^ 31 * 2 ^ 21 + g.toNat % 2 ^ 21 = g.toNat % 2 ^ 39 := by
  have hi : pdptIndex g < 512 := Nat.mod_lt _ (by decide)
  have hj : pdIndex g < 512 := Nat.mod_lt _ (by decide)
  rw [Nat.mod_eq_of_lt (by omega)]
  have h39 : g.toNat % 2 ^ 39 = g.toNat % 2 ^ 30 + 2 ^ 30 * pdptIndex g := by
    rw [show 2 ^ 39 = 2 ^ 30 * 512 from rfl, Nat.mod_mul, pdptIndex]
  have h30 : g.toNat % 2 ^ 30 = g.toNat % 2 ^ 21 + 2 ^ 21 * pdIndex g := by
    rw [show 2 ^ 30 = 2 ^ 21 * 512 from rfl, Nat.mod_mul, pdIndex]
  rw [h39, h30]
  omega

/-- The three entries a walk of `g` reads. -/
structure WalkPath where
  pml4e : PageEntry
  pdpte : PageEntry
  pde : PageEntry

def nestedWalk (mem : PhysMem) (nCr3 : Nat) (g : BitVec 64) : WalkPath :=
  let pml4e := mem nCr3 (pml4Index g)
  let pdpte := mem (pml4e.pageFrameNumber <<< pageShift) (pdptIndex g)
  let pde := mem (pdpte.pageFrameNumber <<< pageShift) (pdIndex g)
  ⟨pml4e, pdpte, pde⟩

def WalkPath.present (p : WalkPath) : Bool :=
  p.pml4e.valid && p.pdpte.valid && !p.pdpte.largePage && p.pde.valid && p.pde.largePage

def WalkPath.permissive (p : WalkPath) : Bool :=
  p.pml4e.write && p.pml4e.user && p.pdpte.write && p.pdpte.user && p.pde.write && p.pde.user

def WalkPath.translate (p : WalkPath) (g : BitVec 64) : Nat :=
  (p.pde.pageFrameNumber <<< 21) + g.toNat % 2 ^ 21

/-- Where the tables sit: 4 KiB-aligned physical addresses of at most 52 bits. -/
structure TablePlacement where
  pml4Pa : Nat
  pdpPa : Nat
  pdePa : Nat → Nat
  pdp_aligned : pdpPa % 4096 = 0
  pdp_lt : pdpPa < 2 ^ 52
  pde_aligned : ∀ i, i < 512 → pdePa i % 4096 = 0
  pde_lt : ∀ i, i < 512 → pdePa i < 2 ^ 52

/-- Physical memory holds the tables where the placement puts them. -/
def Holds (mem : PhysMem) (lay : TablePlacement) (t : NestedPageTables) : Prop :=
  mem lay.pml4Pa = t.pml4Entries ∧ mem lay.pdpPa = t.pdpEntries ∧
    ∀ i, i < 512 → mem (lay.pdePa i) = t.pdeEntries i

/-- A frame number written from a page-aligned 52-bit address names that page again. -/
theorem frame_of_aligned (pa : Nat) (h : pa % 4096 = 0) (hlt : pa < 2 ^ 52) :
    ((pa >>> pageShift) % 2 ^ 40) <<< pageShift = pa := by
  simp only [pageShift, Nat.shiftRight_eq_div_pow, Nat.shiftLeft_eq]
  omega

section Walk

variable (lay : TablePlacement) (mem : PhysMem)
  (hmem : Holds mem lay (svBuildNestedPageTables lay.pdpPa lay.pdePa {}))

include hmem in
theorem nestedWalk_pml4e (g : BitVec 64) :
    (nestedWalk mem lay.pml4Pa g).pml4e = if pml4Index g = 0 then pml4Entry lay.pdpPa {} else {} := by
  simp only [nestedWalk, hmem.1, built_pml4Entries]

include hmem in
/-- Below 512 GiB of the walked bits, the path is the one the loops built. -/
theorem nestedWalk_path (g : BitVec 64) (h0 : pml4Index g = 0) :
    nestedWalk mem lay.pml4Pa g =
      ⟨pml4Entry lay.pdpPa {}, pdpEntry (lay.pdePa (pdptIndex g)) {},
        pdEntry (pdptIndex g) (pdIndex g) {}⟩ := by
  have hi : pdptIndex g < 512 := Nat.mod_lt _ (by decide)
  have hj : pdIndex g < 512 := Nat.mod_lt _ (by decide)
  have hpdp : (pml4Entry lay.pdpPa {}).pageFrameNumber <<< pageShift = lay.pdpPa :=
    frame_of_aligned _ lay.pdp_aligned lay.pdp_lt
  have hpde : (pdpEntry (lay.pdePa (pdptIndex g)) {}).pageFrameNumber <<< pageShift =
      lay.pdePa (pdptIndex g) :=
    frame_of_aligned _ (lay.pde_aligned _ hi) (lay.pde_lt _ hi)
  simp only [nestedWalk, hmem.1, built_pml4Entries, h0, if_true, hpdp, hmem.2.1,
    built_pdpEntries _ _ _ hi, hpde, hmem.2.2 _ hi, built_pdeEntries _ _ _ _ hi hj]

include hmem in
/-- Over the built tables, a leaf is present exactly below 512 GiB of the 48 walked bits,
permissive and translating to the same address. -/
theorem nestedWalk_built (g : BitVec 64) :
    let p : WalkPath := nestedWalk mem lay.pml4Pa g
    (p.present = true ↔ g.toNat % 2 ^ 48 < 2 ^ 39) ∧
      (p.present = true → p.permissive = true ∧ p.translate g = g.toNat % 2 ^ 48) := by
  have hbits := walkedBits_eq g
  have hlow := Nat.mod_lt g.toNat (show 2 ^ 39 > 0 by decide)
  by_cases h0 : pml4Index g = 0
  · rw [nestedWalk_path lay mem hmem g h0, hbits, h0, Nat.mul_zero, Nat.add_zero]
    refine ⟨iff_of_true rfl hlow, fun _ => ⟨rfl, ?_⟩⟩
    rw [WalkPath.translate, Nat.shiftLeft_eq]
    exact leafFrame_add_offset g
  · have hpml4e := nestedWalk_pml4e lay mem hmem g
    simp only [h0, if_false] at hpml4e
    simp [WalkPath.present, hpml4e]
    omega

end Walk

/-- The PML4 page at 1 MiB, the PDPT on the next page, the 512 directories after it. -/
def examplePlacement : TablePlacement where
  pml4Pa := 0x100000
  pdpPa := 0x101000
  pdePa i := 0x102000 + 0x1000 * i
  pdp_aligned := by decide
  pdp_lt := by decide
  pde_aligned _ _ := by dsimp only; omega
  pde_lt _ hi := by dsimp only; omega

def exampleMemory (t : NestedPageTables) : PhysMem := fun pa =>
  if pa = 0x100000 then t.pml4Entries
  else if pa = 0x101000 then t.pdpEntries
  else t.pdeEntries ((pa - 0x102000) / 0x1000)

theorem exampleMemory_holds (t : NestedPageTables) :
    Holds (exampleMemory t) examplePlacement t := by
  refine ⟨rfl, rfl, fun i _ => ?_⟩
  show (if 0x102000 + 0x1000 * i = 0x100000 then _
    else if 0x102000 + 0x1000 * i = 0x101000 then _ else _) = _
  rw [if_neg (by omega), if_neg (by omega),
    show (examplePlacement.pdePa i - 0x102000) / 0x1000 = i from by dsimp only [examplePlacement]; omega]

def exampleTables : NestedPageTables :=
  svBuildNestedPageTables examplePlacement.pdpPa examplePlacement.pdePa {}

theorem nestedWalk_built_at_two_mib :
    Holds (exampleMemory exampleTables) examplePlacement exampleTables ∧
      let p : WalkPath := nestedWalk (exampleMemory exampleTables) examplePlacement.pml4Pa 0x200000
      (p.present = true ↔ (0x200000 : BitVec 64).toNat % 2 ^ 48 < 2 ^ 39) ∧
        (p.present = true →
          p.permissive = true ∧ p.translate 0x200000 = (0x200000 : BitVec 64).toNat % 2 ^ 48) :=
  ⟨exampleMemory_holds _, nestedWalk_built examplePlacement (exampleMemory exampleTables)
    (exampleMemory_holds _) 0x200000⟩

/-- Bits 63-48 are not walked: 2^48 reaches the leaf of address 0. -/
theorem nestedWalk_present_at_256_tib :
    let g : BitVec 64 := 0x1000000000000
    let p := nestedWalk (exampleMemory exampleTables) examplePlacement.pml4Pa g
    p.present = true ∧ ¬g.toNat < 2 ^ 39 ∧ p.translate g = 0 := by
  intro g p
  have hpath := nestedWalk_path examplePlacement (exampleMemory exampleTables)
    (exampleMemory_holds _) g (by decide)
  simp only [p, hpath]
  decide

end SvmNest
