import SvmNest.VmExit

/-!
# The machine the lifecycle runs on

The lifecycle allocates and frees four kinds of blocks and writes EFER and VM_HSAVE_PA on each
processor. The machine keeps each processor's hypervisor block and two MSRs, the live blocks
with the pointers read back, the allocator's stream, and whether a free hit a dead address.

The platform is what the driver observes: the processor count, one fixed
`KeGetProcessorNumberFromIndex` status per index, `SvIsSvmSupported` and the host state area of
a block. The n-th allocation returns the n-th address of the stream; null or a live address is
a failure. The event list is ghost state recording launches, unloads and failures.
-/

namespace SvmNest

/-- What the driver observes of the system and does not decide. -/
structure Platform where
  /-- `KeQueryActiveProcessorCountEx(ALL_PROCESSOR_GROUPS)`. -/
  numOfProcessors : Nat
  /-- The status of `KeGetProcessorNumberFromIndex` for each index. -/
  processorNumberStatus : Nat → NTSTATUS
  /-- `SvIsSvmSupported`. -/
  svmSupported : Bool
  /-- `MmGetPhysicalAddress(&VpData->HostStateArea)` for the block at each address. -/
  hostStateAreaPa : BitVec 64 → BitVec 64

/-- A live allocation, with the pointer fields the lifecycle reads back. -/
inductive Block where
  /-- `VIRTUAL_PROCESSOR_DATA`: `HostStackLayout.pProcessNestData` and `.SharedVpData`. -/
  | virtualProcessorData (pProcessNestData sharedVpData : BitVec 64)
  /-- The `ProcessorNestData` page. -/
  | processorNestData
  /-- `SHARED_VIRTUAL_PROCESSOR_DATA`: its `MsrPermissionsMap`. -/
  | sharedVirtualProcessorData (msrPermissionsMap : BitVec 64)
  /-- The MSR permissions map, from `SvAllocateContiguousMemory`. -/
  | msrPermissions
  deriving DecidableEq, Repr

namespace Block

/-- `HostStackLayout.pProcessNestData`; a block of another kind reads as null. -/
def pProcessNestData : Block → BitVec 64
  | virtualProcessorData n _ => n
  | _ => 0

/-- `HostStackLayout.SharedVpData`. -/
def sharedVpData : Block → BitVec 64
  | virtualProcessorData _ s => s
  | _ => 0

/-- `SHARED_VIRTUAL_PROCESSOR_DATA.MsrPermissionsMap`. -/
def msrPermissionsMap : Block → BitVec 64
  | sharedVirtualProcessorData p => p
  | _ => 0

end Block

/-- One processor: the `VIRTUAL_PROCESSOR_DATA` running on it, EFER and VM_HSAVE_PA. -/
structure Processor where
  hypervisor : Option (BitVec 64) := none
  efer : BitVec 64 := 0
  vmHsavePa : BitVec 64 := 0
  deriving DecidableEq, Repr

/-- What happened on a processor. -/
inductive Event where
  | launched (i : Nat)
  | unloaded (i : Nat)
  | virtualizeFailed (i : Nat)
  deriving DecidableEq, Repr

structure Machine where
  processors : Nat → Processor
  heap : BitVec 64 → Option Block
  /-- The address the n-th allocation of the run returns. -/
  allocations : Nat → BitVec 64
  allocCount : Nat
  invalidFree : Bool
  events : List Event

namespace Machine

/-- The machine at driver load: nothing allocated, nothing recorded. -/
def init (processors : Nat → Processor) (allocations : Nat → BitVec 64) : Machine :=
  { processors := processors, heap := fun _ => none, allocations := allocations, allocCount := 0,
    invalidFree := false, events := [] }

variable (m : Machine)

/-- `SvAllocatePageAlingedPhysicalMemory` and `SvAllocateContiguousMemory`: the next address. -/
def allocate (b : Block) : BitVec 64 × Machine :=
  let a := m.allocations m.allocCount
  if a ≠ 0 ∧ m.heap a = none then
    (a, { m with heap := Function.update m.heap a (some b), allocCount := m.allocCount + 1 })
  else (0, { m with allocCount := m.allocCount + 1 })

/-- `SvFreePageAlingedPhysicalMemory` and `SvFreeContiguousMemory`. -/
def free (a : BitVec 64) : Machine :=
  if (m.heap a).isSome then { m with heap := Function.update m.heap a none }
  else { m with invalidFree := true }

/-- A write of a live block's pointer fields. -/
def store (a : BitVec 64) (b : Block) : Machine :=
  { m with heap := Function.update m.heap a (some b) }

/-- A read of a pointer field; an address that is not live reads as null. -/
def read (a : BitVec 64) (field : Block → BitVec 64) : BitVec 64 :=
  ((m.heap a).map field).getD 0

def setProcessor (i : Nat) (p : Processor) : Machine :=
  { m with processors := Function.update m.processors i p }

def record (e : Event) : Machine := { m with events := m.events ++ [e] }

variable {m} (b : Block) (a : BitVec 64) (i : Nat) (p : Processor) (e : Event)

@[simp] theorem allocate_processors : (m.allocate b).2.processors = m.processors := by
  dsimp only [allocate]; split <;> rfl

@[simp] theorem allocate_allocations : (m.allocate b).2.allocations = m.allocations := by
  dsimp only [allocate]; split <;> rfl

@[simp] theorem allocate_allocCount : (m.allocate b).2.allocCount = m.allocCount + 1 := by
  dsimp only [allocate]; split <;> rfl

@[simp] theorem allocate_invalidFree : (m.allocate b).2.invalidFree = m.invalidFree := by
  dsimp only [allocate]; split <;> rfl

@[simp] theorem allocate_events : (m.allocate b).2.events = m.events := by
  dsimp only [allocate]; split <;> rfl

@[simp] theorem free_processors : (m.free a).processors = m.processors := by
  unfold free; split <;> rfl

@[simp] theorem free_allocations : (m.free a).allocations = m.allocations := by
  unfold free; split <;> rfl

@[simp] theorem free_allocCount : (m.free a).allocCount = m.allocCount := by
  unfold free; split <;> rfl

@[simp] theorem free_events : (m.free a).events = m.events := by
  unfold free; split <;> rfl

@[simp] theorem store_processors : (m.store a b).processors = m.processors := rfl
@[simp] theorem store_heap : (m.store a b).heap = Function.update m.heap a (some b) := rfl
@[simp] theorem store_allocations : (m.store a b).allocations = m.allocations := rfl
@[simp] theorem store_allocCount : (m.store a b).allocCount = m.allocCount := rfl
@[simp] theorem store_invalidFree : (m.store a b).invalidFree = m.invalidFree := rfl
@[simp] theorem store_events : (m.store a b).events = m.events := rfl

@[simp] theorem setProcessor_processors :
    (m.setProcessor i p).processors = Function.update m.processors i p := rfl
@[simp] theorem setProcessor_heap : (m.setProcessor i p).heap = m.heap := rfl
@[simp] theorem setProcessor_allocations : (m.setProcessor i p).allocations = m.allocations := rfl
@[simp] theorem setProcessor_allocCount : (m.setProcessor i p).allocCount = m.allocCount := rfl
@[simp] theorem setProcessor_invalidFree : (m.setProcessor i p).invalidFree = m.invalidFree := rfl
@[simp] theorem setProcessor_events : (m.setProcessor i p).events = m.events := rfl

@[simp] theorem record_processors : (m.record e).processors = m.processors := rfl
@[simp] theorem record_heap : (m.record e).heap = m.heap := rfl
@[simp] theorem record_allocations : (m.record e).allocations = m.allocations := rfl
@[simp] theorem record_allocCount : (m.record e).allocCount = m.allocCount := rfl
@[simp] theorem record_invalidFree : (m.record e).invalidFree = m.invalidFree := rfl
@[simp] theorem record_events : (m.record e).events = m.events ++ [e] := rfl

/-- An allocation fails and leaves the heap, or makes a fresh non-null address live. -/
theorem allocate_spec :
    ((m.allocate b).1 = 0 ∧ (m.allocate b).2.heap = m.heap) ∨
    ((m.allocate b).1 = m.allocations m.allocCount ∧ (m.allocate b).1 ≠ 0 ∧
      m.heap (m.allocate b).1 = none ∧
      (m.allocate b).2.heap = Function.update m.heap (m.allocate b).1 (some b)) := by
  dsimp only [allocate]
  split
  · next h => exact .inr ⟨rfl, h.1, h.2, rfl⟩
  · exact .inl ⟨rfl, rfl⟩

theorem allocate_of_fresh (hz : m.allocations m.allocCount ≠ 0)
    (hf : m.heap (m.allocations m.allocCount) = none) :
    (m.allocate b).1 = m.allocations m.allocCount ∧
      (m.allocate b).2.heap = Function.update m.heap (m.allocations m.allocCount) (some b) := by
  simp only [allocate, hz, hf, ne_eq, not_false_eq_true, and_self, if_true]

theorem free_of_live (h : m.heap a ≠ none) :
    (m.free a).heap = Function.update m.heap a none ∧ (m.free a).invalidFree = m.invalidFree := by
  simp only [free, Option.isSome_iff_ne_none.mpr h, if_true, and_self]

theorem free_of_not_live (h : m.heap a = none) :
    (m.free a).heap = m.heap ∧ (m.free a).invalidFree = true := by
  simp only [free, h, Option.isSome_none]
  exact ⟨rfl, rfl⟩

theorem free_heap_of_ne {a x : BitVec 64} (h : a ≠ x) : (m.free x).heap a = m.heap a := by
  unfold free; split <;> simp [Function.update_noteq h]

theorem read_of_heap {a : BitVec 64} {b : Block} (h : m.heap a = some b)
    (field : Block → BitVec 64) : m.read a field = field b := by
  simp only [read, h, Option.map_some', Option.getD_some]

end Machine

end SvmNest
