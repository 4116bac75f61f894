import SvmNest.Lifecycle.Runs

/-!
# Driver entry, unload and the power callback

`DriverEntry` opens the power-state callback object, registers `SvPowerCallbackRoutine` on it,
and runs `StartAmdSvmAndHookMsr`, which virtualizes every processor and then enables the
syscall hook, devirtualizing again if the hook fails. At its `Exit` label it keeps the
registration when the status is a success and unregisters it otherwise.

`StartAmdSvmAndHookMsr` returns a `BOOL`, and `DriverEntry` stores it in its `NTSTATUS` as it
is: `TRUE` is 1 and `FALSE` is 0, and both are success codes. So a failed start is reported
as `STATUS_SUCCESS`, with the registration kept and nothing virtualized.

The kernel calls and the syscall hook are outside the sources: their outcomes are parameters,
and the hook is a flag. The lifecycle's invariant carries over to the driver's whole life.
-/

namespace SvmNest

/-- The machine, `g_PowerCallbackRegistration`, the registrations in force and the hook. -/
structure Driver where
  machine : Machine
  powerCallbackRegistration : BitVec 64
  registrations : List (BitVec 64)
  syscallHookEnabled : Bool

/-- What the kernel answers during `DriverEntry`. -/
structure EntryOutcomes where
  createCallback : NTSTATUS
  registerCallback : BitVec 64
  syscallHookEnable : NTSTATUS

/-- `StartAmdSvmAndHookMsr`. -/
def startAmdSvmAndHookMsr (plat : Platform) (syscallHookEnable : NTSTATUS) (d : Driver) :
    Bool × Driver :=
  let r := svVirtualizeAllProcessors plat d.machine
  if ntSuccess r.1 = false then (false, { d with machine := r.2 })
  else if ntSuccess syscallHookEnable = false then
    (false, { d with machine := svDevirtualizeAllProcessors plat r.2 })
  else (true, { d with machine := r.2, syscallHookEnabled := true })

/-- `DriverEntry`. -/
def driverEntry (plat : Platform) (out : EntryOutcomes) (d : Driver) : NTSTATUS × Driver :=
  let callbackRegistration : BitVec 64 :=
    if ntSuccess out.createCallback then out.registerCallback else 0
  let r : NTSTATUS × Driver :=
    if ntSuccess out.createCallback = false then (out.createCallback, d)
    else if out.registerCallback = 0 then (statusUnsuccessful, d)
    else
      let s := startAmdSvmAndHookMsr plat out.syscallHookEnable
        { d with registrations := out.registerCallback :: d.registrations }
      (boolToInt s.1, s.2)
  if ntSuccess r.1 then (r.1, { r.2 with powerCallbackRegistration := callbackRegistration })
  else if callbackRegistration ≠ 0 then
    (r.1, { r.2 with registrations := r.2.registrations.erase callbackRegistration })
  else r

/-- `StopAmdSvm`. -/
def stopAmdSvm (plat : Platform) (d : Driver) : Driver :=
  { d with syscallHookEnabled := false, machine := svDevirtualizeAllProcessors plat d.machine }

/-- `SvDriverUnload`. -/
def svDriverUnload (plat : Platform) (d : Driver) : Driver :=
  stopAmdSvm plat { d with registrations := d.registrations.erase d.powerCallbackRegistration }

/-- `PO_CB_SYSTEM_STATE_LOCK`. -/
def poCbSystemStateLock : BitVec 64 := 3

/-- `SvPowerCallbackRoutine`. -/
def svPowerCallbackRoutine (plat : Platform) (argument1 argument2 : BitVec 64) (m : Machine) :
    Machine :=
  if argument1 ≠ poCbSystemStateLock then m
  else if argument2 ≠ 0 then (svVirtualizeAllProcessors plat m).2
  else svDevirtualizeAllProcessors plat m

/-- Both values of a `BOOL` are success codes. -/
theorem ntSuccess_boolToInt (b : Bool) : ntSuccess (boolToInt b) = true := by
  cases b <;> decide

/-- Once the callback is registered, `DriverEntry` returns the `BOOL` of `StartAmdSvmAndHookMsr`
as a success code and keeps the registration. -/
theorem driverEntry_of_registered (plat : Platform) (out : EntryOutcomes) (d : Driver)
    (hc : ntSuccess out.createCallback = true) (hr : out.registerCallback ≠ 0) :
    let s := startAmdSvmAndHookMsr plat out.syscallHookEnable
      { d with registrations := out.registerCallback :: d.registrations }
    driverEntry plat out d =
      (boolToInt s.1, { s.2 with powerCallbackRegistration := out.registerCallback }) := by
  simp only [driverEntry, hc, hr, Bool.true_eq_false, if_false, if_true, ntSuccess_boolToInt]

/-- Without SVM the start fails and `DriverEntry` still returns `STATUS_SUCCESS`. -/
theorem driverEntry_without_svm_reports_success :
    let plat : Platform := { pagePlatform with svmSupported := false }
    let d : Driver := ⟨Machine.init (fun _ => {}) pageAllocations, 0, [], false⟩
    let out : EntryOutcomes := ⟨statusSuccess, 0xFFFFA00000001000, statusSuccess⟩
    let r := driverEntry plat out d
    (startAmdSvmAndHookMsr plat out.syscallHookEnable
        { d with registrations := out.registerCallback :: d.registrations }).1 = false ∧
    r.1 = statusSuccess ∧ ntSuccess r.1 = true ∧
    r.2.powerCallbackRegistration = 0xFFFFA00000001000 ∧
    r.2.registrations = [0xFFFFA00000001000] ∧
    (r.2.machine.processors 0).hypervisor = none ∧ r.2.syscallHookEnabled = false := by
  decide

/-- `DriverEntry`, the power callbacks in order, then `SvDriverUnload`. -/
def driverLife (plat : Platform) (out : EntryOutcomes) (callbacks : List (BitVec 64 × BitVec 64))
    (d : Driver) : Driver :=
  let d := (driverEntry plat out d).2
  let d := callbacks.foldl
    (fun d c => { d with machine := svPowerCallbackRoutine plat c.1 c.2 d.machine }) d
  svDriverUnload plat d

section Life

variable {plat : Platform}

theorem consistent_startAmdSvmAndHookMsr (syscallHookEnable : NTSTATUS) (d : Driver)
    (h : Consistent plat d.machine) :
    Consistent plat (startAmdSvmAndHookMsr plat syscallHookEnable d).2.machine := by
  have hv := h.virtualizeAll
  dsimp only [startAmdSvmAndHookMsr]
  by_cases h1 : ntSuccess (svVirtualizeAllProcessors plat d.machine).1 = false
  · rw [if_pos h1]; exact hv
  rw [if_neg h1]
  by_cases h2 : ntSuccess syscallHookEnable = false
  · rw [if_pos h2]; exact hv.devirtualizeAll
  · rw [if_neg h2]; exact hv

theorem consistent_driverEntry (out : EntryOutcomes) (d : Driver) (h : Consistent plat d.machine) :
    Consistent plat (driverEntry plat out d).2.machine := by
  cases hc : ntSuccess out.createCallback
  · simpa [driverEntry, hc] using h
  by_cases hr : out.registerCallback = 0
  · simpa [driverEntry, hc, hr] using h
  · rw [driverEntry_of_registered plat out d hc hr]
    exact consistent_startAmdSvmAndHookMsr _ _ h

theorem consistent_svPowerCallbackRoutine (argument1 argument2 : BitVec 64) {m : Machine}
    (h : Consistent plat m) :
    Consistent plat (svPowerCallbackRoutine plat argument1 argument2 m) := by
  unfold svPowerCallbackRoutine
  split_ifs
  · exact h
  · exact h.virtualizeAll
  · exact h.devirtualizeAll

theorem consistent_powerCallbacks (callbacks : List (BitVec 64 × BitVec 64)) {d : Driver}
    (h : Consistent plat d.machine) :
    Consistent plat (callbacks.foldl
      (fun d c => { d with machine := svPowerCallbackRoutine plat c.1 c.2 d.machine })
      d).machine := by
  induction callbacks generalizing d with
  | nil => exact h
  | cons c callbacks ih => exact ih (consistent_svPowerCallbackRoutine c.1 c.2 h)

end Life

/-- After `SvDriverUnload` no processor runs the hypervisor and no free hit a dead block. -/
theorem driver_unload_leaves_no_guest (plat : Platform) (out : EntryOutcomes)
    (callbacks : List (BitVec 64 × BitVec 64)) (processors : Nat → Processor)
    (allocations : Nat → BitVec 64) (hload : ∀ i, (processors i).hypervisor = none) :
    let m := (driverLife plat out callbacks
      ⟨Machine.init processors allocations, 0, [], false⟩).machine
    m.invalidFree = false ∧ NoneVirtualized plat m :=
  (consistent_powerCallbacks callbacks (consistent_driverEntry out _
    (consistent_init plat hload allocations))).devirtualizeAll_leaves_none

/-- A load, a sleep and a resume, and the unload, on one processor. -/
theorem driver_unload_leaves_no_guest_after_sleep :
    let out : EntryOutcomes := ⟨statusSuccess, 0xFFFFA00000001000, statusSuccess⟩
    let callbacks : List (BitVec 64 × BitVec 64) := [(3, 0), (3, 1)]
    let m := (driverLife pagePlatform out callbacks
      ⟨Machine.init (fun _ => {}) pageAllocations, 0, [], false⟩).machine
    (∀ i, ((fun _ => {} : Nat → Processor) i).hypervisor = none) ∧
    m.invalidFree = false ∧ NoneVirtualized pagePlatform m :=
  ⟨fun _ => rfl, driver_unload_leaves_no_guest pagePlatform _ _ (fun _ => {}) pageAllocations
    fun _ => rfl⟩

end SvmNest
