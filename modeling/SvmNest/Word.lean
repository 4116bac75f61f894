import Mathlib.Data.BitVec

/-!
# Machine words of the driver

The driver is C++ for x64 Windows. `int`, `LONG`, `BOOL` and `NTSTATUS` are 32-bit
two's complement; `ULONG` and `UINT32` are 32-bit unsigned; `UINT64` and pointers are
64-bit. All of them are kept as bit patterns, and each conversion the source performs
implicitly has a name here: a signed 32-bit value widens by sign extension, an unsigned
one by zero extension, and a narrowing keeps the low bits.
-/

namespace SvmNest

/-- Widening of a signed 32-bit `int` or `LONG` to a 64-bit unsigned register. -/
def sext64 (x : BitVec 32) : BitVec 64 := x.signExtend 64

/-- Widening of an unsigned 32-bit `ULONG` or `UINT32` to 64 bits. -/
def zext64 (x : BitVec 32) : BitVec 64 := x.setWidth 64

/-- Narrowing of a 64-bit value to 32 bits, as `static_cast<int>` or `(ULONG)` does. -/
def low32 (x : BitVec 64) : BitVec 32 := x.setWidth 32

def maxUint32 : BitVec 32 := 0xFFFFFFFF#32

theorem getLsbD_allOnes32 (w i : Nat) :
    (0xFFFFFFFF#w).getLsbD i = (decide (i < w) && decide (i < 32)) := by
  rw [BitVec.getLsbD_ofNat, show 0xFFFFFFFF = 2 ^ 32 - 1 from rfl, Nat.testBit_two_pow_sub_one]

@[simp] theorem toNat_zext64 (x : BitVec 32) : (zext64 x).toNat = x.toNat := by
  have := x.isLt
  simp [zext64]; omega

@[simp] theorem toNat_low32 (x : BitVec 64) : (low32 x).toNat = x.toNat % 2 ^ 32 := by
  simp [low32]

@[simp] theorem low32_sext64 (x : BitVec 32) : low32 (sext64 x) = x := by
  ext i
  simp [low32, sext64, BitVec.getLsbD_signExtend]
  omega

@[simp] theorem low32_zext64 (x : BitVec 32) : low32 (zext64 x) = x := by
  ext i
  simp [low32, zext64]

theorem zext64_injective : Function.Injective zext64 := fun a b h => by
  simpa using congrArg low32 h

theorem toNat_sext64_of_lt (x : BitVec 32) (h : x.toNat < 2 ^ 31) :
    (sext64 x).toNat = x.toNat := by
  have hmsb : x.msb = false := by
    rw [BitVec.msb_eq_decide]; simpa using h
  have hx := x.isLt
  rw [sext64, BitVec.signExtend_eq_not_setWidth_not_of_msb_false hmsb]
  simp; omega

theorem toNat_sext64_of_ge (x : BitVec 32) (h : 2 ^ 31 ≤ x.toNat) :
    (sext64 x).toNat = x.toNat + 0xFFFFFFFF00000000 := by
  have hmsb : x.msb = true := by
    rw [BitVec.msb_eq_decide]; simpa using h
  have hx := x.isLt
  rw [sext64, BitVec.signExtend_eq_not_setWidth_not_of_msb_true hmsb]
  simp only [BitVec.toNat_not, BitVec.toNat_setWidth]
  omega

abbrev NTSTATUS := BitVec 32

/-- `NT_SUCCESS(Status)`: `((NTSTATUS)(Status)) >= 0`. -/
def ntSuccess (status : NTSTATUS) : Bool := decide (0 ≤ status.toInt)

theorem ntSuccess_iff (status : NTSTATUS) : ntSuccess status = true ↔ status.toNat < 2 ^ 31 := by
  simp only [ntSuccess, decide_eq_true_eq, BitVec.toInt_eq_toNat_cond]
  split <;> omega

def statusSuccess : NTSTATUS := 0x00000000#32
def statusUnsuccessful : NTSTATUS := 0xC0000001#32
def statusInsufficientResources : NTSTATUS := 0xC000009A#32
def statusInvalidParameter1 : NTSTATUS := 0xC00000EF#32
def statusHvFeatureUnavailable : NTSTATUS := 0xC035001E#32

@[simp] theorem ntSuccess_statusSuccess : ntSuccess statusSuccess = true := by decide
@[simp] theorem ntSuccess_statusUnsuccessful : ntSuccess statusUnsuccessful = false := by decide
@[simp] theorem ntSuccess_statusInsufficientResources :
    ntSuccess statusInsufficientResources = false := by decide
@[simp] theorem ntSuccess_statusInvalidParameter1 :
    ntSuccess statusInvalidParameter1 = false := by decide
@[simp] theorem ntSuccess_statusHvFeatureUnavailable :
    ntSuccess statusHvFeatureUnavailable = false := by decide

/-- `BOOL` is an `int`; `TRUE` is 1 and `FALSE` is 0. -/
def boolToInt (b : Bool) : BitVec 32 := if b then 1#32 else 0#32

end SvmNest
