import Mathlib.Tactic.Common

/-! Flags in a byte.  A mask tells some flags of a byte; setting or clearing flags that the mask does
not tell leaves them as they are. -/

namespace Fieldbus.Flags

variable {x y mask : UInt8}

theorem or_and (x y z : UInt8) : (x ||| y) &&& z = x &&& z ||| y &&& z := by
  apply UInt8.toBitVec_inj.mp
  simp only [UInt8.toBitVec_and, UInt8.toBitVec_or]
  exact BitVec.and_or_distrib_right

/-- Flags that a byte has are told, whatever others are set. -/
theorem or_and_ne_zero (x : UInt8) (h : y &&& mask ≠ 0) : (x ||| y) &&& mask ≠ 0 := by
  intro hzero
  rw [or_and, UInt8.or_eq_zero_iff] at hzero
  exact h hzero.2

theorem or_and_of_disjoint (x : UInt8) (h : y &&& mask = 0) : (x ||| y) &&& mask = x &&& mask := by
  rw [or_and, h, UInt8.or_zero]

theorem and_and_of_subset (x : UInt8) (h : y &&& mask = mask) :
    (x &&& y) &&& mask = x &&& mask := by
  rw [UInt8.and_assoc, h]

theorem and_and_of_disjoint (x : UInt8) (h : y &&& mask = 0) : (x &&& y) &&& mask = 0 := by
  rw [UInt8.and_assoc, h, UInt8.and_zero]

/-- A byte without the flags that a mask tells has them all in its complement. -/
theorem not_and_not_and (x mask : UInt8) : ~~~ (x &&& ~~~ mask) &&& mask = mask := by
  apply UInt8.toBitVec_inj.mp
  apply BitVec.eq_of_getLsbD_eq
  intro i hi
  simp only [UInt8.toBitVec_and, UInt8.toBitVec_not, BitVec.getLsbD_and, BitVec.getLsbD_not, hi]
  cases x.toBitVec.getLsbD i <;> cases mask.toBitVec.getLsbD i <;> rfl

/-- When all flags that a mask does not tell have been cleared, none of these is left. -/
theorem and_not_and (x y mask : UInt8) : (x &&& y) &&& ~~~ (x &&& mask) &&& mask = 0 := by
  apply UInt8.toBitVec_inj.mp
  apply BitVec.eq_of_getLsbD_eq
  intro i hi
  simp only [UInt8.toBitVec_and, UInt8.toBitVec_not, BitVec.getLsbD_and, BitVec.getLsbD_not, hi]
  cases x.toBitVec.getLsbD i <;> cases mask.toBitVec.getLsbD i <;> simp

theorem eq_zero_of_and (h : x &&& mask = 0) (hnot : x &&& ~~~ mask = 0) : x = 0 := by
  have hall : mask ||| ~~~ mask = -1 := by
    apply UInt8.toBitVec_inj.mp
    simp
  rw [← UInt8.and_neg_one (a := x), ← hall, UInt8.and_comm, or_and, UInt8.and_comm, h,
    UInt8.and_comm, hnot, UInt8.or_zero]

end Fieldbus.Flags
