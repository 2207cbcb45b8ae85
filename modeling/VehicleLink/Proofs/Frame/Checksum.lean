import VehicleLink.Frame.Checksum

/-!
# What the checksum register remembers

A step of the register is `register >>> 8 ^^^ feedback low`, where `low` is the low byte of the
register combined with the byte that is taken in. The feedback tells in its high byte alone what
`low` was (`fedByte_feedback`), and nothing else reaches the high byte of the new register. So two
steps lead to the same register exactly if they had the same `low` and the same high byte to start
with (`step_eq_step_iff`), and neither the byte nor the register before it is forgotten:

* `step_right_inj` : different bytes lead one register to different ones.
* `step_left_inj`, `update_left_inj` : the same bytes keep different registers apart.
* `step_step_inj` : two bytes in a row fill the whole register, so that it remembers both.
-/

namespace VehicleLink.Checksum

variable {register register' : UInt16} {a b c d : UInt8}

/-- The byte that was combined with the low byte of the register, read off its feedback. -/
def fedByte (feedback : UInt16) : UInt8 :=
  let high := (feedback >>> 8).toUInt8
  let folded := high ^^^ (high >>> 5)
  folded ^^^ (folded <<< 4)

/-- The feedback tells the byte that it was made of. There are few enough bytes to look at all of
them. -/
theorem fedByte_feedback (low : UInt8) : fedByte (feedback low) = low := by
  have hall : ∀ bits : BitVec 8,
      fedByte (feedback (UInt8.ofBitVec bits)) = UInt8.ofBitVec bits := by decide
  exact hall low.toBitVec

/-! ## The two bytes of the register -/

theorem toNat_shiftRight_eight (register : UInt16) :
    (register >>> 8).toNat = register.toNat / 256 := by
  rw [UInt16.toNat_shiftRight]
  show register.toNat >>> 8 = _
  rw [Nat.shiftRight_eq_div_pow]

/-- A register is its low byte and its high byte. -/
theorem eq_of_low_of_high (hlow : register.toUInt8 = register'.toUInt8)
    (hhigh : register >>> 8 = register' >>> 8) : register = register' := by
  have hmod := congrArg UInt8.toNat hlow
  have hdiv := congrArg UInt16.toNat hhigh
  rw [UInt16.toNat_toUInt8, UInt16.toNat_toUInt8] at hmod
  rw [toNat_shiftRight_eight, toNat_shiftRight_eight] at hdiv
  apply UInt16.toNat_inj.1
  omega

/-- The high byte of the old register is the low byte of the new one, where only the feedback is
added. -/
theorem step_shiftRight (register : UInt16) (a : UInt8) :
    step register a >>> 8 = feedback (register.toUInt8 ^^^ a) >>> 8 := by
  -- A register has two bytes, and both were shifted out.
  have hgone : register >>> 8 >>> 8 = 0 := by
    apply UInt16.toNat_inj.1
    have hlt : register.toNat < 65536 := register.toNat_lt
    rw [toNat_shiftRight_eight, toNat_shiftRight_eight]
    show register.toNat / 256 / 256 = 0
    omega
  rw [step, UInt16.shiftRight_xor, hgone, UInt16.zero_xor]

/-- What was combined with the low byte can be read off the register after the step. -/
theorem fedByte_step (register : UInt16) (a : UInt8) :
    fedByte (step register a) = register.toUInt8 ^^^ a := by
  have hfed : fedByte (step register a) = fedByte (feedback (register.toUInt8 ^^^ a)) := by
    unfold fedByte
    rw [step_shiftRight]
  rw [hfed, fedByte_feedback]

/-! ## Steps that meet -/

/-- Two steps meet exactly if the high bytes agree and the low bytes, combined with what is taken
in, do. -/
theorem step_eq_step_iff :
    step register a = step register' b ↔
      register >>> 8 = register' >>> 8 ∧ register.toUInt8 ^^^ a = register'.toUInt8 ^^^ b := by
  constructor
  · intro h
    have hlow := congrArg fedByte h
    rw [fedByte_step, fedByte_step] at hlow
    -- With the same feedback on both sides, what is left of the registers are their high bytes.
    refine ⟨?_, hlow⟩
    rw [step, step, hlow] at h
    exact (UInt16.xor_left_inj _).1 h
  · rintro ⟨hhigh, hlow⟩
    rw [step, step, hhigh, hlow]

/-- A step forgets nothing about the byte that it takes in. -/
theorem step_right_inj : step register a = step register b ↔ a = b := by
  rw [step_eq_step_iff, and_iff_right rfl, UInt8.xor_right_inj]

/-- A step forgets nothing about the register that it starts from. -/
theorem step_left_inj : step register a = step register' a ↔ register = register' := by
  constructor
  · intro h
    obtain ⟨hhigh, hlow⟩ := step_eq_step_iff.1 h
    -- With the same byte taken in, the low bytes agree as well.
    exact eq_of_low_of_high ((UInt8.xor_left_inj _).1 hlow) hhigh
  · rintro rfl
    rfl

/-- Different registers stay apart, however many bytes they both take in. Induction on the bytes. -/
theorem update_left_inj (bytes : Bytes) :
    update register bytes = update register' bytes ↔ register = register' := by
  induction bytes generalizing register register' with
  | nil => rfl
  | cons byte rest ih => rw [update_cons, update_cons, ih, step_left_inj]

/-- Two bytes in a row are both remembered. The first one decides the high byte after it was taken
in, which the second one does not touch. -/
theorem step_step_inj :
    step (step register a) b = step (step register c) d ↔ a = c ∧ b = d := by
  constructor
  · intro h
    have hhigh := (step_eq_step_iff.1 h).1
    -- `fedByte` looks at the high byte only.
    have hfed : fedByte (step register a) = fedByte (step register c) := by
      unfold fedByte
      rw [hhigh]
    rw [fedByte_step, fedByte_step, UInt8.xor_right_inj] at hfed
    subst hfed
    exact ⟨rfl, step_right_inj.1 h⟩
  · rintro ⟨rfl, rfl⟩
    rfl

/-- A string of bytes is told from one that differs in two adjacent bytes. -/
theorem update_adjacent_inj (front back : Bytes) :
    update register (front ++ a :: b :: back) = update register (front ++ c :: d :: back) ↔
      a = c ∧ b = d := by
  -- The front leads to one register, and the back keeps different ones apart.
  rw [update_append, update_append, update_cons, update_cons, update_cons, update_cons,
    update_left_inj, step_step_inj]

end VehicleLink.Checksum
