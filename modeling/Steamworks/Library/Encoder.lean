import Mathlib

/-! A shaft with two encoders. The absolute one tells where in its turn the shaft
stands, the relative one counts from wherever it was last set. A calibration
remembers what the absolute encoder shows at some angle; from it the relative
encoder can be set again after its count was lost. -/
namespace Library.Encoder

/-- `angle` is where the shaft really stands, whole turns included, and `magnet`
what the absolute encoder shows at angle zero. Which whole turn the absolute
encoder shows, and what the relative one starts with, is arbitrary. -/
structure Shaft where
  angle : ℤ
  magnet : ℤ
  turns : ℤ
  position : ℤ

namespace Shaft

def absolute (ticks : ℤ) (s : Shaft) : ℤ := s.angle + s.magnet + ticks * s.turns

/-- The shaft turns; the relative encoder counts with the absolute one or
against it. -/
def turn (direction amount : ℤ) (s : Shaft) : Shaft :=
  { s with angle := s.angle + amount, position := s.position + direction * amount }

/-- Power is lost and comes back. -/
def restart (turns position : ℤ) (s : Shaft) : Shaft := { s with turns, position }

def setPosition (position : ℤ) (s : Shaft) : Shaft := { s with position }

/-- The absolute encoder within one turn. -/
def within (ticks : ℤ) (s : Shaft) : ℤ := s.absolute ticks % ticks

/-- The relative encoder is set from the absolute one, given what that shows at
the angle to count from. -/
def align (ticks direction mark : ℤ) (s : Shaft) : Shaft :=
  s.setPosition (direction * (s.within ticks - mark))

/-- The relative encoder counts from the angle `zero`, up to whole turns. -/
def Aligned (ticks direction zero : ℤ) (s : Shaft) : Prop :=
  s.position ≡ direction * (s.angle - zero) [ZMOD ticks]

/-- The mark tells the angle `zero`, whatever turn the encoder was on. -/
def Marks (ticks zero mark : ℤ) (s : Shaft) : Prop := mark ≡ zero + s.magnet [ZMOD ticks]

section
variable (s : Shaft) (ticks direction amount turns position mark : ℤ)

@[simp] theorem angle_align : (s.align ticks direction mark).angle = s.angle := rfl

@[simp] theorem position_align :
    (s.align ticks direction mark).position = direction * (s.within ticks - mark) := rfl

theorem absolute_modEq : s.absolute ticks ≡ s.angle + s.magnet [ZMOD ticks] := by
  rw [absolute]
  exact Int.modEq_iff_dvd.mpr ⟨-s.turns, by ring⟩

theorem within_modEq : s.within ticks ≡ s.angle + s.magnet [ZMOD ticks] :=
  (Int.mod_modEq _ _).trans (s.absolute_modEq ticks)

/-- What the absolute encoder shows marks where the shaft stands. -/
theorem marks_within : s.Marks ticks s.angle (s.within ticks) := s.within_modEq ticks

end

variable {s : Shaft} {ticks direction zero mark : ℤ}

theorem within_nonneg (positive : 0 < ticks) : 0 ≤ s.within ticks :=
  Int.emod_nonneg _ positive.ne'

theorem within_lt (positive : 0 < ticks) : s.within ticks < ticks := Int.emod_lt_of_pos _ positive

theorem Aligned.turn (aligned : s.Aligned ticks direction zero) (amount : ℤ) :
    (s.turn direction amount).Aligned ticks direction zero := by
  have moved := Int.ModEq.add_right (direction * amount) aligned
  have same : direction * (s.angle - zero) + direction * amount =
      direction * (s.angle + amount - zero) := by ring
  rwa [same] at moved

theorem Marks.aligned (marks : s.Marks ticks zero mark) :
    (s.align ticks direction mark).Aligned ticks direction zero := by
  have shown := (s.within_modEq ticks).sub marks
  have same : s.angle + s.magnet - (zero + s.magnet) = s.angle - zero := by ring
  rw [same] at shown
  exact shown.mul_left direction

end Shaft
end Library.Encoder
