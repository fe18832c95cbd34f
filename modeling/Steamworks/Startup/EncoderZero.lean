import Steamworks.Library.Encoder
import Steamworks.Library.Run

/-! The two mechanisms whose relative encoder is set from the absolute one when
their subsystem is constructed, from a zero in the config: the gear pivot and the
shooter elevation. They subtract the other way round. -/
namespace Steamworks.Startup
open Library.Run Library.Encoder

/-- `& 0xFFF` takes one turn. -/
def encoderTicks : ℤ := 4096

/-- `SetSensorDirection` turns the relative encoder around, so that it counts against
the absolute one, which it leaves as it is. -/
def countDirection (encoderReversed : Bool) : ℤ := if encoderReversed then -1 else 1

/-- `GearLoader::SetPivotEncoderAbsZero`. -/
def setPivotEncoderAbsZero (pivotZeroPosition : ℤ) (talon : Shaft) : Shaft :=
  talon.setPosition (talon.within encoderTicks - pivotZeroPosition)

/-- `ShooterElevation::SetElevationEncoderZero`. -/
def setElevationEncoderZero (elevationZero : ℤ) (talon : Shaft) : Shaft :=
  talon.setPosition (elevationZero - talon.within encoderTicks)

/-- Between two starts of the program the mechanism moves. -/
inductive Motion where
  | turn (amount : ℤ)
  | powerUp (turns position : ℤ)

def move (construct : Shaft → Shaft) (encoderReversed : Bool) (s : Shaft) : Motion → Shaft
  | .turn amount => s.turn (countDirection encoderReversed) amount
  | .powerUp turns position => construct (s.restart turns position)

/-- The encoder tells where the mechanism is: wherever it stood when the program
was started, it reads the way from the angle at which the absolute encoder shows
the configured zero, in its own direction and up to whole turns. -/
def TellsAngle (construct : Shaft → Shaft) (configured : ℤ) (encoderReversed : Bool) : Prop :=
  ∀ (s : Shaft) (motions : List Motion) (zero : ℤ), s.Marks encoderTicks zero configured →
    (run (move construct encoderReversed) (construct s) motions).Aligned encoderTicks
      (countDirection encoderReversed) zero

theorem setPivotEncoderAbsZero_eq (pivotZeroPosition : ℤ) :
    setPivotEncoderAbsZero pivotZeroPosition =
      Shaft.align encoderTicks (countDirection false) pivotZeroPosition := by
  funext s
  rw [setPivotEncoderAbsZero, Shaft.align, countDirection, if_neg Bool.false_ne_true, one_mul]

theorem setElevationEncoderZero_eq (elevationZero : ℤ) :
    setElevationEncoderZero elevationZero =
      Shaft.align encoderTicks (countDirection true) elevationZero := by
  funext s
  rw [setElevationEncoderZero, Shaft.align, countDirection, if_pos rfl, neg_one_mul, neg_sub]

/-- Where the sign is the encoder's direction, every start and every turn keep
the encoder counting from the same angle. -/
theorem aligned_run {encoderReversed : Bool} {zero mark : ℤ} {s : Shaft}
    (marks : s.Marks encoderTicks zero mark) (motions : List Motion) :
    (run (move (Shaft.align encoderTicks (countDirection encoderReversed) mark) encoderReversed)
      (s.align encoderTicks (countDirection encoderReversed) mark) motions).Aligned encoderTicks
        (countDirection encoderReversed) zero := by
  apply And.right (a := Shaft.Marks encoderTicks zero mark _)
  apply run_invariant (I := fun t : Shaft => t.Marks encoderTicks zero mark ∧
    t.Aligned encoderTicks (countDirection encoderReversed) zero)
  · rintro t e ⟨marks, aligned⟩
    cases e with
    | turn amount => exact ⟨marks, aligned.turn amount⟩
    | powerUp turns position =>
      have restarted : (t.restart turns position).Marks encoderTicks zero mark := marks
      exact ⟨restarted, restarted.aligned⟩
  · exact ⟨marks, marks.aligned⟩

/-- With the encoder's own sign the reading tells the angle; with the other sign
it already reads one tick from the zero as one tick on the other side. -/
theorem tellsAngle_iff (sign encoderReversed : Bool) (mark : ℤ) :
    TellsAngle (Shaft.align encoderTicks (countDirection sign) mark) mark encoderReversed ↔
      encoderReversed = sign := by
  constructor
  · intro tells
    have marks : (Shaft.mk 1 mark 0 0).Marks encoderTicks 0 mark := by
      rw [Shaft.Marks, zero_add]
    have read := tells ⟨1, mark, 0, 0⟩ [] 0 marks
    have shown : (Shaft.mk 1 mark 0 0).within encoderTicks - mark ≡ 1 [ZMOD encoderTicks] := by
      have away := ((Shaft.mk 1 mark 0 0).within_modEq encoderTicks).sub_right mark
      rwa [add_sub_cancel_right] at away
    rw [run_nil, Shaft.Aligned, Shaft.position_align, Shaft.angle_align, sub_zero] at read
    have same : encoderTicks ∣ countDirection encoderReversed * 1 - countDirection sign * 1 :=
      ((shown.mul_left (countDirection sign)).symm.trans read).dvd
    cases sign <;> cases encoderReversed
    · rfl
    · exact absurd same (by decide)
    · exact absurd same (by decide)
    · rfl
  · rintro rfl s motions zero marks
    exact aligned_run marks motions

end Steamworks.Startup
