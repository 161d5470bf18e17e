import TracePlayer.Number.Written

/-
  This file defines the scale of speeds that a viewer offers.

  Key definitions include:
    * `minSpeed`, `maxSpeed`, `speedStep`
    * `onScale`
    * `adjustSpeed`
-/

namespace TracePlayer

/- One half as a double. -/
def half : Binary64 :=
  Binary64.ofRatio false Binary64.one 2

/- The slowest speed. -/
def minSpeed : Binary64 :=
  half

/- The fastest speed. -/
def maxSpeed : Binary64 :=
  Binary64.ofNat 5

/- The distance between neighbouring speeds. -/
def speedStep : Binary64 :=
  half

/- Whether a speed lies between the slowest and the fastest. -/
def onScale (speed : Binary64) : Bool :=
  minSpeed.le speed && speed.le maxSpeed

/-
  The speed a number of steps up or down, kept on the scale.
-/
def adjustSpeed
    (speed : Binary64)
    (steps : Int) : Binary64 :=
  (speed.add (speedStep.mul (Binary64.ofInt steps))).clamp
    minSpeed maxSpeed

end TracePlayer
