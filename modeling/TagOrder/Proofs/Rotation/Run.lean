import TagOrder.Proofs.Rotation.Block

/-!
# Runs of rotations

`Rotations` relates a tag in a text to what any finite sequence of rotations makes of it, whatever
attributes are chosen. What one rotation preserves holds after every run (`Rotations.invariant`).
-/

namespace TagOrder

/-- A rotation asked for: `node` is to go before `previous`. -/
structure Move where
  node : Attribute
  previous : Attribute
  deriving DecidableEq, Repr

/-- Zero or more rotations, one after the other. -/
inductive Rotations (origin : Placed) : List Move -> Placed -> Prop where
  | refl : Rotations origin [] origin
  | step {moves middle move next} (prior : Rotations origin moves middle)
      (rotated : rotate? middle move.node move.previous = some next) :
      Rotations origin (moves ++ [move]) next

namespace Rotations

variable {origin middle final : Placed} {first second : List Move}

/-- Two runs that meet make one. -/
theorem trans (prior : Rotations origin first middle) (rest : Rotations middle second final) :
    Rotations origin (first ++ second) final := by
  induction rest with
  | refl => simpa using prior
  | step _ rotated ih => simpa using ih.step rotated

/-- What every rotation keeps, every run keeps. -/
theorem invariant (holds : Placed -> Prop)
    (kept : ∀ {before next : Placed} {node previous : Attribute}, holds before →
      rotate? before node previous = some next → holds next)
    (start : holds origin) (run : Rotations origin first final) : holds final := by
  induction run with
  | refl => exact start
  | step _ rotated ih => exact kept ih rotated

end Rotations

end TagOrder
