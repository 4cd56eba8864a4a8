/-!
# Probe sequences

Open addressing looks for a key along a sequence of slots determined by its
hash. Each round visits `steps` consecutive slots from the current hash; then
the hash is perturbed: the perturbation is shifted right by five bits and the
hash becomes `5 * hash + 1 + perturbation`, modulo 2^64. The perturbation
starts as the hash itself, so all of its bits take part in the first rounds and
it is zero after thirteen. A pre-shuffled sequence perturbs once before the
first round. Slot numbers are the probed value masked to the table size.
-/

namespace HeapKit

/-- How a map probes: slots per round, and whether to perturb before the first. -/
structure Probing where
  linearSteps : Int64
  preShuffle : Bool
  deriving DecidableEq, Repr, Inhabited

/-- One slot per round, no pre-shuffle. -/
def Probing.standard : Probing := ⟨1, false⟩

/-- A position in a probe sequence. -/
structure Prober where
  hash : UInt64
  perturbation : UInt64
  steps : UInt64
  offset : UInt64
  deriving DecidableEq, Repr

namespace Prober

/-- The perturbation step that starts a new round. -/
def perturb (prober : Prober) : Prober :=
  let perturbation := prober.perturbation >>> 5
  { prober with perturbation, hash := 5 * prober.hash + 1 + perturbation }

/-- The slot at the current position, and the position after it. -/
def next (prober : Prober) (mask : UInt64) : Nat × Prober :=
  let slot := ((prober.hash + prober.offset) &&& mask).toNat
  let offset := prober.offset + 1
  if offset == prober.steps then (slot, { prober with offset := 0 }.perturb)
  else (slot, { prober with offset })

end Prober

namespace Probing

/-- The number of slots visited per round: at least one. -/
def stepsPerRound (probing : Probing) : UInt64 := (max probing.linearSteps 1).toUInt64

/-- The start of the probe sequence of a hash. -/
def start (probing : Probing) (hash : UInt64) : Prober :=
  let prober : Prober := ⟨hash, hash, probing.stepsPerRound, 0⟩
  if probing.preShuffle then prober.perturb else prober

/-- The first `count` slots of the probe sequence of a hash in a table with `mask`. -/
def sequence (probing : Probing) (hash mask : UInt64) (count : Nat) : List Nat :=
  let rec go : Nat → Prober → List Nat
    | 0, _ => []
    | remaining + 1, prober =>
      let (slot, after) := prober.next mask
      slot :: go remaining after
  go count (probing.start hash)

/-- A probe length after which every slot of a table of `total` slots has been
visited: thirteen rounds clear the perturbation, and after that the round starts
run through every residue. -/
def bound (probing : Probing) (total : Nat) : Nat :=
  (total + 14) * probing.stepsPerRound.toNat + 1

end Probing

end HeapKit
