/-!
This module contains runs of a step function over a row of symbols that end at the first symbol that
has no place.
-/

namespace Mahjong

variable {σ α : Type} (step? : σ → α → Option σ)

def run? (state : σ) (row : List α) : Option σ :=
  row.foldlM step? state

@[simp]
theorem run?_nil (state : σ) : run? step? state [] = some state := by
  rfl

theorem run?_cons (state : σ) (a : α) (rest : List α)
    : run? step? state (a :: rest) = (step? state a).bind (run? step? · rest) := by
  rfl

theorem run?_append (state : σ) (row rest : List α)
    : run? step? state (row ++ rest) = (run? step? state row).bind (run? step? · rest) := by
  unfold run?
  rw [List.foldlM_append]
  rfl

variable {step?} in
theorem run?_of_fixed {state : σ} {row : List α} (h : ∀ a ∈ row, step? state a = some state)
    : run? step? state row = some state := by
  induction row with
  | nil => rfl
  | cons a row ih =>
    rcases List.forall_mem_cons.1 h with ⟨ha, hrow⟩
    rw [run?_cons, ha, Option.bind_some, ih hrow]

end Mahjong
