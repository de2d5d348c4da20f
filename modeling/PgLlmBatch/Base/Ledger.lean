import Mathlib

/-! Handles that a run opens and closes: what it holds after its events, and nothing when it closes
what it does not hold or opens what it holds already. -/
namespace PgLlmBatch.Base

inductive Holding (D : Type) where
  | opened (d : D)
  | closed (d : D)
  deriving DecidableEq, Repr

namespace Holding
variable {D : Type} [DecidableEq D]

def settle : List D → List (Holding D) → Option (List D)
  | held, [] => some held
  | held, .opened d::events => if d ∈ held then none else settle (d::held) events
  | held, .closed d::events => if d ∈ held then settle (held.erase d) events else none

theorem settleAppend (held : List D) (before after : List (Holding D)) :
    settle held (before ++ after) = (settle held before).bind (settle · after) := by
  induction before generalizing held with
  | nil => rfl
  | cons e before ih =>
    cases e with
    | opened d =>
      simp only [List.cons_append,settle]
      split
      · rfl
      · exact ih _
    | closed d =>
      simp only [List.cons_append,settle]
      split
      · exact ih _
      · rfl

def Holds (log : List (Holding D)) (held : List D) : Prop := settle [] log = some held

theorem holdsOpened {log : List (Holding D)} {held : List D} {d : D} (holds : Holds log held) (fresh : d ∉ held) :
    Holds (log ++ [.opened d]) (d::held) := by
  unfold Holds at holds ⊢
  rw [settleAppend,holds,Option.bind_some,settle,if_neg fresh,settle]

theorem holdsClosed {log : List (Holding D)} {held : List D} {d : D} (holds : Holds log held) (own : d ∈ held) :
    Holds (log ++ [.closed d]) (held.erase d) := by
  unfold Holds at holds ⊢
  rw [settleAppend,holds,Option.bind_some,settle,if_pos own,settle]

theorem closedTwice {log : List (Holding D)} {held : List D} {d : D} (holds : Holds log held) (other : d ∉ held) :
    settle [] (log ++ [.closed d]) = none := by
  unfold Holds at holds
  rw [settleAppend,holds,Option.bind_some,settle,if_neg other]

end Holding
end PgLlmBatch.Base
