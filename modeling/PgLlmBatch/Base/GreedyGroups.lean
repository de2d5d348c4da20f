import Mathlib

/-! Greedy grouping: items go in order into the current group for as long as they fit it.
The groups join to the input, keep what each step keeps, and each stopped because the next
item did not fit. -/
namespace PgLlmBatch.Base.GreedyGroups
variable {α : Type} (fits : List α → α → Bool)

def loop (current : List α) : List α → List (List α)
  | [] => [current]
  | x::xs => if fits current x then loop (current ++ [x]) xs else current::loop [x] xs

def groups : List α → List (List α)
  | [] => []
  | x::xs => loop fits [x] xs

def Stopped (g h : List α) : Prop := ∃ x, h.head? = some x ∧ fits g x = false

theorem loopFlatten (current xs : List α) : (loop fits current xs).flatten = current ++ xs := by
  induction xs generalizing current with
  | nil => simp [loop]
  | cons x xs ih =>
    unfold loop
    split
    · rw [ih,List.append_assoc,List.singleton_append]
    · rw [List.flatten_cons,ih,List.singleton_append]

theorem groupsFlatten (xs : List α) : (groups fits xs).flatten = xs := by
  cases xs with
  | nil => rfl
  | cons x xs => exact loopFlatten fits [x] xs

theorem loopEvery {P : List α → Prop} (single : ∀ x, P [x]) (grow : ∀ g x, P g → fits g x = true → P (g ++ [x]))
    {current : List α} (start : P current) (xs : List α) : ∀ g ∈ loop fits current xs, P g := by
  induction xs generalizing current with
  | nil => simpa [loop] using start
  | cons x xs ih =>
    unfold loop
    split
    · rename_i fit
      exact ih (grow current x start fit)
    · intro g here
      rcases List.mem_cons.mp here with rfl | later
      · exact start
      · exact ih (single x) g later

theorem groupsEvery {P : List α → Prop} {xs : List α} (single : ∀ x ∈ xs, P [x])
    (grow : ∀ g x, x ∈ xs → P g → fits g x = true → P (g ++ [x])) : ∀ g ∈ groups fits xs, P g := by
  have every : ∀ g ∈ groups fits xs, (∀ x ∈ g, x ∈ xs) → P g := by
    cases xs with
    | nil => simp [groups]
    | cons x xs =>
      refine loopEvery fits (fun y own => single y (own y (by simp))) ?_ (fun _ => single x (by simp)) xs
      intro g y have_ fit own
      exact grow g y (own y (by simp)) (have_ (fun z here => own z (by simp [here]))) fit
  intro g here
  refine every g here (fun x member => ?_)
  rw [← groupsFlatten fits xs]
  exact List.mem_flatten_of_mem here member

theorem loopHead (current xs : List α) (x : α) :
    ∃ g gs, loop fits (x::current) xs = g::gs ∧ g.head? = some x := by
  induction xs generalizing current with
  | nil => exact ⟨x::current,[],rfl,rfl⟩
  | cons y ys ih =>
    unfold loop
    split
    · exact ih (current ++ [y])
    · exact ⟨x::current,_,rfl,rfl⟩

theorem loopStopped (current xs : List α) : (loop fits current xs).IsChain (Stopped fits) := by
  induction xs generalizing current with
  | nil => exact List.isChain_singleton _
  | cons x xs ih =>
    unfold loop
    split
    · exact ih _
    · rename_i full
      obtain ⟨g,gs,start,head⟩ := loopHead fits [] xs x
      have chain := ih [x]
      rw [start] at chain ⊢
      exact List.isChain_cons_cons.mpr ⟨⟨x,head,by simpa using full⟩,chain⟩

theorem groupsStopped (xs : List α) : (groups fits xs).IsChain (Stopped fits) := by
  cases xs with
  | nil => exact List.isChain_nil
  | cons x xs => exact loopStopped fits [x] xs

theorem groupsFilled (xs : List α) : ∀ g ∈ groups fits xs, g ≠ [] :=
  groupsEvery fits (fun _ _ => by simp) (fun _ _ _ _ _ => by simp)

end PgLlmBatch.Base.GreedyGroups
