import Mathlib

/-! The first distinct values of a list, up to a budget: a scan that stops when the budget is met
or an element is rejected, and its outcome by the values that stand before a rejected element. -/
namespace PgLlmBatch.Base.FirstDistinct
variable {α β : Type}

inductive Scan (β : Type) where
  | full (selected : List β)
  | rejected
  | ended (selected : List β)

section
variable (accept : α → Option β)

def values : List α → List β
  | [] => []
  | x::xs => match accept x with
      | some b => b::values xs
      | none => []

def Accepted (x : α) : Prop := ∃ b, accept x = some b

variable {accept}

theorem valuesShort (xs : List α) : (values accept xs).length ≤ xs.length := by
  induction xs with
  | nil => exact Nat.le_refl _
  | cons x xs ih =>
    unfold values
    split
    · exact Nat.succ_le_succ ih
    · exact Nat.zero_le _

theorem valuesWhole {xs : List α} : (values accept xs).length = xs.length ↔ ∀ x ∈ xs, Accepted accept x := by
  induction xs with
  | nil => simp [values]
  | cons x xs ih =>
    rw [List.forall_mem_cons,← ih]
    cases own : accept x with
    | some b => simp [values,Accepted,own]
    | none => simp [values,Accepted,own]

theorem valuesAppend {before : List α} (fine : ∀ x ∈ before, Accepted accept x) (after : List α) :
    values accept (before ++ after) = values accept before ++ values accept after := by
  induction before with
  | nil => rfl
  | cons x before ih =>
    obtain ⟨⟨b,own⟩,later⟩ := List.forall_mem_cons.mp fine
    simp only [List.cons_append,values,own,ih later]

theorem firstRejected {xs : List α} (short : (values accept xs).length < xs.length) :
    ∃ before x after, xs = before ++ x::after ∧ (∀ y ∈ before, Accepted accept y) ∧ accept x = none := by
  induction xs with
  | nil => cases short
  | cons x xs ih =>
    cases own : accept x with
    | none => exact ⟨[],x,xs,rfl,nofun,own⟩
    | some b =>
      simp only [values,own,List.length_cons] at short
      obtain ⟨before,y,after,rfl,fine,rejected⟩ := ih (by omega)
      refine ⟨x::before,y,after,rfl,?_,rejected⟩
      rw [List.forall_mem_cons]
      exact ⟨⟨b,own⟩,fine⟩

theorem rejectedValues {before : List α} {x : α} (fine : ∀ y ∈ before, Accepted accept y) (rejected : accept x = none)
    (after : List α) : values accept (before ++ x::after) = values accept before := by
  rw [valuesAppend fine]
  simp only [values,rejected,List.append_nil]

end

section
variable [DecidableEq β]

theorem eraseDupsSeen {done : List β} {b : β} (seen : b ∈ done.eraseDups) : (done ++ [b]).eraseDups = done.eraseDups := by
  have here : b ∈ done := List.mem_eraseDups.mp seen
  rw [List.eraseDups_append]
  simp [List.removeAll,here]

theorem eraseDupsFresh {done : List β} {b : β} (fresh : b ∉ done.eraseDups) :
    (done ++ [b]).eraseDups = done.eraseDups ++ [b] := by
  have away : b ∉ done := fun here => fresh (List.mem_eraseDups.mpr here)
  rw [List.eraseDups_append]
  simp [List.removeAll,away,List.eraseDups_cons]

variable (accept : α → Option β) (budget : Nat)

def scan (selected : List β) : List α → Scan β
  | [] => .ended selected
  | x::xs => match accept x with
      | none => .rejected
      | some b =>
          if b ∈ selected then scan selected xs
          else if (selected ++ [b]).length = budget then .full (selected ++ [b])
          else scan (selected ++ [b]) xs

variable {accept budget}

-- By induction on the list: what is selected are the distinct values of what has been scanned.
theorem scanOutcome {done : List β} (room : done.eraseDups.length < budget) (xs : List α) :
    scan accept budget done.eraseDups xs =
      if budget ≤ (done ++ values accept xs).eraseDups.length then
        .full ((done ++ values accept xs).eraseDups.take budget)
      else if (values accept xs).length < xs.length then .rejected
      else .ended (done ++ values accept xs).eraseDups := by
  induction xs generalizing done with
  | nil =>
    have less : ¬budget ≤ (done ++ values accept ([] : List α)).eraseDups.length := by
      simpa [values] using room
    rw [if_neg less]
    simp [scan,values]
  | cons x xs ih =>
    unfold scan
    cases own : accept x with
    | none =>
      have none_ : values accept (x::xs) = [] := by simp only [values,own]
      rw [none_,List.append_nil,if_neg (Nat.not_le.mpr room)]
      simp
    | some b =>
      have more : values accept (x::xs) = b::values accept xs := by simp only [values,own]
      have whole : done ++ values accept (x::xs) = (done ++ [b]) ++ values accept xs := by
        rw [more,List.append_assoc,List.singleton_append]
      have lengths : (values accept (x::xs)).length < (x::xs).length ↔ (values accept xs).length < xs.length := by
        rw [more,List.length_cons,List.length_cons,Nat.add_lt_add_iff_right]
      simp only [whole,lengths]
      by_cases seen : b ∈ done.eraseDups
      · rw [if_pos seen]
        have same := eraseDupsSeen seen
        rw [← same]
        exact ih (same ▸ room)
      · rw [if_neg seen]
        have grown := eraseDupsFresh seen
        rw [← grown]
        by_cases met : (done ++ [b]).eraseDups.length = budget
        · have split_ := @List.eraseDups_append β _ _ (done ++ [b]) (values accept xs)
          rw [if_pos met,if_pos (by rw [split_,List.length_append]; omega),split_,List.take_left' met]
        · rw [if_neg met]
          refine ih ?_
          rw [grown,List.length_append,List.length_singleton] at met ⊢
          omega

end

end PgLlmBatch.Base.FirstDistinct
