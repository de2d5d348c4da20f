import Mathlib

/-! Trimming a text that is lines joined by a separator. Whole blank lines go first, then the blanks
of the line that is left at the end. -/
namespace PgLlmBatch.Base
open List
variable {α β : Type} (p : α → Bool)

def trimFirst : List (List α) → List (List α)
  | [] => []
  | line::lines => line.dropWhile p :: lines

def trimFront (lines : List (List α)) : List (List α) := trimFirst p (lines.dropWhile (fun line => line.all p))

def turned (lines : List (List α)) : List (List α) := (lines.map List.reverse).reverse

def trimBack (lines : List (List α)) : List (List α) := turned (trimFront p (turned lines))

theorem joinedCons (sep : α) {lines : List (List α)} (some_ : lines ≠ []) (line : List α) :
    [sep].intercalate (line::lines) = line ++ sep :: [sep].intercalate lines := by
  cases lines with
  | nil => exact absurd rfl some_
  | cons next lines => simp

theorem joinedConcat (sep : α) {lines : List (List α)} (some_ : lines ≠ []) (line : List α) :
    [sep].intercalate (lines ++ [line]) = [sep].intercalate lines ++ sep :: line := by
  induction lines with
  | nil => exact absurd rfl some_
  | cons first lines ih =>
    cases lines with
    | nil => simp
    | cons next lines =>
      have later := ih (List.cons_ne_nil next lines)
      rw [List.cons_append,joinedCons sep (List.append_ne_nil_of_left_ne_nil (List.cons_ne_nil next lines) [line]) first,later,
        joinedCons sep (List.cons_ne_nil next lines) first,List.append_assoc,List.cons_append]

theorem joinedTurned (sep : α) (lines : List (List α)) :
    ([sep].intercalate lines).reverse = [sep].intercalate (turned lines) := by
  induction lines with
  | nil => rfl
  | cons line lines ih =>
    cases lines with
    | nil => simp [turned]
    | cons next lines =>
      rw [joinedCons sep (by simp),List.reverse_append,List.reverse_cons,ih]
      have whole : turned (line::next::lines) = turned (next::lines) ++ [line.reverse] := by simp [turned]
      have some_ : turned (next::lines) ≠ [] := by simp [turned]
      rw [whole,joinedConcat sep some_]
      simp

theorem splitClean [BEq α] [LawfulBEq α] {sep : α} (xs : List α) : ∀ segment ∈ xs.splitOn sep, sep ∉ segment := by
  induction xs with
  | nil =>
    intro segment here
    rw [List.splitOn_nil,List.mem_singleton] at here
    rw [here]
    exact List.not_mem_nil
  | cons x xs ih =>
    intro segment here
    rw [List.splitOn_cons_eq_if_modifyHead] at here
    split at here
    · rcases List.mem_cons.mp here with rfl | later
      · exact List.not_mem_nil
      · exact ih segment later
    · rename_i other
      cases cut : xs.splitOn sep with
      | nil =>
        rw [cut] at here
        cases here
      | cons first rest =>
        rw [cut] at ih here
        rcases List.mem_cons.mp here with rfl | later
        · rw [List.mem_cons,not_or]
          exact ⟨fun same => other (beq_iff_eq.mpr same.symm),ih first List.mem_cons_self⟩
        · exact ih segment (List.mem_cons_of_mem first later)

variable {p}

theorem joinedFront {sep : α} (blank : p sep = true) (lines : List (List α)) :
    ([sep].intercalate lines).dropWhile p = [sep].intercalate (trimFront p lines) := by
  induction lines with
  | nil => rfl
  | cons line lines ih =>
    by_cases empty : line.all p = true
    · have dropped : trimFront p (line::lines) = trimFront p lines := by
        rw [trimFront,List.dropWhile_cons_of_pos (by exact empty),trimFront]
      rw [dropped,← ih]
      cases lines with
      | nil =>
        rw [List.intercalate_singleton]
        exact List.dropWhile_eq_nil_iff.mpr (List.all_eq_true.mp empty)
      | cons next lines =>
        rw [joinedCons sep (by simp),List.dropWhile_append_of_pos (List.all_eq_true.mp empty),List.dropWhile_cons_of_pos blank]
    · have kept : trimFront p (line::lines) = line.dropWhile p :: lines := by
        rw [trimFront,List.dropWhile_cons_of_neg (by exact empty),trimFirst]
      have inked : (line.dropWhile p).isEmpty = false := by
        rw [Bool.eq_false_iff]
        intro none_
        exact empty (List.all_eq_true.mpr (List.dropWhile_eq_nil_iff.mp (List.isEmpty_iff.mp none_)))
      rw [kept]
      cases lines with
      | nil => simp
      | cons next lines =>
        have some_ := List.cons_ne_nil next lines
        rw [joinedCons sep some_ line,joinedCons sep some_ (line.dropWhile p),List.dropWhile_append,inked,
          if_neg Bool.false_ne_true]

theorem joinedBack {sep : α} (blank : p sep = true) (lines : List (List α)) :
    ([sep].intercalate lines).rdropWhile p = [sep].intercalate (trimBack p lines) := by
  rw [List.rdropWhile,joinedTurned,joinedFront blank,joinedTurned,trimBack]

section
variable {R : List α → β → Prop} {blank : β → Bool}

theorem blankFront (same : ∀ line b, R line b → line.all p = blank b) {lines : List (List α)} {bs : List β}
    (h : Forall₂ R lines bs) : Forall₂ R (lines.dropWhile (fun line => line.all p)) (bs.dropWhile blank) := by
  induction h with
  | nil => exact .nil
  | @cons line b lines bs first rest ih =>
    rw [List.dropWhile_cons,List.dropWhile_cons,← same line b first]
    split
    · exact ih
    · exact .cons first rest

theorem trimmedFront (same : ∀ line b, R line b → line.all p = blank b)
    (trimmed : ∀ line b, R line b → blank b = false → R (line.dropWhile p) b) {lines : List (List α)} {bs : List β}
    (h : Forall₂ R lines bs) : Forall₂ R (trimFront p lines) (bs.dropWhile blank) := by
  have kept := blankFront same h
  have front := List.head?_dropWhile_not blank bs
  unfold trimFront
  cases dropped : bs.dropWhile blank with
  | nil =>
    rw [dropped,forall₂_nil_right_iff] at kept
    rw [kept]
    exact .nil
  | cons b rest =>
    rw [dropped] at kept front
    obtain ⟨line,lines',first,later,shape⟩ := forall₂_cons_right_iff.mp kept
    rw [shape]
    exact .cons (trimmed line b first (by simpa using front)) later

theorem trimmedBack (same : ∀ line b, R line b → line.all p = blank b)
    (trimmed : ∀ line b, R line b → blank b = false → R (line.rdropWhile p) b) {lines : List (List α)} {bs : List β}
    (h : Forall₂ R lines bs) : Forall₂ R (trimBack p lines) (bs.rdropWhile blank) := by
  have turnedOver : Forall₂ (fun line b => R line.reverse b) (turned lines) bs.reverse := by
    rw [turned,forall₂_reverse_iff,forall₂_map_left_iff]
    simpa using h
  have turnedSame (line : List α) (b : β) (own : R line.reverse b) : line.all p = blank b := by
    rw [← same line.reverse b own,List.all_reverse]
  have turnedTrimmed (line : List α) (b : β) (own : R line.reverse b) (inked : blank b = false) :
      R (line.dropWhile p).reverse b := by
    have kept := trimmed line.reverse b own inked
    rwa [List.rdropWhile_reverse] at kept
  have front := trimmedFront turnedSame turnedTrimmed turnedOver
  unfold trimBack
  rw [turned,List.rdropWhile,forall₂_reverse_iff,forall₂_map_left_iff]
  exact front

end
end PgLlmBatch.Base
