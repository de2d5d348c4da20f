import Mathlib

/-! A table as the list of its rows, with a unique key: lookup, writing a row, and the part
of the table that a row policy shows. -/
namespace PgLlmBatch.Base.Table

section
variable {Row Key : Type} [DecidableEq Key] (key : Row → Key)

def find (rows : List Row) (k : Key) : Option Row := rows.find? (fun r => decide (key r = k))

def put (row : Row) : List Row → List Row
  | [] => [row]
  | r::rows => if key r = key row then row::rows else r::put row rows

def shown (policy : Key → Bool) (rows : List Row) : List Row := rows.filter (fun r => policy (key r))

variable {key}

theorem findKey {rows : List Row} {k : Key} {row : Row} (h : find key rows k = some row) : key row = k := by
  simpa using List.find?_some h

theorem findMember {rows : List Row} {k : Key} {row : Row} (h : find key rows k = some row) : row ∈ rows :=
  List.mem_of_find?_eq_some h

@[simp] theorem findNil (k : Key) : find key ([] : List Row) k = none := rfl

theorem findCons (r : Row) (rows : List Row) (k : Key) :
    find key (r::rows) k = if key r = k then some r else find key rows k := by
  simp only [find,List.find?_cons]
  split <;> simp_all

theorem findPut (row : Row) (rows : List Row) (k : Key) :
    find key (put key row rows) k = if key row = k then some row else find key rows k := by
  induction rows with
  | nil => simp [put,findCons]
  | cons r rows ih =>
    unfold put
    split
    · rename_i same
      simp only [findCons,same]
      split <;> rfl
    · rename_i other
      simp only [findCons,ih]
      split
      · rename_i here
        have elsewhere : key row ≠ k := fun same => other (here.trans same.symm)
        simp [elsewhere]
      · rfl

omit [DecidableEq Key] in
theorem shownCons (policy : Key → Bool) (r : Row) (rows : List Row) :
    shown key policy (r::rows) = if policy (key r) then r::shown key policy rows else shown key policy rows := by
  simp only [shown,List.filter_cons]

theorem putCons (row r : Row) (rows : List Row) :
    put key row (r::rows) = if key r = key row then row::rows else r::put key row rows := rfl

theorem shownPut (policy : Key → Bool) (row : Row) (rows : List Row) :
    shown key policy (put key row rows) =
      if policy (key row) then put key row (shown key policy rows) else shown key policy rows := by
  induction rows with
  | nil => exact shownCons policy row []
  | cons r rows ih =>
    rw [putCons,shownCons]
    split
    · rename_i same
      rw [shownCons,same]
      split
      · rw [putCons,if_pos same]
      · rfl
    · rename_i other
      rw [shownCons,ih]
      split
      · split
        · rw [putCons,if_neg other]
        · rfl
      · rfl

def putAll (key : Row → Key) (new rows : List Row) : List Row := new.foldl (fun all row => put key row all) rows

@[simp] theorem putAllNil (rows : List Row) : putAll key [] rows = rows := rfl
theorem putAllCons (row : Row) (new rows : List Row) :
    putAll key (row::new) rows = putAll key new (put key row rows) := rfl
theorem findPutAllAway {new : List Row} {k : Key} (away : ∀ r ∈ new, key r ≠ k) (rows : List Row) :
    find key (putAll key new rows) k = find key rows k := by
  induction new generalizing rows with
  | nil => rfl
  | cons row new ih =>
    rw [putAllCons,ih (fun r here => away r (List.mem_cons_of_mem _ here)),findPut,
      if_neg (away row List.mem_cons_self)]

theorem findPutAll {new : List Row} (distinct : (new.map key).Nodup) {row : Row} (here : row ∈ new) (rows : List Row) :
    find key (putAll key new rows) (key row) = some row := by
  induction new generalizing rows with
  | nil => cases here
  | cons first new ih =>
    rw [List.map_cons,List.nodup_cons] at distinct
    rw [putAllCons]
    rcases List.mem_cons.mp here with rfl | later
    · have away : ∀ r ∈ new, key r ≠ key row := by
        intro r member same
        exact distinct.1 (same ▸ List.mem_map_of_mem member)
      rw [findPutAllAway away,findPut,if_pos rfl]
    · exact ih distinct.2 later _

theorem findPutAllCases (new rows : List Row) (k : Key) :
    (∃ row ∈ new, key row = k ∧ find key (putAll key new rows) k = some row) ∨
      (∀ r ∈ new, key r ≠ k) ∧ find key (putAll key new rows) k = find key rows k := by
  induction new generalizing rows with
  | nil => exact Or.inr ⟨by simp,rfl⟩
  | cons first new ih =>
    rw [putAllCons]
    rcases ih (put key first rows) with ⟨row,member,same,found⟩ | ⟨away,found⟩
    · exact Or.inl ⟨row,List.mem_cons_of_mem _ member,same,found⟩
    · rw [findPut] at found
      split at found
      · rename_i here
        exact Or.inl ⟨first,List.mem_cons_self,here,found⟩
      · rename_i apart
        exact Or.inr ⟨List.forall_mem_cons.mpr ⟨apart,away⟩,found⟩

theorem memPut {row r : Row} {rows : List Row} (h : r ∈ put key row rows) : r = row ∨ r ∈ rows := by
  induction rows with
  | nil => exact Or.inl (List.mem_singleton.mp h)
  | cons first rows ih =>
    rw [putCons] at h
    split at h
    · rcases List.mem_cons.mp h with new | old
      · exact Or.inl new
      · exact Or.inr (List.mem_cons_of_mem _ old)
    · rcases List.mem_cons.mp h with old | rest
      · exact Or.inr (old ▸ List.mem_cons_self)
      · rcases ih rest with new | old
        · exact Or.inl new
        · exact Or.inr (List.mem_cons_of_mem _ old)

theorem memPutAll {new rows : List Row} {r : Row} (h : r ∈ putAll key new rows) : r ∈ new ∨ r ∈ rows := by
  induction new generalizing rows with
  | nil => exact Or.inr h
  | cons first new ih =>
    rcases ih h with late | early
    · exact Or.inl (List.mem_cons_of_mem _ late)
    · rcases memPut early with here | old
      · exact Or.inl (here ▸ List.mem_cons_self)
      · exact Or.inr old

theorem mapPut (row : Row) (rows : List Row) :
    (put key row rows).map key = if key row ∈ rows.map key then rows.map key else rows.map key ++ [key row] := by
  induction rows with
  | nil => rfl
  | cons r rows ih =>
    rw [putCons]
    split
    · rename_i same
      simp [same]
    · rename_i other
      have apart : key row ≠ key r := fun same => other same.symm
      simp only [List.map_cons,ih,List.mem_cons,apart,false_or]
      split <;> rfl

theorem putDistinct (row : Row) {rows : List Row} (distinct : (rows.map key).Nodup) :
    ((put key row rows).map key).Nodup := by
  rw [mapPut]
  split
  · exact distinct
  · rename_i fresh
    exact List.nodup_append.mpr ⟨distinct,by simp,fun a here b single same => fresh (by
      rw [List.mem_singleton.mp single] at same
      exact same ▸ here)⟩

theorem putAllDistinct (new : List Row) {rows : List Row} (distinct : (rows.map key).Nodup) :
    ((putAll key new rows).map key).Nodup := by
  induction new generalizing rows with
  | nil => exact distinct
  | cons row new ih => exact ih (putDistinct row distinct)

theorem findMine {rows : List Row} (distinct : (rows.map key).Nodup) {row : Row} (here : row ∈ rows) :
    find key rows (key row) = some row := by
  induction rows with
  | nil => cases here
  | cons r rows ih =>
    rw [List.map_cons,List.nodup_cons] at distinct
    rw [findCons]
    rcases List.mem_cons.mp here with rfl | later
    · rw [if_pos rfl]
    · have apart : key r ≠ key row := by
        intro same
        exact distinct.1 (same ▸ List.mem_map_of_mem later)
      rw [if_neg apart,ih distinct.2 later]

theorem findNone {rows : List Row} {k : Key} : find key rows k = none ↔ ∀ r ∈ rows, key r ≠ k := by
  simp [find,List.find?_eq_none]

theorem findShown {policy : Key → Bool} {k : Key} (seen : policy k = true) (rows : List Row) :
    find key (shown key policy rows) k = find key rows k := by
  induction rows with
  | nil => rfl
  | cons r rows ih =>
    rw [shownCons,findCons]
    split
    · rw [findCons,ih]
    · rename_i hidden
      have other : key r ≠ k := by
        rintro rfl
        exact hidden seen
      rw [if_neg other,ih]

end
end PgLlmBatch.Base.Table
