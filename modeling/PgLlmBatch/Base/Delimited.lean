import PgLlmBatch.Base.Sha256
import PgLlmBatch.Base.Utf8

/-! Encodings that show where they end. `W a x` says that `a` is written as `x`; what follows a
delimited text is told apart from it, so a list of such texts is read back one by one. -/
namespace PgLlmBatch.Base
variable {α β : Type}

def Delimited (W : α → Bytes → Prop) : Prop :=
  ∀ ⦃a b x y s t⦄, W a x → W b y → x ++ s = y ++ t → a = b ∧ x = y ∧ s = t

def Faithful (W : α → Bytes → Prop) : Prop := ∀ ⦃a b x⦄, W a x → W b x → a = b

theorem fixedDelimited {W : α → Bytes → Prop} {n : Nat} (width : ∀ ⦃a x⦄, W a x → x.length = n) (faithful : Faithful W) :
    Delimited W := by
  intro a b x y s t first second same
  obtain ⟨rfl,rest⟩ := List.append_inj same ((width first).trans (width second).symm)
  exact ⟨faithful first second,rfl,rest⟩

theorem delimitedFaithful {W : α → Bytes → Prop} (delimited : Delimited W) : Faithful W :=
  fun _ _ _ first second => (delimited (s := []) (t := []) first second rfl).1

def Consecutive (W : α → Bytes → Prop) (V : β → Bytes → Prop) (p : α × β) (z : Bytes) : Prop :=
  ∃ x y, W p.1 x ∧ V p.2 y ∧ z = x ++ y

theorem joinedDelimited {W : α → Bytes → Prop} {V : β → Bytes → Prop} (first : Delimited W) (second : Delimited V) :
    Delimited (Consecutive W V) := by
  rintro ⟨a,b⟩ ⟨a',b'⟩ z z' s t ⟨x,y,wa,vb,rfl⟩ ⟨x',y',wa',vb',rfl⟩ same
  rw [List.append_assoc,List.append_assoc] at same
  obtain ⟨rfl,rfl,rest⟩ := first wa wa' same
  obtain ⟨rfl,rfl,after⟩ := second vb vb' rest
  exact ⟨rfl,rfl,after⟩

theorem bigEndianRead {width n : Nat} (small : n < 256 ^ width) : natOfBigEndian (bigEndian width n) = n := by
  induction width generalizing n with
  | zero =>
    rw [Nat.pow_zero] at small
    exact (Nat.lt_one_iff.mp small).symm
  | succ width ih =>
    rw [Nat.pow_succ] at small
    have upper : n / 256 < 256 ^ width := Nat.div_lt_of_lt_mul (by omega)
    have before := ih upper
    unfold natOfBigEndian at before ⊢
    rw [bigEndian,List.foldl_append,before]
    simp only [List.foldl_cons,List.foldl_nil]
    rw [byteOf (Nat.mod_lt n (by decide))]
    omega

def Numbered (width : Nat) (n : Nat) (x : Bytes) : Prop := n < 256 ^ width ∧ x = bigEndian width n

theorem numberedDelimited (width : Nat) : Delimited (Numbered width) := by
  refine fixedDelimited (n := width) ?_ ?_
  · rintro n x ⟨-,rfl⟩
    exact bigEndianLength width n
  · rintro n m x ⟨small,rfl⟩ ⟨other,same⟩
    rw [← bigEndianRead small,same,bigEndianRead other]

def Counted (width : Nat) (payload x : Bytes) : Prop :=
  ∃ count, Numbered width payload.length count ∧ x = count ++ payload

theorem countedDelimited (width : Nat) : Delimited (Counted width) := by
  rintro p q x y s t ⟨count,number,rfl⟩ ⟨count',number',rfl⟩ same
  rw [List.append_assoc,List.append_assoc] at same
  obtain ⟨long,rfl,rest⟩ := numberedDelimited width number number' same
  obtain ⟨rfl,after⟩ := List.append_inj rest long
  exact ⟨rfl,rfl,after⟩

inductive Written (W : α → Bytes → Prop) : List α → Bytes → Prop where
  | nil : Written W [] []
  | cons {a : α} {as : List α} {x xs : Bytes} (first : W a x) (rest : Written W as xs) : Written W (a::as) (x ++ xs)

theorem writtenPrefix {W : α → Bytes → Prop} (delimited : Delimited W) (some_ : ∀ ⦃a x⦄, W a x → x ≠ [])
    {as bs : List α} {xs ys s : Bytes} (first : Written W as xs) (second : Written W bs ys) (same : xs ++ s = ys) :
    ∃ more, bs = as ++ more ∧ Written W more s := by
  induction first generalizing bs ys with
  | nil =>
    rw [List.nil_append] at same
    exact ⟨bs,rfl,same ▸ second⟩
  | @cons a as x xs own rest ih =>
    cases second with
    | nil =>
      rw [List.append_assoc] at same
      exact absurd (List.append_eq_nil_iff.mp same).1 (some_ own)
    | @cons b bs y ys other later =>
      rw [List.append_assoc] at same
      obtain ⟨rfl,-,after⟩ := delimited own other same
      obtain ⟨more,rfl,tail⟩ := ih later after
      exact ⟨more,rfl,tail⟩

theorem writtenFaithful {W : α → Bytes → Prop} (delimited : Delimited W) (some_ : ∀ ⦃a x⦄, W a x → x ≠ []) :
    Faithful (Written W) := by
  intro as bs xs first second
  obtain ⟨more,rfl,nothing⟩ := writtenPrefix delimited some_ first second (List.append_nil xs)
  cases more with
  | nil => exact (List.append_nil as).symm
  | cons b bs =>
    generalize none_ : ([] : Bytes) = z at nothing
    cases nothing with
    | cons own rest => exact absurd (List.append_eq_nil_iff.mp none_.symm).1 (some_ own)

end PgLlmBatch.Base
