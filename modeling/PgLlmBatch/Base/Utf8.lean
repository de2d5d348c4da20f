import PgLlmBatch.Base.PyText

/-! The UTF-8 codec of Python text: what is encoded reads back, and only the encoding of a text
is read as that text. -/
namespace PgLlmBatch.Base

theorem byteLe (a b : UInt8) : (a ≤ b) = (a.toNat ≤ b.toNat) := propext UInt8.le_iff_toNat_le
theorem byteLt (a b : UInt8) : (a < b) = (a.toNat < b.toNat) := propext UInt8.lt_iff_toNat_lt
theorem byteSame (a b : UInt8) : (a == b) = decide (a.toNat = b.toNat) := by
  rw [Bool.beq_eq_decide_eq]
  exact decide_eq_decide.mpr UInt8.toNat_inj.symm

theorem byteOf {n : Nat} (small : n < 256) : (UInt8.ofNat n).toNat = n := by
  rw [UInt8.toNat_ofNat']
  exact Nat.mod_eq_of_lt small

namespace Utf8

def Tail (b : Nat) : Prop := 0x80 ≤ b ∧ b ≤ 0xBF

def Pair (a b : Nat) : Prop := 0xC2 ≤ a ∧ a ≤ 0xDF ∧ Tail b

def Second (a b : Nat) : Prop :=
  Tail b ∧ (a = 0xE0 → 0xA0 ≤ b) ∧ (a = 0xED → b ≤ 0x9F) ∧ (a = 0xF0 → 0x90 ≤ b) ∧ (a = 0xF4 → b ≤ 0x8F)

def Triple (a b c : Nat) : Prop := 0xE0 ≤ a ∧ a ≤ 0xEF ∧ Second a b ∧ Tail c

def Quad (a b c d : Nat) : Prop := 0xF0 ≤ a ∧ a ≤ 0xF4 ∧ Second a b ∧ Tail c ∧ Tail d

theorem tailValue {b : UInt8} : tail b = true ↔ Tail b.toNat := by
  simp only [tail,Tail,byteLe,Bool.and_eq_true,decide_eq_true_eq]
  rfl

theorem secondValue {a b : UInt8} : second a b = true ↔ Second a.toNat b.toNat := by
  simp only [second,Second,tail,Tail,byteLe,byteSame]
  simp only [UInt8.reduceToNat]
  split_ifs <;> simp_all <;> omega

inductive Denotes : Bytes → PyChar → Prop where
  | one {a : UInt8} {c : PyChar} (plain : a.toNat < 0x80) (value : c.val = a.toNat) : Denotes [a] c
  | two {a b : UInt8} {c : PyChar} (shape : Pair a.toNat b.toNat)
      (value : c.val = (a.toNat - 0xC0) * 0x40 + (b.toNat - 0x80)) : Denotes [a,b] c
  | three {a b d : UInt8} {c : PyChar} (shape : Triple a.toNat b.toNat d.toNat)
      (value : c.val = (a.toNat - 0xE0) * 0x1000 + (b.toNat - 0x80) * 0x40 + (d.toNat - 0x80)) : Denotes [a,b,d] c
  | four {a b d e : UInt8} {c : PyChar} (shape : Quad a.toNat b.toNat d.toNat e.toNat)
      (value : c.val = (a.toNat - 0xF0) * 0x40000 + (b.toNat - 0x80) * 0x1000 + (d.toNat - 0x80) * 0x40 +
        (e.toNat - 0x80)) : Denotes [a,b,d,e] c

theorem encodedDenotes {c : PyChar} {head : Bytes} (h : c.utf8 = some head) : Denotes head c := by
  have top := c.isLt
  unfold PyChar.utf8 PyChar.surrogate at h
  dsimp only at h
  split at h
  · rename_i small
    cases h
    have a := @byteOf c.val (by omega)
    exact .one (by rw [a]; exact small) a.symm
  split at h
  · rename_i big small
    cases h
    have a := @byteOf (0xC0 + c.val / 0x40) (by omega)
    have b := @byteOf (0x80 + c.val % 0x40) (by omega)
    refine .two ?_ ?_
    · rw [a,b,Pair,Tail]
      omega
    · rw [a,b]
      omega
  split at h
  · cases h
  rename_i two scalar
  simp only [Bool.and_eq_true,decide_eq_true_eq,not_and,not_le] at scalar
  split at h
  · rename_i small
    cases h
    have a := @byteOf (0xE0 + c.val / 0x1000) (by omega)
    have b := @byteOf (0x80 + c.val / 0x40 % 0x40) (by omega)
    have d := @byteOf (0x80 + c.val % 0x40) (by omega)
    refine .three ?_ ?_
    · rw [a,b,d,Triple,Second,Tail,Tail]
      omega
    · rw [a,b,d]
      omega
  · rename_i big
    cases h
    have a := @byteOf (0xF0 + c.val / 0x40000) (by omega)
    have b := @byteOf (0x80 + c.val / 0x1000 % 0x40) (by omega)
    have d := @byteOf (0x80 + c.val / 0x40 % 0x40) (by omega)
    have e := @byteOf (0x80 + c.val % 0x40) (by omega)
    refine .four ?_ ?_
    · rw [a,b,d,e,Quad,Second,Tail,Tail,Tail]
      omega
    · rw [a,b,d,e]
      omega

theorem byteIs {n : Nat} {a : UInt8} (same : n = a.toNat) : UInt8.ofNat n = a := by
  rw [same]
  exact UInt8.ofNat_toNat

theorem denotesEncoded {c : PyChar} {head : Bytes} (h : Denotes head c) : c.utf8 = some head := by
  unfold PyChar.utf8 PyChar.surrogate
  dsimp only
  cases h with
  | one plain value => rw [if_pos (by omega),byteIs value]
  | @two a b _ shape value =>
    rw [Pair,Tail] at shape
    rw [if_neg (by omega),if_pos (by omega),@byteIs _ a (by omega),@byteIs _ b (by omega)]
  | @three a b d _ shape value =>
    rw [Triple,Second,Tail,Tail] at shape
    have scalar : ¬(decide (0xD800 ≤ c.val) && decide (c.val ≤ 0xDFFF)) = true := by
      simp only [Bool.and_eq_true,decide_eq_true_eq]
      omega
    rw [if_neg (by omega),if_neg (by omega),if_neg scalar,if_pos (by omega),@byteIs _ a (by omega),
      @byteIs _ b (by omega),@byteIs _ d (by omega)]
  | @four a b d e _ shape value =>
    rw [Quad,Second,Tail,Tail,Tail] at shape
    have scalar : ¬(decide (0xD800 ≤ c.val) && decide (c.val ≤ 0xDFFF)) = true := by
      simp only [Bool.and_eq_true,decide_eq_true_eq]
      omega
    rw [if_neg (by omega),if_neg (by omega),if_neg scalar,if_neg (by omega),@byteIs _ a (by omega),
      @byteIs _ b (by omega),@byteIs _ d (by omega),@byteIs _ e (by omega)]

theorem charIs {c : PyChar} {n : Nat} (same : c.val = n) : (Fin.ofNat 0x110000 n : PyChar) = c := by
  rw [← same]
  exact Fin.ext (Nat.mod_eq_of_lt c.isLt)

theorem valueOf {n : Nat} (small : n < 0x110000) : (Fin.ofNat 0x110000 n : PyChar).val = n := Nat.mod_eq_of_lt small

theorem notPlain {a : UInt8} (wide : 0x80 ≤ a.toNat) : ¬a < 0x80 := by
  rw [byteLt]
  exact not_lt.mpr wide

theorem inRange {low high a : UInt8} : (decide (low ≤ a) && decide (a ≤ high)) = true ↔
    low.toNat ≤ a.toNat ∧ a.toNat ≤ high.toNat := by
  simp only [byteLe,Bool.and_eq_true,decide_eq_true_eq]

theorem decodeDenotes {c : PyChar} {head : Bytes} (h : Denotes head c) (rest : Bytes) :
    decodeOne (head ++ rest) = some (c,rest) := by
  cases h with
  | one plain value =>
    rw [List.singleton_append]
    unfold decodeOne
    dsimp only
    rw [if_pos (by rw [byteLt]; exact plain),charIs value]
  | @two a b c shape value =>
    obtain ⟨low,high,second_⟩ := shape
    simp only [List.cons_append,List.nil_append]
    unfold decodeOne
    dsimp only
    rw [if_neg (notPlain (le_trans (by decide) low))]
    have two : (decide (0xC2 ≤ a) && decide (a ≤ 0xDF) && tail b) = true := by
      rw [Bool.and_eq_true]
      exact ⟨inRange.mpr ⟨low,high⟩,tailValue.mpr second_⟩
    rw [if_pos two,charIs value]
  | @three a b d c shape value =>
    obtain ⟨low,high,second_,third⟩ := shape
    simp only [List.cons_append,List.nil_append]
    unfold decodeOne
    dsimp only
    have three : (decide (0xE0 ≤ a) && decide (a ≤ 0xEF) && second a b && tail d) = true := by
      rw [Bool.and_eq_true,Bool.and_eq_true]
      exact ⟨⟨inRange.mpr ⟨low,high⟩,secondValue.mpr second_⟩,tailValue.mpr third⟩
    have two : ¬(decide (0xC2 ≤ a) && decide (a ≤ 0xDF) && tail b) = true := by
      rw [Bool.and_eq_true,inRange]
      exact fun pair => absurd (le_trans low pair.1.2) (by decide)
    rw [if_neg (notPlain (le_trans (by decide) low))]
    rw [if_neg two]
    rw [if_pos three,charIs value]
  | @four a b d e c shape value =>
    obtain ⟨low,high,second_,third,fourth⟩ := shape
    simp only [List.cons_append,List.nil_append]
    unfold decodeOne
    dsimp only
    have four : (decide (0xF0 ≤ a) && decide (a ≤ 0xF4) && second a b && tail d && tail e) = true := by
      rw [Bool.and_eq_true,Bool.and_eq_true,Bool.and_eq_true]
      exact ⟨⟨⟨inRange.mpr ⟨low,high⟩,secondValue.mpr second_⟩,tailValue.mpr third⟩,tailValue.mpr fourth⟩
    have two : ¬(decide (0xC2 ≤ a) && decide (a ≤ 0xDF) && tail b) = true := by
      rw [Bool.and_eq_true,inRange]
      exact fun pair => absurd (le_trans low pair.1.2) (by decide)
    have three : ¬(decide (0xE0 ≤ a) && decide (a ≤ 0xEF) && second a b && tail d) = true := by
      rw [Bool.and_eq_true,Bool.and_eq_true,inRange]
      exact fun triple => absurd (le_trans low triple.1.1.2) (by decide)
    rw [if_neg (notPlain (le_trans (by decide) low))]
    rw [if_neg two]
    rw [if_neg three]
    rw [if_pos four,charIs value]

theorem decodedDenotes {bs : Bytes} {c : PyChar} {rest : Bytes} (h : decodeOne bs = some (c,rest)) :
    ∃ head, bs = head ++ rest ∧ Denotes head c := by
  cases bs with
  | nil => cases h
  | cons a as =>
    unfold decodeOne at h
    dsimp only at h
    split at h
    · rename_i plain
      cases h
      rw [byteLt] at plain
      exact ⟨[a],rfl,.one plain (valueOf (lt_trans plain (by decide)))⟩
    cases as with
    | nil => cases h
    | cons b bs =>
      dsimp only at h
      split at h
      · rename_i pair
        obtain ⟨rfl,rfl⟩ := Prod.mk.inj (Option.some.inj h)
        rw [Bool.and_eq_true,inRange,tailValue] at pair
        have shape : Pair a.toNat b.toNat := ⟨pair.1.1,pair.1.2,pair.2⟩
        refine ⟨[a,b],rfl,.two shape (valueOf ?_)⟩
        rw [Pair,Tail] at shape
        omega
      cases bs with
      | nil => cases h
      | cons d ds =>
        dsimp only at h
        split at h
        · rename_i triple
          obtain ⟨rfl,rfl⟩ := Prod.mk.inj (Option.some.inj h)
          rw [Bool.and_eq_true,Bool.and_eq_true,inRange,secondValue,tailValue] at triple
          have shape : Triple a.toNat b.toNat d.toNat := ⟨triple.1.1.1,triple.1.1.2,triple.1.2,triple.2⟩
          refine ⟨[a,b,d],rfl,.three shape (valueOf ?_)⟩
          rw [Triple,Second,Tail,Tail] at shape
          omega
        cases ds with
        | nil => cases h
        | cons e es =>
          dsimp only at h
          split at h
          · rename_i quad
            obtain ⟨rfl,rfl⟩ := Prod.mk.inj (Option.some.inj h)
            rw [Bool.and_eq_true,Bool.and_eq_true,Bool.and_eq_true,inRange,secondValue,tailValue,tailValue] at quad
            have shape : Quad a.toNat b.toNat d.toNat e.toNat :=
              ⟨quad.1.1.1.1,quad.1.1.1.2,quad.1.1.2,quad.1.2,quad.2⟩
            refine ⟨[a,b,d,e],rfl,.four shape (valueOf ?_)⟩
            rw [Quad,Second,Tail,Tail,Tail] at shape
            omega
          · cases h

end Utf8

open Utf8

theorem headSome {c : PyChar} {head : Bytes} (h : c.utf8 = some head) : 0 < head.length := by
  cases encodedDenotes h <;> exact Nat.succ_pos _

theorem encodedFront {c : PyChar} {head : Bytes} (h : c.utf8 = some head) (rest : Bytes) :
    decodeOne (head ++ rest) = some (c,rest) := decodeDenotes (encodedDenotes h) rest

theorem decodeFromEncoded {s : PyStr} {bytes : Bytes} (h : s.encodeUtf8 = some bytes) {n : Nat}
    (enough : bytes.length ≤ n) (start : Nat) : decodeFrom n start bytes = .ok s := by
  induction s generalizing bytes n start with
  | nil =>
    cases Option.some.inj h
    cases n <;> rfl
  | cons c s ih =>
    simp only [PyStr.encodeUtf8,Option.bind_eq_bind,Option.bind_eq_some_iff] at h
    obtain ⟨head,one,tail,others,made⟩ := h
    cases Option.some.inj made
    have some_ := headSome one
    rw [List.length_append] at enough
    obtain ⟨k,rfl⟩ := Nat.exists_eq_succ_of_ne_zero (show n ≠ 0 by omega)
    obtain ⟨b,bs,cut⟩ := List.exists_cons_of_length_pos some_
    have front := encodedFront one tail
    have later := @ih tail others k (by omega) (start + ((head ++ tail).length - tail.length))
    rw [cut,List.cons_append] at front later ⊢
    rw [decodeFrom.eq_def]
    dsimp only
    rw [front]
    dsimp only
    rw [later]
    rfl

theorem decodeEncoded {s : PyStr} {bytes : Bytes} (h : s.encodeUtf8 = some bytes) : decodeUtf8 bytes = .ok s :=
  decodeFromEncoded h (Nat.le_refl _) 0

theorem encodeInjective {s t : PyStr} {bytes : Bytes} (first : s.encodeUtf8 = some bytes)
    (second : t.encodeUtf8 = some bytes) : s = t :=
  Except.ok.inj ((decodeEncoded first).symm.trans (decodeEncoded second))

theorem encodeDecodedFrom {n start : Nat} {bytes : Bytes} {s : PyStr} (h : decodeFrom n start bytes = .ok s) :
    s.encodeUtf8 = some bytes := by
  induction n generalizing start bytes s with
  | zero =>
    cases bytes with
    | nil =>
      cases h
      rfl
    | cons b bs => cases h
  | succ n ih =>
    cases bytes with
    | nil =>
      cases h
      rfl
    | cons b bs =>
      rw [decodeFrom.eq_def] at h
      dsimp only at h
      cases one : decodeOne (b::bs) with
      | none =>
        rw [one] at h
        cases h
      | some front =>
        obtain ⟨c,rest⟩ := front
        rw [one] at h
        dsimp only at h
        cases others : decodeFrom n (start + ((b::bs).length - rest.length)) rest with
        | error e =>
          rw [others] at h
          cases h
        | ok t =>
          rw [others] at h
          cases h
          obtain ⟨head,cut,denotes⟩ := decodedDenotes one
          simp only [PyStr.encodeUtf8,denotesEncoded denotes,ih others,Option.bind_eq_bind,Option.bind_some,cut]

theorem encodeDecoded {bytes : Bytes} {s : PyStr} (h : decodeUtf8 bytes = .ok s) : s.encodeUtf8 = some bytes :=
  encodeDecodedFrom h

theorem decodedIff {bytes : Bytes} {s : PyStr} : decodeUtf8 bytes = .ok s ↔ s.encodeUtf8 = some bytes :=
  ⟨encodeDecoded,decodeEncoded⟩

theorem encodedMember {s : PyStr} {bytes : Bytes} (h : s.encodeUtf8 = some bytes) {c : PyChar} (here : c ∈ s) {head : Bytes}
    (own : c.utf8 = some head) : head ⊆ bytes := by
  induction s generalizing bytes with
  | nil => cases here
  | cons d s ih =>
    simp only [PyStr.encodeUtf8,Option.bind_eq_bind,Option.bind_eq_some_iff] at h
    obtain ⟨front,one,rest,others,made⟩ := h
    cases Option.some.inj made
    rcases List.mem_cons.mp here with rfl | later
    · rw [own] at one
      cases one
      exact List.subset_append_left _ _
    · exact List.subset_append_of_subset_right _ (ih others later)

end PgLlmBatch.Base
