import PgLlmBatch.Base.JsonRecord
import PgLlmBatch.Exceptions

/-! The JSON texts of recovery evidence: one bounded reader and writer with a format for each
record type. `Codec` is what a reader and a writer of one type owe each other. -/
namespace PgLlmBatch
open Base
open Base.JsonText (loads dumpsAscii rawHooks uniqueHooks DumpStyle Small)

-- The interpreter with CPython's default limit for integer strings.
def stock (i : Interpreter) : Interpreter := {i with maxStrDigits := some 4300}

theorem stockAllows (i : Interpreter) {n : Nat} (few : n ≤ 4300) : JsonText.Interpreter.allows (stock i) n = true := by
  simpa [JsonText.Interpreter.allows,stock] using few

def maxEvidenceJsonBytes : Nat := 2048

def evidenceStyle : DumpStyle := ⟨true,true,true⟩

structure Codec {α : Type} (toJson : α → Except JsonError PyStr) (parse : PyStr → Except RecoveryError α)
    (denotes : PyStr → α → Prop) (own : RecoveryError → Prop) : Prop where
  roundTrip : ∀ x, ∃ text, toJson x = .ok text ∧ parse text = .ok x
  closed : ∀ raw e, parse raw = .error e → own e
  exact : ∀ raw x, parse raw = .ok x ↔ denotes raw x

structure EvidenceFormat (α : Type) where
  malformed : RecoveryError
  invalid : RecoveryError
  keys : List PyStr
  build : List (PyStr × Json) → Except RecoveryError α
  asDict : α → List (PyStr × Json)

namespace EvidenceFormat
variable {α : Type} (f : EvidenceFormat α) (i : Interpreter)

-- `frozenset(decoded) != keys`.
def sameKeys (decoded : List (PyStr × Json)) : Bool :=
  decoded.all (fun m => f.keys.contains m.1) && f.keys.all (fun k => decoded.any (fun m => m.1 == k))

def exactOne : Json → Bool
  | .int n => n == 1
  | _ => false

def decode (raw : PyStr) : Except RecoveryError (List (PyStr × Json)) :=
  match raw.encodeUtf8 with
  | none => .error f.malformed
  | some encoded =>
      if encoded.length = 0 ∨ maxEvidenceJsonBytes < encoded.length then .error f.malformed
      else match loads i uniqueHooks raw with
        | .error .refused => .error f.invalid
        | .error .outOfRange => .error .valueError
        | .error _ => .error f.malformed
        | .ok (.obj decoded) =>
            if f.sameKeys decoded = false then .error f.invalid
            else if exactOne (Json.get decoded (py "schema_version")) = false then .error f.invalid
            else .ok decoded
        | .ok _ => .error f.invalid

def parse (raw : PyStr) : Except RecoveryError α := do
  let decoded ← f.decode i raw
  f.build decoded

def toJson (x : α) : Except JsonError PyStr := dumpsAscii i evidenceStyle (.obj (f.asDict x))

def Denotes (raw : PyStr) (x : α) : Prop :=
  ∃ encoded members, raw.encodeUtf8 = some encoded ∧ 0 < encoded.length ∧ encoded.length ≤ maxEvidenceJsonBytes ∧
    loads i rawHooks raw = .ok (.obj members) ∧ members.Perm (f.asDict x)

structure Lawful (own : RecoveryError → Prop) : Prop where
  distinct : f.keys.Nodup
  few : f.keys.length ≤ 11
  names : ∀ k ∈ f.keys, k.length ≤ 36 ∧ k.all JsonText.graphic = true
  listed : ∀ x, (f.asDict x).map Prod.fst = f.keys
  version : ∀ x, f.asDict x = (py "schema_version",.int 1) :: (f.asDict x).tail
  small : ∀ x, ∀ m ∈ f.asDict x, Small 128 m.2
  built : ∀ decoded x, f.build decoded = .ok x ↔ ∀ m ∈ (f.asDict x).tail, Json.get decoded m.1 = m.2
  malformedOwn : own f.malformed
  invalidOwn : own f.invalid
  buildOwn : ∀ decoded e, f.build decoded = .error e → own e

variable {f i} {own : RecoveryError → Prop}

theorem sameKeysNames (decoded : List (PyStr × Json)) : f.sameKeys decoded = true ↔
    (∀ name ∈ decoded.map Prod.fst, name ∈ f.keys) ∧ ∀ k ∈ f.keys, k ∈ decoded.map Prod.fst := by
  simp [sameKeys]

theorem exactOneInt {j : Json} : exactOne j = true ↔ j = .int 1 := by
  cases j <;> simp [exactOne]

structure Decoded (f : EvidenceFormat α) (i : Interpreter) (raw : PyStr) (ms : List (PyStr × Json)) : Prop where
  sized : ∃ encoded, raw.encodeUtf8 = some encoded ∧ 0 < encoded.length ∧ encoded.length ≤ maxEvidenceJsonBytes
  loaded : loads i uniqueHooks raw = .ok (.obj ms)
  keys : f.sameKeys ms = true
  version : Json.get ms (py "schema_version") = .int 1

theorem decodeOk {raw : PyStr} {ms : List (PyStr × Json)} : f.decode i raw = .ok ms ↔ Decoded f i raw ms := by
  constructor
  · intro h
    unfold decode at h
    split at h
    · cases h
    rename_i encoded utf8
    split at h
    · cases h
    rename_i sized
    split at h
    · cases h
    · cases h
    · cases h
    · rename_i decoded loaded
      split at h
      · cases h
      rename_i keys
      split at h
      · cases h
      rename_i version
      cases h
      exact ⟨⟨encoded,utf8,by omega,by omega⟩,loaded,by simpa using keys,exactOneInt.mp (by simpa using version)⟩
    · cases h
  · rintro ⟨⟨encoded,utf8,some_,fits⟩,loaded,keys,version⟩
    unfold decode
    simp only [utf8,loaded,keys,exactOneInt.mpr version]
    rw [if_neg (by omega)]
    rfl

theorem decodeOwn (lawful : f.Lawful own) {raw : PyStr} {e : RecoveryError}
    (h : f.decode (stock i) raw = .error e) : own e := by
  unfold decode at h
  split at h
  · cases h
    exact lawful.malformedOwn
  rename_i encoded utf8
  split at h
  · cases h
    exact lawful.malformedOwn
  rename_i sized
  have short : raw.length ≤ 4300 := by
    have longer := JsonText.encodedLonger utf8
    have : maxEvidenceJsonBytes = 2048 := rfl
    omega
  split at h
  · cases h
    exact lawful.invalidOwn
  · rename_i limited
    exact absurd limited (JsonText.loadsInRange (fun n few => stockAllows i few) JsonText.uniqueInRange short)
  · cases h
    exact lawful.malformedOwn
  · split at h
    · cases h
      exact lawful.invalidOwn
    split at h
    · cases h
      exact lawful.invalidOwn
    · cases h
  · cases h
    exact lawful.invalidOwn

theorem smallFlat {bound : Nat} {j : Json} (small : Small bound j) : JsonText.scalar j = true := by
  cases small <;> rfl

theorem parseDenotes (lawful : f.Lawful own) {raw : PyStr} {x : α} : f.parse i raw = .ok x ↔ f.Denotes i raw x := by
  have distinct : ((f.asDict x).map Prod.fst).Nodup := by
    rw [lawful.listed]
    exact lawful.distinct
  constructor
  · intro h
    obtain ⟨ms,decoded,built⟩ := Fallible.bindOk.mp h
    obtain ⟨⟨encoded,utf8,some_,fits⟩,loaded,keys,version⟩ := decodeOk.mp decoded
    obtain ⟨within,present⟩ := (sameKeysNames ms).mp keys
    refine ⟨encoded,ms,utf8,some_,fits,JsonText.uniqueRaw loaded,
      JsonText.lookupsPerm (JsonText.uniqueDistinct loaded) distinct ?_ ?_ ?_⟩
    · rw [lawful.listed]
      exact within
    · intro m here
      refine present m.1 ?_
      rw [← lawful.listed x]
      exact List.mem_map_of_mem here
    · intro m here
      rw [lawful.version] at here
      rcases List.mem_cons.mp here with rfl | later
      · exact version
      · exact (lawful.built ms x).mp built m later
  · rintro ⟨encoded,ms,utf8,some_,fits,loaded,permuted⟩
    have each := permuted.map Prod.fst
    have unique : (ms.map Prod.fst).Nodup := each.nodup_iff.mpr distinct
    have read : ∀ m ∈ f.asDict x, Json.get ms m.1 = m.2 := fun m here =>
      (JsonText.lookupPerm unique permuted m.1).trans (JsonText.memberRead distinct here)
    have keys : f.sameKeys ms = true := by
      rw [sameKeysNames,← lawful.listed x]
      exact ⟨fun name => each.mem_iff.mp,fun name => each.mem_iff.mpr⟩
    have first : (py "schema_version",.int 1) ∈ f.asDict x := by
      rw [lawful.version x]
      exact List.mem_cons_self
    refine Fallible.bindOk.mpr ⟨ms,decodeOk.mpr ⟨⟨encoded,utf8,some_,fits⟩,?_,keys,read _ first⟩,
      (lawful.built ms x).mpr (fun m here => read m (List.mem_of_mem_tail here))⟩
    exact JsonText.flatUnique loaded unique (fun m here => smallFlat (lawful.small x m (permuted.mem_iff.mp here)))

theorem jsonDenotes (lawful : f.Lawful own) (x : α) :
    ∃ text, f.toJson (stock i) x = .ok text ∧ f.Denotes (stock i) text x := by
  have distinct : ((f.asDict x).map Prod.fst).Nodup := by
    rw [lawful.listed]
    exact lawful.distinct
  have names : ∀ m ∈ f.asDict x, m.1.length ≤ 36 ∧ m.1.all JsonText.graphic = true := by
    intro m here
    refine lawful.names m.1 ?_
    rw [← lawful.listed x]
    exact List.mem_map_of_mem here
  have count : (f.asDict x).length ≤ 11 := by
    rw [← List.length_map (f := Prod.fst),lawful.listed]
    exact lawful.few
  obtain ⟨text,ns,dumped,permuted,loaded,ascii,starts,short⟩ := @JsonText.recordWritten (stock i) evidenceStyle
    (f.asDict x) 36 128 (by decide) (fun n few => stockAllows i (by omega)) rfl rfl distinct names (lawful.small x)
  obtain ⟨bytes,utf8,same⟩ := JsonText.asciiEncoded ascii
  refine ⟨text,?_,bytes,ns,utf8,by omega,?_,loaded,permuted⟩
  · rw [toJson,dumpsAscii,dumped]
    exact congrArg Except.ok (JsonText.asciiKept ascii)
  · have : maxEvidenceJsonBytes = 2048 := rfl
    have room := Nat.mul_le_mul_right 170 count
    omega

theorem codec (lawful : f.Lawful own) :
    Codec (f.toJson (stock i)) (f.parse (stock i)) (f.Denotes (stock i)) own where
  roundTrip x := by
    obtain ⟨text,written,denotes⟩ := jsonDenotes lawful x
    exact ⟨text,written,(parseDenotes lawful).mpr denotes⟩
  closed raw e h := by
    unfold parse at h
    cases decoded : f.decode (stock i) raw with
    | error e' =>
      rw [decoded] at h
      cases h
      exact decodeOwn lawful decoded
    | ok ms =>
      rw [decoded] at h
      exact lawful.buildOwn ms e h
  exact raw x := parseDenotes lawful

end EvidenceFormat
end PgLlmBatch
