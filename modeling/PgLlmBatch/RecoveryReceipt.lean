import PgLlmBatch.EvidenceJson

/-! Recovery receipts: content-free integrity metadata of one backup. A receipt is a record
of fields that the dataclass check accepts, each of its exact built-in type. -/
namespace PgLlmBatch
open Base
open Base.JsonText (Matching Within Small readText readInteger)

def maxSignedBigint : Int := 2 ^ 63 - 1

def hexPattern (digits : Nat) (s : PyStr) : Bool :=
  s.length == digits && s.all (fun c => c.digit || (0x61 ≤ c.val && c.val ≤ 0x66))

def versionCharacter (c : PyChar) : Bool :=
  c.alphanumeric || c == chr '.' || c == chr '!' || c == chr '+' || c == chr '_' || c == chr '-'

def versionPattern : PyStr → Bool
  | [] => false
  | c::s => c.alphanumeric && s.length ≤ 127 && s.all versionCharacter

def backupMethods : List PyStr := [py "logical",py "physical",py "pitr"]

structure PostgresRecoveryReceipt where
  packageVersion : Matching versionPattern
  sourceCommit : Matching (hexPattern 40)
  postgresMajor : Within 1 99
  schemaSha256 : Matching (hexPattern 64)
  backupMethod : Matching backupMethods.contains
  backupSha256 : Matching (hexPattern 64)
  backupSizeBytes : Within 1 maxSignedBigint
  startedAtEpoch : Within 0 maxSignedBigint
  completedAtEpoch : Within 0 maxSignedBigint
  ordered : startedAtEpoch.1 ≤ completedAtEpoch.1

namespace PostgresRecoveryReceipt

def keys : List PyStr := [py "schema_version",py "package_version",py "source_commit",py "postgres_major",
  py "schema_sha256",py "backup_method",py "backup_sha256",py "backup_size_bytes",py "started_at_epoch",
  py "completed_at_epoch"]

def postInit (packageVersion sourceCommit postgresMajor schemaSha256 backupMethod backupSha256 backupSizeBytes
    startedAtEpoch completedAtEpoch : Json) : Option PostgresRecoveryReceipt := do
  let packageVersion ← readText versionPattern packageVersion
  let sourceCommit ← readText (hexPattern 40) sourceCommit
  let postgresMajor ← readInteger 1 99 postgresMajor
  let schemaSha256 ← readText (hexPattern 64) schemaSha256
  let backupMethod ← readText backupMethods.contains backupMethod
  let backupSha256 ← readText (hexPattern 64) backupSha256
  let backupSizeBytes ← readInteger 1 maxSignedBigint backupSizeBytes
  let startedAtEpoch ← readInteger 0 maxSignedBigint startedAtEpoch
  let completedAtEpoch ← readInteger 0 maxSignedBigint completedAtEpoch
  if ordered : startedAtEpoch.1 ≤ completedAtEpoch.1 then
    some ⟨packageVersion,sourceCommit,postgresMajor,schemaSha256,backupMethod,backupSha256,backupSizeBytes,
      startedAtEpoch,completedAtEpoch,ordered⟩
  else none

def new (packageVersion sourceCommit postgresMajor schemaSha256 backupMethod backupSha256 backupSizeBytes
    startedAtEpoch completedAtEpoch : Json) : Except RecoveryError PostgresRecoveryReceipt :=
  match postInit packageVersion sourceCommit postgresMajor schemaSha256 backupMethod backupSha256 backupSizeBytes
    startedAtEpoch completedAtEpoch with
  | some receipt => .ok receipt
  | none => .error (.receipt "invalid PostgreSQL recovery receipt metadata")

def asDict (r : PostgresRecoveryReceipt) : List (PyStr × Json) :=
  [(py "schema_version",.int 1),
    (py "package_version",.str r.packageVersion.1),
    (py "source_commit",.str r.sourceCommit.1),
    (py "postgres_major",.int r.postgresMajor.1),
    (py "schema_sha256",.str r.schemaSha256.1),
    (py "backup_method",.str r.backupMethod.1),
    (py "backup_sha256",.str r.backupSha256.1),
    (py "backup_size_bytes",.int r.backupSizeBytes.1),
    (py "started_at_epoch",.int r.startedAtEpoch.1),
    (py "completed_at_epoch",.int r.completedAtEpoch.1)]

theorem postInitSome {version commit major schema method backup size started completed : Json}
    {r : PostgresRecoveryReceipt} :
    postInit version commit major schema method backup size started completed = some r ↔
      version = .str r.packageVersion.1 ∧ commit = .str r.sourceCommit.1 ∧ major = .int r.postgresMajor.1 ∧
      schema = .str r.schemaSha256.1 ∧ method = .str r.backupMethod.1 ∧ backup = .str r.backupSha256.1 ∧
      size = .int r.backupSizeBytes.1 ∧ started = .int r.startedAtEpoch.1 ∧ completed = .int r.completedAtEpoch.1 := by
  unfold postInit
  simp only [bind,Option.bind_eq_some_iff,JsonText.textRead,JsonText.integerRead]
  constructor
  · rintro ⟨version,versionIs,commit,commitIs,major,majorIs,schema,schemaIs,method,methodIs,backup,backupIs,
      size,sizeIs,started,startedIs,completed,completedIs,built⟩
    split at built
    · cases built
      exact ⟨versionIs,commitIs,majorIs,schemaIs,methodIs,backupIs,sizeIs,startedIs,completedIs⟩
    · cases built
  · rintro ⟨version,commit,major,schema,method,backup,size,started,completed⟩
    refine ⟨_,version,_,commit,_,major,_,schema,_,method,_,backup,_,size,_,started,_,completed,?_⟩
    rw [dif_pos r.ordered]

theorem newOk {version commit major schema method backup size started completed : Json} {r : PostgresRecoveryReceipt} :
    new version commit major schema method backup size started completed = .ok r ↔
      postInit version commit major schema method backup size started completed = some r := by
  unfold new
  split
  · rename_i receipt built
    rw [built,Except.ok.injEq,Option.some.injEq]
  · rename_i none_
    simp [none_]

def format : EvidenceFormat PostgresRecoveryReceipt where
  malformed := .receipt "invalid PostgreSQL recovery receipt JSON"
  invalid := .receipt "invalid PostgreSQL recovery receipt schema"
  keys := keys
  build decoded := new (Json.get decoded (py "package_version")) (Json.get decoded (py "source_commit"))
    (Json.get decoded (py "postgres_major")) (Json.get decoded (py "schema_sha256"))
    (Json.get decoded (py "backup_method")) (Json.get decoded (py "backup_sha256"))
    (Json.get decoded (py "backup_size_bytes")) (Json.get decoded (py "started_at_epoch"))
    (Json.get decoded (py "completed_at_epoch"))
  asDict := asDict

def toJson (i : Interpreter) (r : PostgresRecoveryReceipt) : Except JsonError PyStr := format.toJson i r

def Own (e : RecoveryError) : Prop := ∃ message, e = .receipt message

theorem bigintShort {low high : Int} (from_ : 0 ≤ low) (under : high ≤ maxSignedBigint) (n : Within low high) :
    Small 128 (.int n.1) := by
  obtain ⟨n,above,below⟩ := n
  have bound : n.natAbs < 10 ^ 19 := by
    unfold maxSignedBigint at under
    omega
  exact .int n (from_.trans above) (bound.trans_le (Nat.pow_le_pow_right (by decide) (by decide)))

theorem alphanumericPlain {c : PyChar} (h : c.alphanumeric = true) : JsonText.graphic c = true := by
  simp only [PyChar.alphanumeric,PyChar.digit,Bool.or_eq_true,Bool.and_eq_true,decide_eq_true_eq] at h
  exact JsonText.plainGraphic (by omega) (by omega) (by omega) (by omega)

theorem versionPlain {s : PyStr} (h : versionPattern s = true) : Small 128 (.str s) := by
  cases s with
  | nil => cases h
  | cons c s =>
    simp only [versionPattern,Bool.and_eq_true,decide_eq_true_eq,List.all_eq_true] at h
    obtain ⟨⟨first,short⟩,each⟩ := h
    refine .str _ (Nat.succ_le_succ short) (List.all_eq_true.mpr (fun d here => ?_))
    rcases List.mem_cons.mp here with rfl | later
    · exact alphanumericPlain first
    have character := each d later
    simp only [versionCharacter,Bool.or_eq_true,beq_iff_eq] at character
    rcases character with (((((letter | rfl) | rfl) | rfl) | rfl) | rfl)
    · exact alphanumericPlain letter
    all_goals decide

theorem hexPlain {digits : Nat} (few : digits ≤ 128) {s : PyStr} (h : hexPattern digits s = true) :
    Small 128 (.str s) := by
  simp only [hexPattern,Bool.and_eq_true,beq_iff_eq,List.all_eq_true] at h
  refine .str _ (h.1.trans_le few) (List.all_eq_true.mpr (fun c here => alphanumericPlain ?_))
  have character := h.2 c here
  simp only [PyChar.alphanumeric,Bool.or_eq_true,Bool.and_eq_true,decide_eq_true_eq] at character ⊢
  exact character.elim (fun digit => .inl (.inl digit)) (fun letter => .inr ⟨letter.1,by omega⟩)

theorem knownPlain {known : List PyStr} (plain : known.all (fun s => s.length ≤ 128 && s.all JsonText.graphic) = true)
    {s : PyStr} (h : known.contains s = true) : Small 128 (.str s) := by
  have own := List.all_eq_true.mp plain s (List.contains_iff_mem.mp h)
  simp only [Bool.and_eq_true,decide_eq_true_eq] at own
  exact .str s own.1 own.2

theorem formatLawful : format.Lawful Own where
  distinct := by decide
  few := by decide
  names := by decide
  listed _ := rfl
  version _ := rfl
  small r := by
    simp only [format,asDict,List.forall_mem_cons,List.not_mem_nil,false_implies,implies_true,and_true]
    exact ⟨.int 1 (by decide) (by decide),versionPlain r.packageVersion.2,hexPlain (by decide) r.sourceCommit.2,
      bigintShort (by decide) (by decide) r.postgresMajor,
      hexPlain (by decide) r.schemaSha256.2,knownPlain (by decide) r.backupMethod.2,
      hexPlain (by decide) r.backupSha256.2,bigintShort (by decide) (le_refl _) r.backupSizeBytes,
      bigintShort (le_refl _) (le_refl _) r.startedAtEpoch,bigintShort (le_refl _) (le_refl _) r.completedAtEpoch⟩
  built decoded r := by
    simp only [format,asDict,newOk,postInitSome,List.tail_cons,List.forall_mem_cons,List.not_mem_nil,false_implies,
      implies_true,and_true]
  malformedOwn := ⟨_,rfl⟩
  invalidOwn := ⟨_,rfl⟩
  buildOwn decoded e h := by
    simp only [format,new] at h
    split at h
    · cases h
    · cases h
      exact ⟨_,rfl⟩

end PostgresRecoveryReceipt

def parsePostgresRecoveryReceipt (i : Interpreter) (rawReceipt : PyStr) : Except RecoveryError PostgresRecoveryReceipt :=
  PostgresRecoveryReceipt.format.parse i rawReceipt

end PgLlmBatch
