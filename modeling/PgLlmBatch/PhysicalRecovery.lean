import PgLlmBatch.RecoveryReceipt

/-! Physical and point-in-time recovery profiles, and the law of both evidence codecs: what
is written is read back, and what is read is what some record writes. -/
namespace PgLlmBatch
open Base
open Base.JsonText (Matching Within Small readText readInteger readBool readOptional)

def physicalBackupMethods : List PyStr := [py "physical",py "pitr"]
def pointInTimeKinds : List PyStr := [py "time",py "xid",py "name",py "lsn"]
def recoveryTargetKinds : List PyStr := py "immediate" :: pointInTimeKinds

structure ProfileFields where
  postgresMajor : Within 1 99
  backupMethod : Matching physicalBackupMethods.contains
  recoveryTargetKind : Matching recoveryTargetKinds.contains
  walArchiveRequired : Bool
  isolatedTargetPrepared : Bool
  rpoSeconds : Option (Within 1 maxSignedBigint)
  rtoSeconds : Option (Within 1 maxSignedBigint)

structure PostgresPhysicalRecoveryProfile extends ProfileFields where
  isolated : isolatedTargetPrepared = true
  archived : ¬(backupMethod.1 = py "pitr" ∧ walArchiveRequired = false)
  timed : ¬(pointInTimeKinds.contains recoveryTargetKind.1 = true ∧ backupMethod.1 ≠ py "pitr")

namespace PostgresPhysicalRecoveryProfile

def keys : List PyStr := [py "schema_version",py "postgres_major",py "backup_method",py "recovery_target_kind",
  py "wal_archive_required",py "isolated_target_prepared",py "rpo_seconds",py "rto_seconds",
  py "package_capability_claim"]

def readFields (postgresMajor backupMethod recoveryTargetKind walArchiveRequired isolatedTargetPrepared rpoSeconds
    rtoSeconds : Json) : Option ProfileFields := do
  let postgresMajor ← readInteger 1 99 postgresMajor
  let backupMethod ← readText physicalBackupMethods.contains backupMethod
  let recoveryTargetKind ← readText recoveryTargetKinds.contains recoveryTargetKind
  let walArchiveRequired ← readBool walArchiveRequired
  let isolatedTargetPrepared ← readBool isolatedTargetPrepared
  let rpoSeconds ← readOptional (readInteger 1 maxSignedBigint) rpoSeconds
  let rtoSeconds ← readOptional (readInteger 1 maxSignedBigint) rtoSeconds
  some ⟨postgresMajor,backupMethod,recoveryTargetKind,walArchiveRequired,isolatedTargetPrepared,rpoSeconds,rtoSeconds⟩

def postInit (p : ProfileFields) : Except RecoveryError PostgresPhysicalRecoveryProfile :=
  if isolated : p.isolatedTargetPrepared = true then
    if archived : p.backupMethod.1 = py "pitr" ∧ p.walArchiveRequired = false then
      .error (.physicalRecovery "PostgreSQL PITR profile requires a WAL archive")
    else if timed : pointInTimeKinds.contains p.recoveryTargetKind.1 = true ∧ p.backupMethod.1 ≠ py "pitr" then
      .error (.physicalRecovery "PostgreSQL point-in-time target requires a PITR profile")
    else .ok ⟨p,isolated,archived,timed⟩
  else .error (.physicalRecovery "PostgreSQL physical recovery requires an isolated target")

def new (postgresMajor backupMethod recoveryTargetKind walArchiveRequired isolatedTargetPrepared rpoSeconds
    rtoSeconds : Json) : Except RecoveryError PostgresPhysicalRecoveryProfile :=
  match readFields postgresMajor backupMethod recoveryTargetKind walArchiveRequired isolatedTargetPrepared rpoSeconds
    rtoSeconds with
  | none => .error (.physicalRecovery "invalid PostgreSQL physical recovery profile")
  | some p => postInit p

def seconds (o : Option (Within 1 maxSignedBigint)) : Json := o.elim .null (fun n => .int n.1)

def asDict (p : PostgresPhysicalRecoveryProfile) : List (PyStr × Json) :=
  [(py "schema_version",.int 1),
    (py "postgres_major",.int p.postgresMajor.1),
    (py "backup_method",.str p.backupMethod.1),
    (py "recovery_target_kind",.str p.recoveryTargetKind.1),
    (py "wal_archive_required",.bool p.walArchiveRequired),
    (py "isolated_target_prepared",.bool p.isolatedTargetPrepared),
    (py "rpo_seconds",seconds p.rpoSeconds),
    (py "rto_seconds",seconds p.rtoSeconds),
    (py "package_capability_claim",.bool false)]

def exactFalse : Json → Bool
  | .bool b => !b
  | _ => false

def format : EvidenceFormat PostgresPhysicalRecoveryProfile where
  malformed := .physicalRecovery "invalid PostgreSQL physical recovery profile JSON"
  invalid := .physicalRecovery "invalid PostgreSQL physical recovery profile schema"
  keys := keys
  build decoded :=
    if exactFalse (Json.get decoded (py "package_capability_claim")) = false then
      .error (.physicalRecovery "PostgreSQL physical recovery profile cannot claim package capability")
    else new (Json.get decoded (py "postgres_major")) (Json.get decoded (py "backup_method"))
      (Json.get decoded (py "recovery_target_kind")) (Json.get decoded (py "wal_archive_required"))
      (Json.get decoded (py "isolated_target_prepared")) (Json.get decoded (py "rpo_seconds"))
      (Json.get decoded (py "rto_seconds"))
  asDict := asDict

def toJson (i : Interpreter) (p : PostgresPhysicalRecoveryProfile) : Except JsonError PyStr := format.toJson i p

def Own (e : RecoveryError) : Prop := ∃ message, e = .physicalRecovery message

theorem fieldsRead {major method kind archive target rpo rto : Json} {p : ProfileFields} :
    readFields major method kind archive target rpo rto = some p ↔
      major = .int p.postgresMajor.1 ∧ method = .str p.backupMethod.1 ∧ kind = .str p.recoveryTargetKind.1 ∧
      archive = .bool p.walArchiveRequired ∧ target = .bool p.isolatedTargetPrepared ∧ rpo = seconds p.rpoSeconds ∧
      rto = seconds p.rtoSeconds := by
  unfold readFields
  simp only [bind,Option.bind_eq_some_iff,JsonText.textRead,JsonText.integerRead,JsonText.boolRead,JsonText.optionalRead]
  constructor
  · rintro ⟨major,majorIs,method,methodIs,kind,kindIs,archive,archiveIs,target,targetIs,rpo,rpoIs,rto,rtoIs,built⟩
    cases Option.some.inj built
    exact ⟨majorIs,methodIs,kindIs,archiveIs,targetIs,rpoIs,rtoIs⟩
  · rintro ⟨major,method,kind,archive,target,rpo,rto⟩
    exact ⟨_,major,_,method,_,kind,_,archive,_,target,_,rpo,_,rto,rfl⟩

theorem postInitOk {fields : ProfileFields} {p : PostgresPhysicalRecoveryProfile} :
    postInit fields = .ok p ↔ fields = p.toProfileFields := by
  unfold postInit
  constructor
  · intro h
    split at h
    · split at h
      · cases h
      split at h
      · cases h
      · cases h
        rfl
    · cases h
  · rintro rfl
    rw [dif_pos p.isolated,dif_neg p.archived,dif_neg p.timed]

theorem newOk {major method kind archive target rpo rto : Json} {p : PostgresPhysicalRecoveryProfile} :
    new major method kind archive target rpo rto = .ok p ↔
      readFields major method kind archive target rpo rto = some p.toProfileFields := by
  unfold new
  split
  · rename_i none_
    simp [none_]
  · rename_i fields read
    rw [read,Option.some.injEq,postInitOk]

theorem exactFalseBool {j : Json} : exactFalse j = true ↔ j = .bool false := by
  cases j <;> simp [exactFalse]

theorem postInitOwn {fields : ProfileFields} {e : RecoveryError} (h : postInit fields = .error e) : Own e := by
  unfold postInit at h
  split at h
  · split at h
    · cases h
      exact ⟨_,rfl⟩
    split at h
    · cases h
      exact ⟨_,rfl⟩
    · cases h
  · cases h
    exact ⟨_,rfl⟩

theorem secondsShort (o : Option (Within 1 maxSignedBigint)) : Small 128 (seconds o) := by
  cases o with
  | none => exact .null
  | some n => exact PostgresRecoveryReceipt.bigintShort (by decide) (le_refl _) n

theorem formatLawful : format.Lawful Own where
  distinct := by decide
  few := by decide
  names := by decide
  listed _ := rfl
  version _ := rfl
  small p := by
    simp only [format,asDict,List.forall_mem_cons,List.not_mem_nil,false_implies,implies_true,and_true]
    exact ⟨.int 1 (by decide) (by decide),PostgresRecoveryReceipt.bigintShort (by decide) (by decide) p.postgresMajor,
      PostgresRecoveryReceipt.knownPlain (by decide) p.backupMethod.2,
      PostgresRecoveryReceipt.knownPlain (by decide) p.recoveryTargetKind.2,.bool _,.bool _,secondsShort _,
      secondsShort _,.bool _⟩
  built decoded p := by
    simp only [format,asDict,List.tail_cons,List.forall_mem_cons,List.not_mem_nil,false_implies,implies_true,and_true]
    split
    · rename_i claimed
      constructor
      · intro h
        cases h
      · rintro ⟨-,-,-,-,-,-,-,claim⟩
        rw [exactFalseBool.mpr claim] at claimed
        cases claimed
    · rename_i unclaimed
      have claim := exactFalseBool.mp (by simpa using unclaimed)
      rw [newOk,fieldsRead]
      simp only [claim,and_true]
  malformedOwn := ⟨_,rfl⟩
  invalidOwn := ⟨_,rfl⟩
  buildOwn decoded e h := by
    simp only [format,new] at h
    split at h
    · cases h
      exact ⟨_,rfl⟩
    split at h
    · cases h
      exact ⟨_,rfl⟩
    · exact postInitOwn h

end PostgresPhysicalRecoveryProfile

def parsePostgresPhysicalRecoveryProfile (i : Interpreter) (rawProfile : PyStr) :
    Except RecoveryError PostgresPhysicalRecoveryProfile :=
  PostgresPhysicalRecoveryProfile.format.parse i rawProfile

theorem evidenceCodecs (i : Interpreter) :
    Codec (PostgresRecoveryReceipt.toJson (stock i)) (parsePostgresRecoveryReceipt (stock i))
        (PostgresRecoveryReceipt.format.Denotes (stock i)) PostgresRecoveryReceipt.Own ∧
      Codec (PostgresPhysicalRecoveryProfile.toJson (stock i)) (parsePostgresPhysicalRecoveryProfile (stock i))
        (PostgresPhysicalRecoveryProfile.format.Denotes (stock i)) PostgresPhysicalRecoveryProfile.Own :=
  ⟨EvidenceFormat.codec PostgresRecoveryReceipt.formatLawful,
    EvidenceFormat.codec PostgresPhysicalRecoveryProfile.formatLawful⟩

end PgLlmBatch
