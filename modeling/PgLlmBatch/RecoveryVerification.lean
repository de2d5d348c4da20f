import PgLlmBatch.BoundedInspection

/-! Binding inspected evidence into a receipt, and verifying the stored receipt by inspecting
again. The verifier inspects under the default budget, whatever the binding was made under. -/
namespace PgLlmBatch
open Base
open Base.JsonText (Matching Within)

structure EvidenceObject where
  evidence : InspectionEvidence
  wasInspected : Bool

def contentFreeDigest (value : PyStr) : Bool := hexPattern 64 value
def positiveBigint (value : Int) : Bool := 0 < value && value ≤ maxSignedBigint

def bindingInputsAreValid (schemaEvidence backupEvidence : EvidenceObject) : Bool :=
  contentFreeDigest schemaEvidence.evidence.sha256 && positiveBigint schemaEvidence.evidence.sizeBytes &&
    contentFreeDigest backupEvidence.evidence.sha256 && positiveBigint backupEvidence.evidence.sizeBytes &&
    schemaEvidence.wasInspected && backupEvidence.wasInspected

def bindPostgresRecoveryReceipt (packageVersion sourceCommit : PyStr) (postgresMajor : Int)
    (schemaEvidence : EvidenceObject) (backupMethod : PyStr) (backupEvidence : EvidenceObject)
    (startedAtEpoch completedAtEpoch : Int) : Except RecoveryError PostgresRecoveryReceipt :=
  if bindingInputsAreValid schemaEvidence backupEvidence = false then
    .error (.recoveryBinding "invalid PostgreSQL recovery binding inputs")
  else match PostgresRecoveryReceipt.new (.str packageVersion) (.str sourceCommit) (.int postgresMajor)
      (.str schemaEvidence.evidence.sha256) (.str backupMethod) (.str backupEvidence.evidence.sha256)
      (.int backupEvidence.evidence.sizeBytes) (.int startedAtEpoch) (.int completedAtEpoch) with
    | .ok receipt => .ok receipt
    | .error _ => .error (.recoveryBinding "invalid PostgreSQL recovery binding metadata")

def receiptIsVerifiable (receipt : PostgresRecoveryReceipt) : Bool :=
  contentFreeDigest receipt.schemaSha256.1 && contentFreeDigest receipt.backupSha256.1 &&
    positiveBigint receipt.backupSizeBytes.1

def verifyPostgresRecoveryReceipt (secureFileFlagsAvailable : Bool) (receipt : PostgresRecoveryReceipt)
    (backupArtifactPath : PyStr) : InspectionProgram Unit := do
  requireThat (receiptIsVerifiable receipt = true)
    (.recoveryVerification "invalid PostgreSQL recovery verification inputs")
  let schemaEvidence ← inspectPostgresSchema
  let backupEvidence ← inspectPostgresBackupArtifact secureFileFlagsAvailable backupArtifactPath
    Backup.defaultMaxInspectionBytes
  requireThat (receipt.schemaSha256.1 = schemaEvidence.sha256)
    (.recoveryVerification "inspected schema does not match recovery receipt")
  requireThat (receipt.backupSha256.1 = backupEvidence.sha256 ∧ receipt.backupSizeBytes.1 = backupEvidence.sizeBytes)
    (.recoveryVerification "inspected backup does not match recovery receipt")

theorem digestPattern (message : Bytes) : hexPattern 64 (sha256Hex message) = true := by
  have digits : ∀ n < 16, (hexDigit n).digit = true ∨ 0x61 ≤ (hexDigit n).val ∧ (hexDigit n).val ≤ 0x66 := by decide
  have length : (sha256Hex message).length = 64 := by
    rw [sha256Hex,hexLength,sha256Length]
  have each : ∀ c ∈ sha256Hex message, (c.digit || (0x61 ≤ c.val && c.val ≤ 0x66)) = true := by
    intro c here
    obtain ⟨b,-,digit⟩ := List.mem_flatMap.mp here
    have small := b.toNat_lt
    simp only [List.mem_cons,List.not_mem_nil,or_false] at digit
    rcases digit with rfl | rfl
    · simpa using digits (b.toNat / 16) (by omega)
    · simpa using digits (b.toNat % 16) (by omega)
  simp only [hexPattern,length,List.all_eq_true.mpr each]
  rfl

theorem boundReceipt {version commit : PyStr} {major started completed : Int} {schema backup : EvidenceObject}
    {method : PyStr} {r : PostgresRecoveryReceipt}
    (h : bindPostgresRecoveryReceipt version commit major schema method backup started completed = .ok r) :
    r.schemaSha256.1 = schema.evidence.sha256 ∧ r.backupSha256.1 = backup.evidence.sha256 ∧
      r.backupSizeBytes.1 = backup.evidence.sizeBytes := by
  unfold bindPostgresRecoveryReceipt at h
  split at h
  · cases h
  split at h
  · rename_i receipt made
    cases h
    obtain ⟨-,-,-,schemaIs,-,backupIs,sizeIs,-,-⟩ :=
      PostgresRecoveryReceipt.postInitSome.mp (PostgresRecoveryReceipt.newOk.mp made)
    exact ⟨(Json.str.inj schemaIs).symm,(Json.str.inj backupIs).symm,(Json.int.inj sizeIs).symm⟩
  · cases h

theorem receiptVerifiableAlways (receipt : PostgresRecoveryReceipt) : receiptIsVerifiable receipt = true := by
  have size := receipt.backupSizeBytes.2
  have positive : positiveBigint receipt.backupSizeBytes.1 = true := by
    simp only [positiveBigint,Bool.and_eq_true,decide_eq_true_eq]
    omega
  simp [receiptIsVerifiable,contentFreeDigest,receipt.schemaSha256.2,receipt.backupSha256.2,positive]

section
variable {σ : Type} {answer : (s : InspectionCall) → σ → s.Reply × σ} {offset : σ → Nat} {content schema : Bytes}

theorem backupRejected {status : FileStatus} (stable : StableFile answer offset content status) {path : PyStr}
    (known : (Backup.pathParts path).isOk = true) (length : 1 ≤ path.length ∧ path.length ≤ Backup.maxPathCharacters)
    {maximumSizeBytes : Int} (budget : 1 ≤ maximumSizeBytes ∧ maximumSizeBytes ≤ maxSignedBigint)
    (unfit : ¬(1 ≤ content.length ∧ content.length ≤ maximumSizeBytes)) (st : σ) :
    ((inspectPostgresBackupArtifact true path maximumSizeBytes).eval answer st).1 = .error Backup.wrongSize := by
  obtain ⟨descriptor,before,opening,start⟩ := Backup.openStable stable known st
  obtain ⟨looked,-⟩ := stable.fstat descriptor before
  have sized : ¬(0 < status.size ∧ status.size ≤ maximumSizeBytes) := by
    rw [stable.size]
    omega
  have ran : (Backup.inspectDescriptor descriptor maximumSizeBytes).eval answer before =
      (.error Backup.wrongSize,(answer (.fstat descriptor) before).2) := by
    unfold Backup.inspectDescriptor
    simp only [Program.bindCall,Program.evalCall,looked,expecting,Program.bindRet,requireHolds stable.regular]
    rw [requireThat,if_neg sized]
    rfl
  have recovered := Program.evalRecovered (h := fun e => (do
    Backup.quietClose descriptor
    throw e : InspectionProgram InspectionEvidence)) ran
  obtain ⟨closed,-⟩ := stable.closed descriptor (answer (.fstat descriptor) before).2
  have quiet : (Backup.quietClose descriptor).eval answer (answer (.fstat descriptor) before).2 =
      (.ok (),(answer (.close descriptor) (answer (.fstat descriptor) before).2).2) := by
    rw [Backup.quietClose,Program.evalCall,closed]
    rfl
  unfold inspectPostgresBackupArtifact
  simp only [requireHolds length,requireHolds budget,requireHolds trivial,Program.bindRet,Program.evalBind,opening,
    recovered,quiet]
  rfl

theorem inspectedPath {secure : Bool} {path : PyStr} {maximumSizeBytes : Int} {st : σ} {e : InspectionEvidence}
    (h : ((inspectPostgresBackupArtifact secure path maximumSizeBytes).eval answer st).1 = .ok e) :
    secure = true ∧ (Backup.pathParts path).isOk = true ∧ 1 ≤ path.length ∧ path.length ≤ Backup.maxPathCharacters := by
  unfold inspectPostgresBackupArtifact at h
  by_cases length : 1 ≤ path.length ∧ path.length ≤ Backup.maxPathCharacters
  rotate_left
  · simp [requireThat,length] at h
  by_cases budget : 1 ≤ maximumSizeBytes ∧ maximumSizeBytes ≤ maxSignedBigint
  rotate_left
  · simp [requireThat,length,budget] at h
  cases secure with
  | false => simp [requireThat,length,budget] at h
  | true =>
    cases known : Backup.pathParts path with
    | ok parts => exact ⟨rfl,rfl,length⟩
    | error e' => simp [requireThat,length,budget,Backup.openBackupArtifact,known] at h

theorem verifyStable {status : FileStatus} {mark : σ → Nat} {receipt : PostgresRecoveryReceipt} {path : PyStr}
    (file : StableFile answer offset content status) (resource : StableResource answer mark schema)
    (known : (Backup.pathParts path).isOk = true) (length : 1 ≤ path.length ∧ path.length ≤ Backup.maxPathCharacters)
    (st : σ) : ((verifyPostgresRecoveryReceipt true receipt path).eval answer st).1 = .ok () ↔
      (1 ≤ schema.length ∧ schema.length ≤ Schema.maxSchemaBytes) ∧
      (1 ≤ content.length ∧ content.length ≤ Backup.defaultMaxInspectionBytes) ∧
      receipt.schemaSha256.1 = sha256Hex schema ∧
      receipt.backupSha256.1 = sha256Hex content ∧ receipt.backupSizeBytes.1 = content.length := by
  have schemaRan := schemaStable resource st
  unfold verifyPostgresRecoveryReceipt
  rw [requireHolds (receiptVerifiableAlways receipt),Program.bindRet,Program.evalBind]
  generalize inspectPostgresSchema.eval answer st = schemaRun at schemaRan ⊢
  obtain ⟨out,between⟩ := schemaRun
  simp only at schemaRan
  by_cases schemaFits : 1 ≤ schema.length ∧ schema.length ≤ Schema.maxSchemaBytes
  rotate_left
  · rw [if_neg schemaFits] at schemaRan
    subst schemaRan
    simp [schemaFits]
  rw [if_pos schemaFits] at schemaRan
  subst schemaRan
  simp only [schemaFits,true_and]
  rw [Program.evalBind]
  by_cases fits : 1 ≤ content.length ∧ content.length ≤ Backup.defaultMaxInspectionBytes
  rotate_left
  · have rejected := backupRejected file known length (by decide) fits between
    generalize (inspectPostgresBackupArtifact true path Backup.defaultMaxInspectionBytes).eval answer between = run
      at rejected ⊢
    obtain ⟨out,after⟩ := run
    simp only at rejected
    subst rejected
    simp [fits]
  have inspected := backupStable file known length (by decide) fits.1 fits.2 between
  generalize (inspectPostgresBackupArtifact true path Backup.defaultMaxInspectionBytes).eval answer between = run
    at inspected ⊢
  obtain ⟨out,after⟩ := run
  simp only at inspected
  subst inspected
  simp only [fits,true_and]
  by_cases schemaSame : receipt.schemaSha256.1 = sha256Hex schema
  rotate_left
  · simp [requireThat,schemaSame]
  by_cases fileSame : receipt.backupSha256.1 = sha256Hex content ∧ receipt.backupSizeBytes.1 = content.length
  · simp [requireThat,schemaSame,fileSame]
  · simp [requireThat,schemaSame,fileSame]

end

-- A receipt speaks for the bytes that were inspected: verification passes while they are what
-- it finds, and raises when it finds others.
structure Verifiable (secure : Bool) (receipt : PostgresRecoveryReceipt) (path : PyStr) (file schema : Bytes) : Prop where
  unchanged : ∀ (σ : Type) (answer : (s : InspectionCall) → σ → s.Reply × σ) (offset mark : σ → Nat) status st,
    StableFile answer offset file status → StableResource answer mark schema →
    ((verifyPostgresRecoveryReceipt secure receipt path).eval answer st).1 = .ok ()
  changed : ∀ (σ : Type) (answer : (s : InspectionCall) → σ → s.Reply × σ) (offset mark : σ → Nat) status st
    (file' schema' : Bytes), StableFile answer offset file' status → StableResource answer mark schema' →
    file' ≠ file ∨ schema' ≠ schema → (sha256Hex file' = sha256Hex file → file' = file) →
    (sha256Hex schema' = sha256Hex schema → schema' = schema) →
    ∃ e, ((verifyPostgresRecoveryReceipt secure receipt path).eval answer st).1 = .error e

def calm (file schema : Bytes) (status : FileStatus) : (s : InspectionCall) → Nat → s.Reply × Nat
  | .openDirectory _ _, offset => (.ok 0,offset)
  | .openFile _ _, _ => (.ok 0,0)
  | .close _, offset => (.ok (),offset)
  | .fstat _, offset => (.ok status,offset)
  | .read _ size, offset =>
      (.ok ⟨(file.drop offset).take size,List.length_take_le _ _⟩,offset + ((file.drop offset).take size).length)
  | .openResource, _ => (.ok (),0)
  | .readResource size, offset =>
      (.ok (.bytes ⟨(schema.drop offset).take size,List.length_take_le _ _⟩),
        offset + ((schema.drop offset).take size).length)
  | .closeResource, offset => (.ok (),offset)

theorem takeContinues (content : Bytes) (offset size : Nat) :
    Continues content offset size ((content.drop offset).take size) := by
  refine ⟨List.take_prefix _ _,fun some_ more empty => ?_⟩
  have length := congrArg List.length empty
  rw [List.length_take,List.length_drop,List.length_nil] at length
  omega

theorem calmFile {file : Bytes} (schema : Bytes) {status : FileStatus} (regular : Backup.sIsreg status.mode = true)
    (size : status.size = file.length) : StableFile (calm file schema status) id file status where
  regular := regular
  size := size
  directory _ _ _ := ⟨0,rfl⟩
  file _ _ _ := ⟨0,rfl⟩
  rewound _ _ _ := rfl
  closed _ _ := ⟨rfl,rfl⟩
  fstat _ _ := ⟨rfl,rfl⟩
  read _ size offset := ⟨_,rfl,takeContinues file offset size,rfl⟩

theorem calmResource (file schema : Bytes) (status : FileStatus) :
    StableResource (calm file schema status) id schema where
  opened _ := ⟨rfl,rfl⟩
  read size offset := ⟨_,rfl,takeContinues schema offset size,rfl⟩
  closed _ := rfl

def regularStatus (file : Bytes) : FileStatus := ⟨1,2,0o100600,file.length,0,0⟩

theorem receiptVerifiable {σ : Type} {answer : (s : InspectionCall) → σ → s.Reply × σ} {st st' : σ} (i : Interpreter)
    {secure : Bool} {path : PyStr} {maximumSizeBytes : Int} {backup schema : InspectionEvidence}
    {fileWork schemaWork : InspectionWork} {version commit method text : PyStr} {major started completed : Int}
    {receipt stored : PostgresRecoveryReceipt}
    (file : watchedRun (inspectPostgresBackupArtifact secure path maximumSizeBytes) answer st = (.ok backup,fileWork))
    (resource : watchedRun inspectPostgresSchema answer st' = (.ok schema,schemaWork))
    (bound : bindPostgresRecoveryReceipt version commit major ⟨schema,true⟩ method ⟨backup,true⟩ started completed =
      .ok receipt)
    (written : receipt.toJson (stock i) = .ok text) (read : parsePostgresRecoveryReceipt (stock i) text = .ok stored) :
    Verifiable secure stored path fileWork.content schemaWork.content ↔
      fileWork.content.length ≤ Backup.defaultMaxInspectionBytes := by
  have codec := EvidenceFormat.codec (i := i) PostgresRecoveryReceipt.formatLawful
  obtain ⟨text',written',read'⟩ := codec.roundTrip receipt
  cases Except.ok.inj (written.symm.trans written')
  cases Except.ok.inj (read.symm.trans read')
  have fileBounded := Program.watchedHolds (backupBounded secure path maximumSizeBytes) answer st
  have schemaBound := Program.watchedHolds schemaBounded answer st'
  have outcome := @Program.watchedOutcome _ _ _ _ _ _ InspectionWork.observe
    (inspectPostgresBackupArtifact secure path maximumSizeBytes) answer st {}
  simp only [watchedRun,Prod.mk.injEq] at file resource
  rw [file.1] at outcome
  rw [file.1,file.2] at fileBounded
  rw [resource.1,resource.2] at schemaBound
  obtain ⟨rfl,known,length⟩ := inspectedPath outcome.symm
  have fileDigest := fileBounded.digest backup rfl
  obtain ⟨fileSize,fileSome,-⟩ := fileBounded.counted backup rfl
  have schemaDigest := schemaBound.digest schema rfl
  obtain ⟨schemaSize,schemaSome,schemaFits⟩ := schemaBound.counted schema rfl
  obtain ⟨schemaSame,fileSame,sizeSame⟩ := boundReceipt bound
  simp only [schemaDigest,fileDigest,fileSize] at schemaSame fileSame sizeSame
  have schemaRange : 1 ≤ schemaWork.content.length ∧ schemaWork.content.length ≤ Schema.maxSchemaBytes := by omega
  have fileRange : 1 ≤ fileWork.content.length := by omega
  constructor
  · intro verifiable
    have regular := @calmFile fileWork.content schemaWork.content (regularStatus fileWork.content)
      (by rfl : Backup.sIsreg 0o100600 = true) rfl
    have resource := calmResource fileWork.content schemaWork.content (regularStatus fileWork.content)
    have passed := verifiable.unchanged Nat _ id id _ 0 regular resource
    exact ((verifyStable regular resource known length 0).mp passed).2.1.2
  · intro fits
    refine ⟨?_,?_⟩
    · intro σ answer offset mark status st regular resource
      exact (verifyStable regular resource known length st).mpr
        ⟨schemaRange,⟨fileRange,fits⟩,schemaSame,fileSame,sizeSame⟩
    · intro σ answer offset mark status st file' schema' regular resource apart fileFree schemaFree
      cases ran : ((verifyPostgresRecoveryReceipt true receipt path).eval answer st).1 with
      | error e => exact ⟨e,rfl⟩
      | ok done =>
        obtain ⟨-,-,schemaFound,fileFound,-⟩ := (verifyStable regular resource known length st).mp ran
        have sameFile := fileFree (fileFound.symm.trans fileSame)
        have sameSchema := schemaFree (schemaFound.symm.trans schemaSame)
        exact apart.elim (fun other => absurd sameFile other) (fun other => absurd sameSchema other)

def sampleReceipt (file schema : Bytes) (sized : 1 ≤ file.length ∧ file.length ≤ maxSignedBigint) :
    PostgresRecoveryReceipt where
  packageVersion := ⟨py "1.0.0",by decide⟩
  sourceCommit := ⟨List.replicate 40 (chr 'a'),by decide⟩
  postgresMajor := ⟨16,by decide⟩
  schemaSha256 := ⟨sha256Hex schema,digestPattern schema⟩
  backupMethod := ⟨py "physical",by decide⟩
  backupSha256 := ⟨sha256Hex file,digestPattern file⟩
  backupSizeBytes := ⟨file.length,by omega⟩
  startedAtEpoch := ⟨0,by decide⟩
  completedAtEpoch := ⟨1,by decide⟩
  ordered := by decide

theorem sampleBound {file schema : Bytes} (sized : 1 ≤ file.length ∧ file.length ≤ maxSignedBigint)
    (schemaSized : 1 ≤ schema.length ∧ schema.length ≤ maxSignedBigint) :
    bindPostgresRecoveryReceipt (py "1.0.0") (List.replicate 40 (chr 'a')) 16
      ⟨⟨sha256Hex schema,schema.length⟩,true⟩ (py "physical") ⟨⟨sha256Hex file,file.length⟩,true⟩ 0 1 =
        .ok (sampleReceipt file schema sized) := by
  have valid : bindingInputsAreValid ⟨⟨sha256Hex schema,schema.length⟩,true⟩ ⟨⟨sha256Hex file,file.length⟩,true⟩ = true := by
    have filePositive : positiveBigint file.length = true := by
      simp only [positiveBigint,Bool.and_eq_true,decide_eq_true_eq]
      omega
    have schemaPositive : positiveBigint schema.length = true := by
      simp only [positiveBigint,Bool.and_eq_true,decide_eq_true_eq]
      omega
    simp [bindingInputsAreValid,contentFreeDigest,digestPattern,filePositive,schemaPositive]
  have made : PostgresRecoveryReceipt.new (.str (py "1.0.0")) (.str (List.replicate 40 (chr 'a'))) (.int 16)
      (.str (sha256Hex schema)) (.str (py "physical")) (.str (sha256Hex file)) (.int file.length) (.int 0) (.int 1) =
        .ok (sampleReceipt file schema sized) :=
    PostgresRecoveryReceipt.newOk.mpr (PostgresRecoveryReceipt.postInitSome.mpr
      ⟨rfl,rfl,rfl,rfl,rfl,rfl,rfl,rfl,rfl⟩)
  rw [bindPostgresRecoveryReceipt,if_neg (by simp [valid])]
  simp only [made]

section
variable {file schema : Bytes} (sized : 1 ≤ file.length ∧ file.length ≤ maxSignedBigint)

def calmFor (file schema : Bytes) : (s : InspectionCall) → Nat → s.Reply × Nat := calm file schema (regularStatus file)

theorem calmForFile (file schema : Bytes) : StableFile (calmFor file schema) id file (regularStatus file) :=
  calmFile schema (by rfl : Backup.sIsreg 0o100600 = true) rfl

theorem calmForResource (file schema : Bytes) : StableResource (calmFor file schema) id schema :=
  calmResource file schema (regularStatus file)

include sized in
theorem calmBackup : (watchedRun (inspectPostgresBackupArtifact true (py "/backup") file.length) (calmFor file schema) 0).1 =
    .ok ⟨sha256Hex file,file.length⟩ := by
  have known : (Backup.pathParts (py "/backup")).isOk = true := by decide
  rw [watchedRun,Program.watchedOutcome]
  exact backupStable (calmForFile file schema) known (by decide) sized.2 sized.1 (le_refl _) 0

theorem calmSchema (fits : 1 ≤ schema.length ∧ schema.length ≤ Schema.maxSchemaBytes) :
    (watchedRun inspectPostgresSchema (calmFor file schema) 0).1 = .ok ⟨sha256Hex schema,schema.length⟩ := by
  rw [watchedRun,Program.watchedOutcome]
  exact (schemaStable (calmForResource file schema) 0).trans (if_pos fits)

end

def smallFile : Bytes := [1,2,3]
def smallSchema : Bytes := [4]

theorem smallReceiptVerifiable :
    Verifiable true (sampleReceipt smallFile smallSchema (by decide)) (py "/backup")
      (watchedRun (inspectPostgresBackupArtifact true (py "/backup") smallFile.length) (calmFor smallFile smallSchema) 0).2.content
      (watchedRun inspectPostgresSchema (calmFor smallFile smallSchema) 0).2.content := by
  have inspected := @calmBackup smallFile smallSchema (by decide)
  have bounded := Program.watchedHolds (backupBounded true (py "/backup") smallFile.length) (calmFor smallFile smallSchema) 0
  obtain ⟨text,written,read⟩ := (EvidenceFormat.codec (i := stock ⟨1000,none,by decide⟩)
    PostgresRecoveryReceipt.formatLawful).roundTrip (sampleReceipt smallFile smallSchema (by decide))
  refine (receiptVerifiable _ (Prod.ext inspected rfl) (Prod.ext (calmSchema (by decide)) rfl)
    (sampleBound (by decide) (by decide)) written read).mpr ?_
  have length := (bounded.counted _ inspected).1
  exact (length.symm : (_ : Int) = 3).trans_le (by decide)

def largeFile : Bytes := List.replicate (2 ^ 36 + 1) 0

theorem largeSized : 1 ≤ largeFile.length ∧ largeFile.length ≤ maxSignedBigint := by
  rw [largeFile,List.length_replicate]
  decide

-- A backup one byte over 64 GiB, inspected under a raised budget.
theorem largeBackupUnverified :
    (watchedRun (inspectPostgresBackupArtifact true (py "/backup") largeFile.length) (calmFor largeFile smallSchema) 0).1 =
      .ok ⟨sha256Hex largeFile,largeFile.length⟩ ∧
    (watchedRun inspectPostgresSchema (calmFor largeFile smallSchema) 0).1 =
      .ok ⟨sha256Hex smallSchema,smallSchema.length⟩ ∧
    bindPostgresRecoveryReceipt (py "1.0.0") (List.replicate 40 (chr 'a')) 16
      ⟨⟨sha256Hex smallSchema,smallSchema.length⟩,true⟩ (py "physical")
      ⟨⟨sha256Hex largeFile,largeFile.length⟩,true⟩ 0 1 = .ok (sampleReceipt largeFile smallSchema largeSized) ∧
    (∃ text, (sampleReceipt largeFile smallSchema largeSized).toJson (stock ⟨1000,none,by decide⟩) = .ok text ∧
      parsePostgresRecoveryReceipt (stock ⟨1000,none,by decide⟩) text =
        .ok (sampleReceipt largeFile smallSchema largeSized)) ∧
    ((verifyPostgresRecoveryReceipt true (sampleReceipt largeFile smallSchema largeSized) (py "/backup")).eval
      (calmFor largeFile smallSchema) 0).1 ≠ .ok () ∧
    ¬Verifiable true (sampleReceipt largeFile smallSchema largeSized) (py "/backup") largeFile smallSchema := by
  have known : (Backup.pathParts (py "/backup")).isOk = true := by decide
  have failed : ((verifyPostgresRecoveryReceipt true (sampleReceipt largeFile smallSchema largeSized) (py "/backup")).eval
      (calmFor largeFile smallSchema) 0).1 ≠ .ok () := by
    intro passed
    have fits := ((verifyStable (calmForFile largeFile smallSchema) (calmForResource largeFile smallSchema) known
      (by decide) 0).mp passed).2.1.2
    rw [largeFile,List.length_replicate] at fits
    exact absurd fits (by decide)
  refine ⟨calmBackup largeSized,calmSchema (by decide),sampleBound largeSized (by decide),
    (EvidenceFormat.codec PostgresRecoveryReceipt.formatLawful).roundTrip _,failed,fun verifiable => ?_⟩
  exact failed (verifiable.unchanged Nat _ id id _ 0 (calmForFile largeFile smallSchema)
    (calmForResource largeFile smallSchema))

end PgLlmBatch
