import PgLlmBatch.ResultStreaming
import PgLlmBatch.SingleFlight
import PgLlmBatch.Base.Delimited
import PgLlmBatch.Base.Fallible

/-! What the checkpoint hasher is fed, and what an advisory lock key is taken of, each read back
from its bytes: frames show where they end, and the tag of a frame tells the events apart. -/
namespace PgLlmBatch
open Base

inductive StreamEvent where
  | file (fileKind fileId : PyStr)
  | line (fileLineNumber : Nat) (rawLine : Bytes) (newlineTerminated : Bool)
  deriving DecidableEq, Repr

structure Transcript where
  batchId : PyStr
  endpointAlias : PyStr
  events : List StreamEvent
  deriving DecidableEq, Repr

def addCheckpointEvent (hashed : Bytes) : StreamEvent → Except PyError Bytes
  | .file fileKind fileId => addCheckpointFile hashed fileKind fileId
  | .line fileLineNumber rawLine newlineTerminated =>
      addCheckpointLine hashed ⟨fileLineNumber,rawLine,newlineTerminated,none⟩

def addCheckpointEvents (hashed : Bytes) : List StreamEvent → Except PyError Bytes
  | [] => .ok hashed
  | event::events => do
      let hashed ← addCheckpointEvent hashed event
      addCheckpointEvents hashed events

def transcriptBytes (t : Transcript) : Except PyError Bytes := do
  let hashed ← newCheckpointHasher t.batchId t.endpointAlias
  addCheckpointEvents hashed t.events

abbrev DigestFrame := Consecutive (Counted 2) (Counted 8)

theorem frameDelimited : Delimited DigestFrame := joinedDelimited (countedDelimited 2) (countedDelimited 8)

theorem frameSome {f : Bytes × Bytes} {x : Bytes} (frame : DigestFrame f x) : x ≠ [] := by
  obtain ⟨y,z,⟨count,⟨-,rfl⟩,rfl⟩,-,rfl⟩ := frame
  intro empty
  have none_ := (List.append_eq_nil_iff.mp (List.append_eq_nil_iff.mp empty).1).1
  exact absurd (congrArg List.length none_) (by rw [bigEndianLength]; decide)

theorem toBytesNumbered {width n : Nat} {x : Bytes} (h : toBytes width n = .ok x) : Numbered width n x := by
  unfold toBytes at h
  split at h
  · rename_i small
    cases h
    exact ⟨small,rfl⟩
  · cases h

theorem frameAdded {hashed out payload : Bytes} {tag : String} (h : checkpointFrame hashed tag payload = .ok out) :
    ∃ x, DigestFrame (tagBytes tag,payload) x ∧ out = hashed ++ x := by
  unfold checkpointFrame at h
  obtain ⟨tagLength,first,h⟩ := Fallible.bindOk.mp h
  obtain ⟨payloadLength,second,h⟩ := Fallible.bindOk.mp h
  cases h
  refine ⟨_,⟨_,_,⟨_,toBytesNumbered first,rfl⟩,⟨_,toBytesNumbered second,rfl⟩,rfl⟩,?_⟩
  simp only [List.append_assoc]

theorem asciiFaithful {s t : PyStr} {x : Bytes} (first : encodeAscii s = .ok x) (second : encodeAscii t = .ok x) : s = t := by
  unfold encodeAscii at first second
  split at first
  · rename_i plain
    split at second
    · rename_i plain'
      cases first
      have same := Except.ok.inj second
      clear second
      induction s generalizing t with
      | nil => exact (List.map_eq_nil_iff.mp same).symm
      | cons c s ih =>
        cases t with
        | nil => cases same
        | cons d t =>
          rw [List.map_cons,List.map_cons,List.cons.injEq] at same
          rw [List.all_cons,Bool.and_eq_true,decide_eq_true_eq] at plain plain'
          have value := congrArg UInt8.toNat same.1
          rw [byteOf (by omega),byteOf (by omega)] at value
          rw [Fin.ext value,ih plain.2 plain'.2 same.2]
    · cases second
  · cases first

theorem textFaithful {s t : PyStr} {x : Bytes} (first : encodeText s = .ok x) (second : encodeText t = .ok x) : s = t := by
  unfold encodeText at first second
  cases own : s.encodeUtf8 with
  | none =>
    rw [own] at first
    cases first
  | some bytes =>
    rw [own] at first
    cases first
    cases other : t.encodeUtf8 with
    | none =>
      rw [other] at second
      cases second
    | some bytes' =>
      rw [other] at second
      cases second
      exact encodeInjective own other

def EventWritten : StreamEvent → Bytes → Prop
  | .file fileKind fileId, x => ∃ k f, encodeAscii fileKind = .ok k ∧ encodeAscii fileId = .ok f ∧
      Consecutive DigestFrame DigestFrame ((tagBytes "file_kind",k),tagBytes "file_id",f) x
  | .line fileLineNumber rawLine newlineTerminated, x => ∃ n, Numbered 8 fileLineNumber n ∧
      Consecutive DigestFrame (Consecutive DigestFrame DigestFrame) ((tagBytes "file_line_number",n),(tagBytes "line_bytes",rawLine),
        tagBytes "newline_terminated",[if newlineTerminated then 1 else 0]) x

theorem kindApart {a b x y s t : Bytes} (file : DigestFrame (tagBytes "file_kind",a) x)
    (line : DigestFrame (tagBytes "file_line_number",b) y) : x ++ s ≠ y ++ t := by
  intro same
  have tags : tagBytes "file_kind" = tagBytes "file_line_number" := congrArg Prod.fst (frameDelimited file line same).1
  exact absurd tags (by decide)

theorem eventDelimited : Delimited EventWritten := by
  intro a b x y s t first second same
  cases a with
  | file fileKind fileId =>
    obtain ⟨k,f,kind,id_,written⟩ := first
    cases b with
    | file fileKind' fileId' =>
      obtain ⟨k',f',kind',id',written'⟩ := second
      obtain ⟨fields,rfl,rest⟩ := joinedDelimited frameDelimited frameDelimited written written' same
      simp only [Prod.mk.injEq,true_and] at fields
      obtain ⟨rfl,rfl⟩ := fields
      rw [asciiFaithful kind kind',asciiFaithful id_ id']
      exact ⟨rfl,rfl,rest⟩
    | line n raw terminated =>
      obtain ⟨n,-,written'⟩ := second
      obtain ⟨u,v,one,-,rfl⟩ := written
      obtain ⟨u',v',other,-,rfl⟩ := written'
      rw [List.append_assoc,List.append_assoc] at same
      exact absurd same (kindApart one other)
  | line number raw terminated =>
    obtain ⟨n,numbered,written⟩ := first
    cases b with
    | file fileKind fileId =>
      obtain ⟨k,f,-,-,written'⟩ := second
      obtain ⟨u,v,one,-,rfl⟩ := written
      obtain ⟨u',v',other,-,rfl⟩ := written'
      rw [List.append_assoc,List.append_assoc] at same
      exact absurd same.symm (kindApart other one)
    | line number' raw' terminated' =>
      obtain ⟨n',numbered',written'⟩ := second
      obtain ⟨fields,rfl,rest⟩ :=
        joinedDelimited frameDelimited (joinedDelimited frameDelimited frameDelimited) written written' same
      simp only [Prod.mk.injEq,true_and] at fields
      obtain ⟨rfl,rfl,flag⟩ := fields
      rw [delimitedFaithful (numberedDelimited 8) numbered numbered']
      have flags : terminated = terminated' := by
        cases terminated <;> cases terminated' <;> first | rfl | exact absurd flag (by decide)
      rw [flags]
      exact ⟨rfl,rfl,rest⟩

theorem eventSome ⦃e : StreamEvent⦄ ⦃x : Bytes⦄ (written : EventWritten e x) : x ≠ [] := by
  cases e with
  | file fileKind fileId =>
    obtain ⟨k,f,-,-,u,v,one,-,rfl⟩ := written
    exact fun empty => frameSome one (List.append_eq_nil_iff.mp empty).1
  | line n raw terminated =>
    obtain ⟨n,-,u,v,one,-,rfl⟩ := written
    exact fun empty => frameSome one (List.append_eq_nil_iff.mp empty).1

theorem eventAdded {hashed out : Bytes} {e : StreamEvent} (h : addCheckpointEvent hashed e = .ok out) :
    ∃ x, EventWritten e x ∧ out = hashed ++ x := by
  cases e with
  | file fileKind fileId =>
    unfold addCheckpointEvent addCheckpointFile at h
    obtain ⟨k,kind,h⟩ := Fallible.bindOk.mp h
    obtain ⟨middle,first,h⟩ := Fallible.bindOk.mp h
    obtain ⟨f,id_,second⟩ := Fallible.bindOk.mp h
    obtain ⟨x,one,rfl⟩ := frameAdded first
    obtain ⟨y,two,rfl⟩ := frameAdded second
    exact ⟨x ++ y,⟨k,f,kind,id_,x,y,one,two,rfl⟩,List.append_assoc _ _ _⟩
  | line number raw terminated =>
    unfold addCheckpointEvent addCheckpointLine at h
    obtain ⟨n,numbered,h⟩ := Fallible.bindOk.mp h
    obtain ⟨middle,first,h⟩ := Fallible.bindOk.mp h
    obtain ⟨middle',second,third⟩ := Fallible.bindOk.mp h
    obtain ⟨x,one,rfl⟩ := frameAdded first
    obtain ⟨y,two,rfl⟩ := frameAdded second
    obtain ⟨z,three,rfl⟩ := frameAdded third
    refine ⟨x ++ (y ++ z),⟨n,toBytesNumbered numbered,x,y ++ z,one,⟨y,z,two,three,rfl⟩,rfl⟩,?_⟩
    simp only [List.append_assoc]

theorem eventsAdded {hashed out : Bytes} {events : List StreamEvent} (h : addCheckpointEvents hashed events = .ok out) :
    ∃ x, Written EventWritten events x ∧ out = hashed ++ x := by
  induction events generalizing hashed with
  | nil =>
    cases h
    exact ⟨[],.nil,(List.append_nil _).symm⟩
  | cons e events ih =>
    unfold addCheckpointEvents at h
    obtain ⟨middle,first,rest⟩ := Fallible.bindOk.mp h
    obtain ⟨x,one,rfl⟩ := eventAdded first
    obtain ⟨xs,others,rfl⟩ := ih rest
    exact ⟨x ++ xs,.cons one others,List.append_assoc _ _ _⟩

def HeaderWritten (header : PyStr × PyStr) (x : Bytes) : Prop :=
  ∃ b e, encodeText header.1 = .ok b ∧ encodeText header.2 = .ok e ∧
    Consecutive DigestFrame (Consecutive DigestFrame DigestFrame) ((tagBytes "domain",checkpointDomain),(tagBytes "batch_id",b),
      tagBytes "endpoint_alias",e) x

theorem headerDelimited : Delimited HeaderWritten := by
  rintro ⟨batchId,alias_⟩ ⟨batchId',alias'⟩ x y s t ⟨b,e,batch,name,written⟩ ⟨b',e',batch',name',written'⟩ same
  obtain ⟨fields,rfl,rest⟩ :=
    joinedDelimited frameDelimited (joinedDelimited frameDelimited frameDelimited) written written' same
  simp only [Prod.mk.injEq,true_and] at fields
  obtain ⟨rfl,rfl⟩ := fields
  exact ⟨Prod.ext (textFaithful batch batch') (textFaithful name name'),rfl,rest⟩

theorem headerFed {batchId endpointAlias : PyStr} {out : Bytes} (h : newCheckpointHasher batchId endpointAlias = .ok out) :
    HeaderWritten (batchId,endpointAlias) out := by
  unfold newCheckpointHasher at h
  obtain ⟨middle,first,h⟩ := Fallible.bindOk.mp h
  obtain ⟨b,batch,h⟩ := Fallible.bindOk.mp h
  obtain ⟨middle',second,h⟩ := Fallible.bindOk.mp h
  obtain ⟨e,name,third⟩ := Fallible.bindOk.mp h
  obtain ⟨x,one,rfl⟩ := frameAdded first
  obtain ⟨y,two,rfl⟩ := frameAdded second
  obtain ⟨z,three,rfl⟩ := frameAdded third
  exact ⟨b,e,batch,name,middle,y ++ z,one,⟨y,z,two,three,rfl⟩,List.append_assoc _ _ _⟩

theorem transcriptPrefix {t t' : Transcript} {bytes bytes' : Bytes} (first : transcriptBytes t = .ok bytes)
    (second : transcriptBytes t' = .ok bytes') (less : bytes <+: bytes') :
    t.batchId = t'.batchId ∧ t.endpointAlias = t'.endpointAlias ∧ t.events <+: t'.events := by
  obtain ⟨header,fed,h⟩ := Fallible.bindOk.mp first
  obtain ⟨header',fed',h'⟩ := Fallible.bindOk.mp second
  obtain ⟨x,written,rfl⟩ := eventsAdded h
  obtain ⟨x',written',rfl⟩ := eventsAdded h'
  obtain ⟨s,same⟩ := less
  rw [List.append_assoc] at same
  obtain ⟨names,rfl,rest⟩ := headerDelimited (headerFed fed) (headerFed fed') same
  obtain ⟨more,events,-⟩ := writtenPrefix eventDelimited eventSome written written' rest
  exact ⟨congrArg Prod.fst names,congrArg Prod.snd names,more,events.symm⟩

theorem transcriptFaithful {t t' : Transcript} {bytes : Bytes} (first : transcriptBytes t = .ok bytes)
    (second : transcriptBytes t' = .ok bytes) : t = t' := by
  obtain ⟨header,fed,h⟩ := Fallible.bindOk.mp first
  obtain ⟨header',fed',h'⟩ := Fallible.bindOk.mp second
  obtain ⟨x,written,rfl⟩ := eventsAdded h
  obtain ⟨x',written',same⟩ := eventsAdded h'
  obtain ⟨names,rfl,rest⟩ := headerDelimited (headerFed fed) (headerFed fed') same
  have events := writtenFaithful eventDelimited eventSome written (rest ▸ written')
  cases t
  cases t'
  cases names
  cases events
  rfl

def lockBytes (identity : FlightIdentity) : Except PyError Bytes := do
  let tenant ← encoded identity.tenant
  let endpointAlias ← encoded identity.endpointAlias
  let remoteBatchId ← encoded identity.remoteBatchId
  return lockDomain ++ framed tenant ++ framed endpointAlias ++ framed remoteBatchId

theorem keyOfBytes (identity : FlightIdentity) :
    lockKey identity = (fun bytes => signedWord ((sha256 bytes).take 8)) <$> lockBytes identity := by
  unfold lockKey lockBytes
  cases encoded identity.tenant with
  | error e => rfl
  | ok tenant =>
    cases encoded identity.endpointAlias with
    | error e => rfl
    | ok endpointAlias =>
      cases encoded identity.remoteBatchId with
      | error e => rfl
      | ok remoteBatchId => rfl

def Small (s : PyStr) : Prop := ∀ ⦃bytes⦄, encoded s = .ok bytes → bytes.length < 256 ^ 4

theorem framedFaithful {s t : PyStr} {x y : Bytes} {a b : Bytes} (small : Small s) (small' : Small t)
    (first : encoded s = .ok x) (second : encoded t = .ok y) (same : framed x ++ a = framed y ++ b) : s = t ∧ a = b := by
  obtain ⟨rfl,-,rest⟩ := countedDelimited 4 ⟨_,⟨small first,rfl⟩,rfl⟩ ⟨_,⟨small' second,rfl⟩,rfl⟩ same
  exact ⟨textFaithful first second,rest⟩

theorem encodedShort {s : PyStr} {bytes : Bytes} (h : s.encodeUtf8 = some bytes) : bytes.length ≤ 4 * s.length := by
  induction s generalizing bytes with
  | nil =>
    cases Option.some.inj h
    exact Nat.zero_le _
  | cons c s ih =>
    simp only [PyStr.encodeUtf8,Option.bind_eq_bind,Option.bind_eq_some_iff] at h
    obtain ⟨head,one,tail,others,made⟩ := h
    cases Option.some.inj made
    have rest := ih others
    have width : head.length ≤ 4 := by
      cases Utf8.encodedDenotes one <;> simp only [List.length_cons,List.length_nil] <;> decide
    rw [List.length_append,List.length_cons]
    omega

theorem fewSmall {s : PyStr} (few : s.length ≤ 256) : Small s := by
  intro bytes h
  unfold encoded at h
  cases own : s.encodeUtf8 with
  | none =>
    rw [own] at h
    cases h
  | some bytes' =>
    rw [own] at h
    cases h
    have short := encodedShort own
    exact lt_of_le_of_lt (short.trans (Nat.mul_le_mul_left 4 few)) (by decide)

theorem identifierFew {limit : Nat} {field : String} {value : Json} {s : PyStr}
    (h : validateIdentifier limit field value = .ok s) (bounded : limit ≤ 256) : s.length ≤ 256 := by
  have accepted := (validIdentifier h).2
  cases s with
  | nil => exact Nat.zero_le _
  | cons c s =>
    simp only [identifierPattern,Bool.and_eq_true,decide_eq_true_eq] at accepted
    have short := accepted.2
    rw [List.length_cons]
    omega

theorem aliasFew {value : Json} {s : PyStr} (h : validateEndpointAlias value = .ok s) : s.length ≤ 256 := by
  unfold validateEndpointAlias at h
  split at h <;> try contradiction
  dsimp only at h
  split at h
  · cases h
  · rename_i accepted
    cases Except.ok.inj h
    simp only [Bool.or_eq_true,decide_eq_true_eq,not_or,not_lt] at accepted
    exact accepted.2.trans (by decide)

theorem identitySmall {call : FlightCall} {identity : FlightIdentity} (h : validatedIdentity call = .ok identity) :
    Small identity.tenant ∧ Small identity.endpointAlias ∧ Small identity.remoteBatchId := by
  unfold validatedIdentity at h
  split at h <;> try contradiction
  split at h <;> try contradiction
  split at h <;> try contradiction
  rename_i validated
  cases h
  obtain ⟨tenant,first,rest⟩ := Fallible.bindOk.mp validated
  obtain ⟨endpointAlias,second,rest⟩ := Fallible.bindOk.mp rest
  obtain ⟨remoteBatchId,third,made⟩ := Fallible.bindOk.mp rest
  cases made
  exact ⟨fewSmall (identifierFew first (by decide)),fewSmall (aliasFew second),
    fewSmall (identifierFew third (by decide))⟩

theorem lockFaithful {identity identity' : FlightIdentity} {bytes : Bytes}
    (small : Small identity.tenant ∧ Small identity.endpointAlias ∧ Small identity.remoteBatchId)
    (small' : Small identity'.tenant ∧ Small identity'.endpointAlias ∧ Small identity'.remoteBatchId)
    (first : lockBytes identity = .ok bytes) (second : lockBytes identity' = .ok bytes) : identity = identity' := by
  unfold lockBytes at first second
  obtain ⟨a,tenant,first⟩ := Fallible.bindOk.mp first
  obtain ⟨b,alias_,first⟩ := Fallible.bindOk.mp first
  obtain ⟨c,batch,first⟩ := Fallible.bindOk.mp first
  obtain ⟨a',tenant',second⟩ := Fallible.bindOk.mp second
  obtain ⟨b',alias',second⟩ := Fallible.bindOk.mp second
  obtain ⟨c',batch',second⟩ := Fallible.bindOk.mp second
  have same := (Except.ok.inj first).trans (Except.ok.inj second).symm
  simp only [List.append_assoc] at same
  have fields := List.append_cancel_left same
  obtain ⟨one,fields⟩ := framedFaithful small.1 small'.1 tenant tenant' fields
  obtain ⟨two,fields⟩ := framedFaithful small.2.1 small'.2.1 alias_ alias' fields
  have last : framed c ++ [] = framed c' ++ [] := by rw [List.append_nil,List.append_nil,fields]
  obtain ⟨three,-⟩ := framedFaithful small.2.2 small'.2.2 batch batch' last
  cases identity
  cases identity'
  cases one
  cases two
  cases three
  rfl

theorem framingUnambiguous :
    (∀ t t' bytes bytes', transcriptBytes t = .ok bytes → transcriptBytes t' = .ok bytes' →
      (bytes = bytes' → t = t') ∧
      (bytes <+: bytes' → t.batchId = t'.batchId ∧ t.endpointAlias = t'.endpointAlias ∧ t.events <+: t'.events)) ∧
    (∀ call call' identity identity' bytes, validatedIdentity call = .ok identity → validatedIdentity call' = .ok identity' →
      lockBytes identity = .ok bytes → lockBytes identity' = .ok bytes → identity = identity') ∧
    ∀ identity, lockKey identity = (fun bytes => signedWord ((sha256 bytes).take 8)) <$> lockBytes identity := by
  refine ⟨fun t t' bytes bytes' first second => ⟨?_,transcriptPrefix first second⟩,?_,keyOfBytes⟩
  · rintro rfl
    exact transcriptFaithful first second
  · intro call call' identity identity' bytes valid valid' first second
    exact lockFaithful (identitySmall valid) (identitySmall valid') first second

def blankLine (newlineTerminated : Bool) : Transcript :=
  ⟨py "batch-1",py "default",[.file (py "result") (py "file-1"),.line 1 [] newlineTerminated]⟩

theorem terminationShown : (transcriptBytes (blankLine true)).isOk = true ∧
    (transcriptBytes (blankLine true)).toOption ≠ (transcriptBytes (blankLine false)).toOption := by
  have fed : (transcriptBytes (blankLine true)).isOk = true := by decide +kernel
  have fed' : (transcriptBytes (blankLine false)).isOk = true := by decide +kernel
  refine ⟨fed,?_⟩
  cases first : transcriptBytes (blankLine true) with
  | error e =>
    rw [first] at fed
    cases fed
  | ok bytes =>
    cases second : transcriptBytes (blankLine false) with
    | error e =>
      rw [second] at fed'
      cases fed'
    | ok bytes' =>
      intro same
      have whole := (framingUnambiguous.1 _ _ _ _ first second).1 (Option.some.inj same)
      exact absurd whole (by decide)

end PgLlmBatch
