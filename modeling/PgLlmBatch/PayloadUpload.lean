import PgLlmBatch.Base.Utf8
import PgLlmBatch.BoundedReading
import PgLlmBatch.PreparationFiles

/-! `upload_jsonl`: a `memory://` path leads to its stored payload, which goes out as one form. The
payloads that a preparation returned upload, later on, the requests that it assigned to them. -/
namespace PgLlmBatch
open Base
open Base.JsonText (loads defaultHooks strictHooks)
open Preparation (memoryScheme Tables)

section
variable (i : Interpreter) (response : FileResponse) (operation : String)

def invalidJsonError (errorType : String) : PyError :=
  .gateway (operation ++ " returned invalid JSON") (some response.status) [("error_type",.str (py errorType))]

-- Of what `json.loads` raises, two kinds are caught.
def readJsonObject (maxBytes : Nat) : Except PyError (List (PyStr × Json)) := do
  let content ← (readBoundedUtf8 response operation maxBytes).ended
  match loads i defaultHooks content with
  | .ok (.obj result) => return result
  | .ok value => throw (.gateway (operation ++ " returned a non-object JSON response") (some response.status)
      [("response_type",.str (py value.typeName))])
  | .error .malformed => throw (invalidJsonError response operation "JSONDecodeError")
  | .error .recursion => throw (invalidJsonError response operation "RecursionError")
  | .error _ => throw .raised

end

inductive UploadError where
  | package (e : PyError)
  | fileNotFound (fileId : PyStr)

inductive FormValue where
  | text (s : PyStr)
  | bytes (bs : Bytes)

structure FormField where
  name : String
  value : FormValue
  filename : Option PyStr
  contentType : Option String

structure UploadRequest where
  url : PyStr
  apiKey : PyStr
  form : List FormField

structure UploadArguments where
  filePath : PyStr
  endpointAlias : PyStr
  purpose : PyStr
  expiresAfterSeconds : Json

def invalidExpiry : PyError :=
  .validation "expires_after_seconds" .redacted "must be an integer between 3600 and 2592000 seconds"

def validateExpiry : Json → Except PyError (Option Int)
  | .null => .ok none
  | .int n => if n < 3600 ∨ 2592000 < n then .error invalidExpiry else .ok (some n)
  | _ => .error invalidExpiry

def resolveMemoryIdentifier (filePath : PyStr) : Except PyError PyStr :=
  let fileId := filePath.drop memoryScheme.length
  if memoryScheme.isPrefixOf filePath ∧ fileId ≠ [] then validateResourceId (.str fileId) "file_id"
  else .error (.runtimeError "JSONL payloads must be memory:// references (PostgreSQL-backed).")

def uploadForm (purpose : PyStr) (expiry : Option Int) (fileId : PyStr) (payload : Bytes) : List FormField :=
  [⟨"purpose",.text purpose,none,none⟩] ++
    expiry.toList.flatMap (fun seconds => [⟨"expires_after[anchor]",.text (py "created_at"),none,none⟩,
      ⟨"expires_after[seconds]",.text (py (toString seconds)),none,none⟩]) ++
    [⟨"file",.bytes payload,some (fileId ++ py ".jsonl"),some "application/jsonl"⟩]

section
variable (i : Interpreter) (db : Tables)

def loadVirtualPayload (fileId : PyStr) : Except PyError (Option PyStr) :=
  match db.payload? fileId with
  | none => .ok none
  | some row => some <$> normalizePayloadContent i row.content

def loadPayloadBytes (fileId : PyStr) : Except UploadError Bytes := do
  let payload ← (loadVirtualPayload i db fileId).mapError .package
  if (payload.getD []).isEmpty then throw (.fileNotFound fileId)
  match (payload.getD []).encodeUtf8 with
  | none => throw (.package .unicodeEncodeError)
  | some bytes => return bytes

-- `credentials` is the gateway's URL and key, once validated.
def uploadRequest (credentials : PyStr → Except PyError (PyStr × PyStr)) (a : UploadArguments) :
    Except UploadError UploadRequest := do
  let expiry ← (validateExpiry a.expiresAfterSeconds).mapError .package
  let fileId ← (resolveMemoryIdentifier a.filePath).mapError .package
  let payload ← loadPayloadBytes i db fileId
  let creds ← (credentials a.endpointAlias).mapError .package
  return ⟨GatewayRoute.files.url creds.1,creds.2,uploadForm a.purpose expiry fileId payload⟩

def readUpload (maxControlResponseBytes : Nat) (response : FileResponse) : Except PyError (List (PyStr × Json)) := do
  if response.status ≠ 200 then
    throw (.gateway s!"Files API upload failed: {response.status}" (some response.status)
      [("error_type",.str (py "ProviderHTTPError"))])
  readJsonObject i response "Files API upload" maxControlResponseBytes

def uploadJsonl (credentials : PyStr → Except PyError (PyStr × PyStr))
    (request : UploadRequest → Except PyError FileResponse) (maxControlResponseBytes : Nat) (a : UploadArguments) :
    Except UploadError (List (PyStr × Json)) := do
  let upload ← uploadRequest i db credentials a
  (request upload >>= readUpload i maxControlResponseBytes).mapError .package

end

def customId (i : Interpreter) (line : PyStr) : Option PyStr :=
  match loads i strictHooks line with
  | .ok (.obj members) => match Json.get members (py "custom_id") with
    | .str s => some s
    | _ => none
  | _ => none

def customIds (i : Interpreter) (bytes : Bytes) : List (Option PyStr) :=
  match decodeUtf8 bytes with
  | .ok text => (text.dropLast.splitOn newline).map (customId i)
  | .error _ => []

structure Upload where
  file : BatchFile
  ids : List PyStr
  bytes : Bytes

def Upload.payload (u : Upload) : BatchPayload := ⟨u.file.filePath,u.file.requestCount,u.file.totalTokens⟩

-- Every upload of the file's path, whatever its other arguments, sends the lines of these requests.
structure Upload.Sends (i : Interpreter) (db : Tables) (u : Upload) : Prop where
  count : u.file.requestCount = u.ids.length
  filled : u.ids ≠ []
  read : customIds i u.bytes = u.ids.map some
  request : ∀ credentials request limit a expiry url apiKey, a.filePath = u.file.filePath →
    validateExpiry a.expiresAfterSeconds = .ok expiry → credentials a.endpointAlias = .ok (url,apiKey) →
    uploadJsonl i db credentials request limit a = (request
      ⟨GatewayRoute.files.url url,apiKey,uploadForm a.purpose expiry u.file.payloadFileId u.bytes⟩ >>=
        readUpload i limit).mapError .package
  assigned : ∀ id, id ∈ u.ids ↔ ∃ r, db.request? id = some r ∧ r.batchFileUuid = some u.file.fileUuid

section
open Preparation

theorem generatedResource {hex : PyStr} (generated : Generated hex) :
    validateResourceId (.str (newPayloadFileId hex)) "file_id" = .ok (newPayloadFileId hex) := by
  refine identifierAccepted "file_id" ?_
  have tail : newPayloadFileId hex = chr 'f'::(py "ile_" ++ hex) := rfl
  have named : (py "ile_").all identifierChar = true := by decide
  have own : hex.all identifierChar = true := by
    refine List.all_eq_true.mpr (fun c here => ?_)
    have kind := generated.2 c here
    simp only [Bool.or_eq_true] at kind
    simp only [identifierChar,Bool.or_eq_true]
    tauto
  have size : (py "ile_" ++ hex).length ≤ maxRemoteResourceIdCharacters - 1 := by
    have short := generated.1
    have front : (py "ile_").length = 4 := rfl
    rw [List.length_append,front]
    unfold maxRemoteResourceIdCharacters
    omega
  rw [tail,identifierPattern,List.all_append,named,own,decide_eq_true size]
  rfl

theorem memoryResolved {hex : PyStr} (generated : Generated hex) :
    resolveMemoryIdentifier (memoryScheme ++ newPayloadFileId hex) = .ok (newPayloadFileId hex) := by
  have front : memoryScheme.isPrefixOf (memoryScheme ++ newPayloadFileId hex) = true :=
    List.isPrefixOf_iff_prefix.mpr (List.prefix_append _ _)
  unfold resolveMemoryIdentifier
  rw [List.drop_left]
  exact (if_pos ⟨front,List.cons_ne_nil _ _⟩).trans (generatedResource generated)

variable {i : Interpreter} {sv : Server}

theorem lineIdentified {id line : PyStr} (h : LineOf i id line) : customId i line = some id := by
  obtain ⟨members,parsed,named⟩ := h.entry
  unfold customId
  rw [parsed]
  dsimp only
  rw [named]

theorem linesIdentified {ids lines : List PyStr} (each : List.Forall₂ (LineOf i) ids lines) :
    lines.map (customId i) = ids.map some := by
  induction each with
  | nil => rfl
  | cons first _ ih => rw [List.map_cons,List.map_cons,ih,lineIdentified first]

theorem documentSame {lines others : List PyStr} (h : payloadDocument lines = payloadDocument others) :
    payloadContent lines = payloadContent others ∧ lines.length = others.length := by
  unfold payloadDocument at h
  simp only [Json.obj.injEq,List.cons.injEq,Prod.mk.injEq,Json.str.injEq,Json.int.injEq,true_and,and_true] at h
  exact ⟨h.1,by exact_mod_cast h.2⟩

theorem contentScalar {lines : List PyStr} (scalar : ∀ l ∈ lines, ∀ c ∈ l, c.surrogate = false) :
    ∀ c ∈ payloadContent lines, c.surrogate = false := by
  rw [contentLines]
  intro c here
  obtain ⟨l,member,inside⟩ := List.mem_flatMap.mp here
  rcases List.mem_append.mp inside with own | last
  · exact scalar l member c own
  · rw [List.mem_singleton.mp last]
    decide

theorem payloadLoaded {fileId : PyStr} {lines : List PyStr} {bytes : Bytes} (some_ : lines ≠ [])
    (each : ∀ l ∈ lines, newline ∉ l ∧ l ≠ [] ∧ isCanonicalJsonObjectLine i l = true)
    (stored : sv.tables.payload? fileId = some ⟨fileId,payloadDocument lines⟩)
    (encoded : (payloadContent lines).encodeUtf8 = some bytes) : loadPayloadBytes i sv.tables fileId = .ok bytes := by
  have loaded : loadVirtualPayload i sv.tables fileId = .ok (some (payloadContent lines)) := by
    unfold loadVirtualPayload
    rw [stored]
    dsimp only
    rw [contentAccepted i each]
    rfl
  have inked : (payloadContent lines).isEmpty = false := by
    rw [contentEnds some_]
    simp
  unfold loadPayloadBytes
  rw [loaded]
  simp only [Except.mapError,bind,Except.bind,Option.getD_some,inked,Bool.false_eq_true,if_false,encoded]
  rfl

theorem fileSends (inv : StoreInv i sv) (kept : ServerNamed sv) {f : BatchFile} (member : f ∈ sv.tables.files) :
    ∃ u : Upload, u.file = f ∧ u.Sends i sv.tables ∧ u.ids.Nodup := by
  obtain ⟨part,stores⟩ := inv.stored f member
  obtain ⟨path,hex,generated,fileId⟩ := kept.named f member
  obtain ⟨lines,⟨some_,scalar⟩,content⟩ := kept.filled _ (Table.findMember stores.payload)
  obtain ⟨text,count⟩ := documentSame content
  have filled : part.lines ≠ [] := by
    intro none_
    rw [none_] at count
    exact some_ (List.length_eq_zero_iff.mp count.symm)
  have own := canonicalLines stores.wellFormed
  obtain ⟨bytes,encoded⟩ : ∃ bytes, (payloadContent part.lines).encodeUtf8 = some bytes := by
    rw [text]
    exact encodeScalars (contentScalar scalar)
  have sizes := stores.wellFormed.each.length_eq
  refine ⟨⟨f,part.requestIds,bytes⟩,rfl,⟨?_,?_,?_,?_,stores.assigned⟩,stores.distinct⟩
  · rw [stores.requestCount,stores.wellFormed.count,sizes]
  · intro none_
    have empty : part.requestIds = [] := none_
    rw [empty] at sizes
    exact filled (List.length_eq_zero_iff.mp sizes.symm)
  · unfold customIds
    rw [decodedIff.mpr encoded]
    dsimp only
    rw [contentSplits filled (fun l here => (own l here).1)]
    exact linesIdentified stores.wellFormed.each
  · intro credentials request limit a expiry url apiKey same valid resolved
    have found : resolveMemoryIdentifier a.filePath = .ok f.payloadFileId := by
      rw [same,path,fileId]
      exact memoryResolved generated
    unfold uploadJsonl uploadRequest
    rw [valid,found,resolved]
    simp only [Except.mapError,bind,Except.bind,payloadLoaded filled own stores.payload encoded]
    rfl

theorem categorizedAll (rows : List BatchFile) (limit : Nat) : (categorizeExistingPayloads rows limit).all.Perm
    (rows.map (fun row => ⟨row.filePath,row.requestCount,row.totalTokens⟩)) := by
  induction rows using List.reverseRecOn with
  | nil => exact .refl _
  | append_singleton rows row ih =>
    rw [categorizeAppend,List.map_append,List.map_singleton]
    refine List.Perm.trans ?_ (ih.append_right _)
    unfold Prepared.append Prepared.all
    split
    · rw [List.append_assoc,List.append_assoc]
      exact (List.perm_append_comm).append_left _
    · rw [List.append_assoc]

theorem eachChosen {α β : Type} {g : β → α} {P : β → Prop} {l : List α} (some_ : ∀ a ∈ l, ∃ b, g b = a ∧ P b) :
    ∃ m : List β, m.map g = l ∧ ∀ b ∈ m, P b := by
  induction l with
  | nil => exact ⟨[],rfl,by simp⟩
  | cons a l ih =>
    obtain ⟨b,rfl,first⟩ := some_ a List.mem_cons_self
    obtain ⟨m,rfl,rest⟩ := ih (fun x here => some_ x (List.mem_cons_of_mem _ here))
    exact ⟨b::m,rfl,List.forall_mem_cons.mpr ⟨first,rest⟩⟩

def Assigned (db : Tables) (b : Nat) (id : PyStr) : Prop :=
  ∃ r, db.request? id = some r ∧ r.batchUuid = b ∧ r.batchFileUuid ≠ none

def generatedId : Pool.Event Call Choice → Bool
  | .advance _ choice => decide (choice.uuid.length ≤ 36) && choice.uuid.all (fun c => c.alphanumeric || c == chr '-')
  | .invoke _ _ | .commit _ | .rollback _ => true

theorem generatedEvents {es : List (Pool.Event Call Choice)} (generated : es.all generatedId = true) :
    ∀ e ∈ es, GeneratedIds e := by
  intro e here
  have own := List.all_eq_true.mp generated e here
  cases e with
  | advance t choice =>
    simp only [generatedId,Bool.and_eq_true,decide_eq_true_eq,List.all_eq_true] at own
    exact own
  | invoke t call => trivial
  | commit t => trivial
  | rollback t => trivial

theorem batchSends (inv : StoreInv i sv) (kept : ServerNamed sv) (b : Nat) : ∃ uploads : List Upload,
    uploads.map Upload.file = sv.tables.filesOf b ∧ ∀ u ∈ uploads, u.Sends i sv.tables ∧ u.ids.Nodup :=
  eachChosen (fun _ here => fileSends inv kept (List.mem_of_mem_filter here))

section
variable {b : Nat} {uploads : List Upload} (inv : StoreInv i sv) (files : uploads.map Upload.file = sv.tables.filesOf b)
  (sends : ∀ u ∈ uploads, u.Sends i sv.tables ∧ u.ids.Nodup)
include inv files sends

theorem sentOnce : (uploads.flatMap Upload.ids).Nodup := by
  refine List.nodup_flatMap.mpr ⟨fun u here => (sends u here).2,?_⟩
  have uuids : (uploads.map (fun u => u.file.fileUuid)).Nodup := by
    have own : ((sv.tables.filesOf b).map BatchFile.fileUuid).Nodup :=
      inv.distinct.sublist (List.filter_sublist.map BatchFile.fileUuid)
    rw [← files,List.map_map] at own
    exact own
  refine (List.pairwise_map.mp uuids).imp_of_mem (fun {u v} here there apart id first second => ?_)
  obtain ⟨r,found,file⟩ := ((sends u here).1.assigned id).mp first
  obtain ⟨r',found',file'⟩ := ((sends v there).1.assigned id).mp second
  rw [found] at found'
  cases found'
  exact apart (Option.some.inj (file.symm.trans file'))

theorem sentAssigned (id : PyStr) : id ∈ uploads.flatMap Upload.ids ↔ Assigned sv.tables b id := by
  constructor
  · intro sent
    obtain ⟨u,here,inside⟩ := List.mem_flatMap.mp sent
    obtain ⟨r,found,file⟩ := ((sends u here).1.assigned id).mp inside
    obtain ⟨f,listed,uuid,owner⟩ := inv.assigned r (Table.findMember found) _ file
    have mine : u.file ∈ sv.tables.filesOf b := by
      rw [← files]
      exact List.mem_map_of_mem here
    obtain ⟨known,batch⟩ := List.mem_filter.mp mine
    have same : f = u.file := List.inj_on_of_nodup_map inv.distinct listed known uuid
    refine ⟨r,found,?_,by rw [file]; exact Option.some_ne_none _⟩
    rw [← owner,same]
    exact of_decide_eq_true batch
  · rintro ⟨r,found,batch,some_⟩
    obtain ⟨uuid,file⟩ := Option.ne_none_iff_exists'.mp some_
    obtain ⟨f,listed,same,owner⟩ := inv.assigned r (Table.findMember found) _ file
    have mine : f ∈ uploads.map Upload.file := by
      rw [files]
      exact List.mem_filter.mpr ⟨listed,decide_eq_true (owner.trans batch)⟩
    obtain ⟨u,here,rfl⟩ := List.mem_map.mp mine
    refine List.mem_flatMap.mpr ⟨u,here,((sends u here).1.assigned id).mpr ⟨r,found,?_⟩⟩
    rw [file,same]

end

theorem answerFiles {es : List (Pool.Event Call Choice)} {w : World} (ran : run i es = some w) {t seq : Nat}
    {p : PrepareCall} {r : Prepared} (listed : (w.session t).outcomes[seq]? = some (.prepare p,.ok (some r)))
    (some_ : r.all ≠ []) :
    r = categorizeExistingPayloads (w.shared.tables.filesOf p.batch.value) p.counter.azureMaxFilesPerJob := by
  refine Option.some.inj (answerKept ran listed rfl ?_)
  intro none_
  obtain ⟨answer,same,before,ws,after,history,first,value⟩ := ((reachableGood ran).sessions t).recorded seq _ _ listed
  cases same
  have upTo : through t seq w.shared.history = before ++ [⟨t,seq,ws⟩] := by
    rw [history]
    exact throughFirst (e := ⟨t,seq,ws⟩) first
  rw [filesWhenReturned,upTo] at none_
  rw [none_] at value
  rw [value] at some_
  exact some_ rfl

/-- Whatever else runs meanwhile, the payloads that a preparation returned upload the requests that
have a file in its batch, each in the line of one of them. -/
theorem preparedUploads {es : List (Pool.Event Call Choice)} {w : World} (ran : run i es = some w)
    (generated : es.all generatedId = true) {t seq : Nat} {p : PrepareCall} {r : Prepared}
    (listed : (w.session t).outcomes[seq]? = some (.prepare p,.ok (some r))) : ∃ uploads : List Upload,
      r.all.Perm (uploads.map Upload.payload) ∧ (∀ u ∈ uploads, u.Sends i w.shared.tables) ∧
        (uploads.flatMap Upload.ids).Nodup ∧
        (r.all ≠ [] → ∀ id, id ∈ uploads.flatMap Upload.ids ↔ Assigned w.shared.tables p.batch.value id) := by
  by_cases none_ : r.all = []
  · exact ⟨[],by rw [none_]; exact .refl _,by simp,by simp,fun some_ => absurd none_ some_⟩
  · have inv := (reachableGood ran).shared
    obtain ⟨uploads,files,sends⟩ := batchSends inv (reachableNamed ran (generatedEvents generated)) p.batch.value
    refine ⟨uploads,?_,fun u here => (sends u here).1,sentOnce inv files sends,fun _ => sentAssigned inv files sends⟩
    rw [answerFiles ran listed none_]
    have payloads : uploads.map Upload.payload = (w.shared.tables.filesOf p.batch.value).map
        (fun row => ⟨row.filePath,row.requestCount,row.totalTokens⟩) := by
      rw [← files,List.map_map]
      rfl
    rw [payloads]
    exact categorizedAll _ _

def firstPrepared (w : World) (t : Nat) : Option (PrepareCall × Prepared) :=
  match (w.session t).outcomes with
  | (.prepare p,.ok (some r))::_ => some (p,r)
  | _ => none

theorem preparedListed {w : World} {t : Nat} {p : PrepareCall} {r : Prepared} (h : firstPrepared w t = some (p,r)) :
    (w.session t).outcomes[0]? = some (.prepare p,.ok (some r)) := by
  unfold firstPrepared at h
  split at h
  · rename_i listed
    cases h
    rw [listed]
    rfl
  · cases h

theorem oneUploaded : ∃ w p r, run smallInterpreter exampleRun = some w ∧ firstPrepared w 1 = some (p,r) ∧
    r.all.length = 1 ∧ ∃ uploads : List Upload, r.all.Perm (uploads.map Upload.payload) ∧
      (∀ u ∈ uploads, u.Sends smallInterpreter w.shared.tables) ∧ (uploads.flatMap Upload.ids).Nodup ∧
      (r.all ≠ [] → ∀ id, id ∈ uploads.flatMap Upload.ids ↔ Assigned w.shared.tables p.batch.value id) := by
  have ended : ((run smallInterpreter exampleRun).bind (fun w => firstPrepared w 1)).map (fun out => out.2.all.length) =
      some 1 := by decide +kernel
  obtain ⟨⟨p,r⟩,some_,size⟩ := Option.map_eq_some_iff.mp ended
  obtain ⟨w,ran,first⟩ := Option.bind_eq_some_iff.mp some_
  exact ⟨w,p,r,ran,first,size,preparedUploads ran (by decide +kernel) (preparedListed first)⟩

end
end PgLlmBatch
