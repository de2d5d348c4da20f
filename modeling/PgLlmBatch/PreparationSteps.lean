import PgLlmBatch.PreparationCommit

/-! What one statement does: until the end of its transaction a session only gains locks and
UUIDs, and its commit is the one step that changes the committed tables. -/
namespace PgLlmBatch.Preparation
open Base
open Base.Pool (Caller)
open Base.RelyGuarantee (Safe)

structure Quiet (a b : Server) : Prop where
  history : b.history = a.history
  locks : ∀ l u, a.holder l = some u → b.holder l = some u
  issued : ∀ x u, a.issued x = some u → b.issued x = some u

theorem quietRefl (sv : Server) : Quiet sv sv := ⟨rfl,fun _ _ held => held,fun _ _ known => known⟩

section
variable {i : Interpreter} {a b : Server}

theorem quietTables (h : Quiet a b) : b.tables = a.tables := congrArg tablesAfter h.history

theorem quietLater (h : Quiet a b) (t : Nat) : Later t a b where
  history := ⟨[],by rw [h.history,List.append_nil],by simp⟩
  locks l held := ⟨h.locks l t held,by rw [quietTables h]; exact keptRefl _ l⟩
  issued x known := h.issued x t known
  unnamed x _ unnamed := by rw [quietTables h]; exact unnamed

theorem quietRespects (h : Quiet a b) (t seq : Nat) : Respects t seq a b where
  history := ⟨[],by rw [h.history,List.append_nil],by simp⟩
  locks l u _ held := ⟨h.locks l u held,by rw [quietTables h]; exact keptRefl _ l⟩
  issued x u known := h.issued x u known
  unnamed x u _ _ unnamed := by rw [quietTables h]; exact unnamed

theorem quietInv (h : Quiet a b) (inv : StoreInv i a) : StoreInv i b := by
  have same := quietTables h
  obtain ⟨keys,stored,distinct,assigned,parts,totals,issued,created⟩ := inv
  refine ⟨by rwa [same],by rwa [same],by rwa [same],by rwa [same],by rwa [same],by rwa [same],?_,by rwa [h.history]⟩
  intro u named none_
  rw [same] at named
  cases known : a.issued u with
  | none => exact issued u named known
  | some owner =>
    have kept := h.issued u owner known
    rw [none_] at kept
    cases kept

end

section
variable {Call : Type} {c : Caller Call} {choice : Choice} {sv out : Server} {tx tx' : Transaction}

theorem lockingDone {α : Type} {ls : List Lock} {next : Server → Answer α} {r : Except PyError α × Server × Transaction}
    (h : locking c sv ls next = some r) :
    Quiet sv (sv.take c.tx ls) ∧ (∀ l ∈ ls, (sv.take c.tx ls).holder l = some c.tx) ∧ next (sv.take c.tx ls) = some r := by
  unfold locking at h
  split at h <;> try contradiction
  rename_i granted
  refine ⟨⟨rfl,fun l u held => ?_,fun _ _ known => known⟩,fun l member => if_pos member,h⟩
  show (if l ∈ ls then some c.tx else sv.holder l) = some u
  split
  · rename_i member
    have free := List.all_eq_true.mp granted l member
    simp only [Server.grants,held,Bool.or_eq_true,decide_eq_true_eq,reduceCtorEq,false_or] at free
    exact free.symm
  · exact held

theorem issueQuiet {uuid : PyStr} (fresh : sv.issued uuid = none) (t : Nat) : Quiet sv (sv.issue t uuid) := by
  refine ⟨rfl,fun _ _ held => held,fun x u known => ?_⟩
  have other : x ≠ uuid := by
    rintro rfl
    rw [fresh] at known
    cases known
  show Function.update sv.issued uuid (some t) x = some u
  rw [Function.update_of_ne other,known]

def Statement.plain : Statement → Bool
  | .commit | .rollback => false
  | _ => true

/-- What a statement that goes through writes. -/
inductive Writes : Statement → List Write → Prop
  | payload (row) : Writes (.insertPayload row) [.payload row]
  | file (uuid batch queue filePath partIndex requestCount totalTokens payloadFileId) :
      Writes (.insertFile batch queue filePath partIndex requestCount totalTokens payloadFileId)
        [.file ⟨uuid,batch,queue,filePath,payloadFileId,partIndex,requestCount,totalTokens⟩]
  | lines (rows) (accepted : List JsonlLine) : Writes (.insertLines rows) (accepted.map Write.line)
  | assigned (fileUuid batch requestIds) (rows : List Request) :
      Writes (.assignRequests fileUuid batch requestIds)
        (rows.map (fun r => Write.request {r with batchFileUuid := some fileUuid}))
  | totals (batch totalRequests totalTokens) (row : Batch) :
      Writes (.updateTotals batch totalRequests totalTokens)
        [.batch {row with totalRequests := totalRequests, totalTokens := totalTokens}]
  | batch (row) : Writes (.insertBatch row) [.batch row]
  | request (row batch createdAt) : Writes (.insertRequest row batch createdAt)
      [.request ⟨row,batch,createdAt,.queued,none⟩]
  | status (request status) (row : Request) : Writes (.updateStatus request status)
      [.request {row with requestStatus := status}]

inductive Performed (s : Statement) (sv : Server) (tx : Transaction) :
    Except PyError (Result s) → Server → Transaction → Prop
  | kept {reply out} (quiet : Quiet sv out) : Performed s sv tx reply out tx
  | wrote {value out new} (quiet : Quiet sv out) (writes : Writes s new) : Performed s sv tx (.ok value) out (tx.add new)

theorem performedQuiet {s : Statement} {reply : Except PyError (Result s)} (h : Performed s sv tx reply out tx') :
    Quiet sv out := by
  cases h with
  | kept quiet => exact quiet
  | wrote quiet writes => exact quiet

theorem performedRaised {s : Statement} {e : PyError} (h : Performed s sv tx (.error e) out tx') : tx' = tx := by
  cases h
  rfl

theorem lockBatchSource {batch : Nat} {reply : Except PyError (Result (.lockBatch batch))}
    (h : perform c choice sv tx (.lockBatch batch) = some (reply,out,tx')) :
    Performed (.lockBatch batch) sv tx reply out tx' := by
  simp only [perform] at h
  split at h
  · cases h
    exact .kept (quietRefl sv)
  · obtain ⟨quiet,-,next⟩ := lockingDone h
    cases next
    exact .kept quiet

theorem insertFileSource {batch queue partIndex requestCount totalTokens : Nat} {filePath payloadFileId : PyStr}
    {reply : Except PyError (Result (.insertFile batch queue filePath partIndex requestCount totalTokens payloadFileId))}
    (h : perform c choice sv tx (.insertFile batch queue filePath partIndex requestCount totalTokens payloadFileId) =
      some (reply,out,tx')) :
    Performed (.insertFile batch queue filePath partIndex requestCount totalTokens payloadFileId) sv tx reply out tx' := by
  simp only [perform] at h
  split at h <;> try contradiction
  rename_i fresh
  split at h
  · cases h
    exact .kept (quietRefl sv)
  split at h
  · cases h
    exact .kept (quietRefl sv)
  · cases h
    exact .wrote (issueQuiet fresh c.tx) (.file _ _ _ _ _ _ _ _)

theorem updateTotalsSource {batch totalRequests totalTokens : Nat}
    {reply : Except PyError (Result (.updateTotals batch totalRequests totalTokens))}
    (h : perform c choice sv tx (.updateTotals batch totalRequests totalTokens) = some (reply,out,tx')) :
    Performed (.updateTotals batch totalRequests totalTokens) sv tx reply out tx' := by
  simp only [perform] at h
  split at h
  · cases h
    exact .kept (quietRefl sv)
  · obtain ⟨quiet,-,next⟩ := lockingDone h
    split at next
    · cases next
      exact .kept quiet
    · cases next
      exact .wrote quiet (.totals _ _ _ _)

theorem insertBatchSource {row : Batch} {reply : Except PyError (Result (.insertBatch row))}
    (h : perform c choice sv tx (.insertBatch row) = some (reply,out,tx')) :
    Performed (.insertBatch row) sv tx reply out tx' := by
  simp only [perform] at h
  obtain ⟨quiet,-,next⟩ := lockingDone h
  split at next
  · cases next
    exact .kept quiet
  · cases next
    exact .wrote quiet (.batch row)

theorem insertRequestSource {row : RequestRow} {batch : Nat} {createdAt : Int}
    {reply : Except PyError (Result (.insertRequest row batch createdAt))}
    (h : perform c choice sv tx (.insertRequest row batch createdAt) = some (reply,out,tx')) :
    Performed (.insertRequest row batch createdAt) sv tx reply out tx' := by
  simp only [perform] at h
  obtain ⟨quiet,-,next⟩ := lockingDone h
  split at next
  · cases next
    exact .kept quiet
  split at next
  · cases next
    exact .kept quiet
  · cases next
    exact .wrote quiet (.request row batch createdAt)

theorem updateStatusSource {request : PyStr} {status : RequestStatus}
    {reply : Except PyError (Result (.updateStatus request status))}
    (h : perform c choice sv tx (.updateStatus request status) = some (reply,out,tx')) :
    Performed (.updateStatus request status) sv tx reply out tx' := by
  simp only [perform] at h
  split at h
  · cases h
    exact .kept (quietRefl sv)
  · obtain ⟨quiet,-,next⟩ := lockingDone h
    cases next
    exact .wrote quiet (.status _ _ _)

theorem performSource {s : Statement} {reply : Except PyError (Result s)} (plain : s.plain = true)
    (h : perform c choice sv tx s = some (reply,out,tx')) : Performed s sv tx reply out tx' := by
  cases s with
  | commit => cases plain
  | rollback => cases plain
  | queuedRequests batch =>
    simp only [perform] at h
    split at h <;> try contradiction
    cases h
    exact .kept (quietRefl sv)
  | advisoryXactLock key =>
    simp only [perform] at h
    obtain ⟨quiet,-,next⟩ := lockingDone h
    cases next
    exact .kept quiet
  | lockBatch batch => exact lockBatchSource h
  | existingFiles batch =>
    cases h
    exact .kept (quietRefl sv)
  | existsUnassigned batch =>
    cases h
    exact .kept (quietRefl sv)
  | uuid4 =>
    simp only [perform] at h
    split at h <;> try contradiction
    rename_i fresh
    cases h
    exact .kept (issueQuiet fresh c.tx)
  | insertPayload row =>
    cases h
    exact .wrote (quietRefl sv) (.payload row)
  | insertFile batch queue filePath partIndex requestCount totalTokens payloadFileId => exact insertFileSource h
  | insertLines rows =>
    simp only [perform] at h
    split at h
    · cases h
      exact .kept (quietRefl sv)
    · cases h
      exact .wrote (quietRefl sv) (.lines rows _)
  | assignRequests fileUuid batch requestIds =>
    simp only [perform] at h
    obtain ⟨quiet,-,next⟩ := lockingDone h
    cases next
    exact .wrote quiet (.assigned _ _ _ _)
  | updateTotals batch totalRequests totalTokens => exact updateTotalsSource h
  | insertBatch row => exact insertBatchSource h
  | insertRequest row batch createdAt => exact insertRequestSource h
  | updateStatus request status => exact updateStatusSource h

theorem executeSource {s : Statement} {reply : Except PyError (Result s)}
    (h : execute c s choice sv tx = some (reply,out,tx')) :
    (s.mayFail = true ∧ ∃ code, reply = .error (.database code) ∧ out = sv ∧ tx' = tx) ∨
      perform c choice sv tx s = some (reply,out,tx') := by
  unfold execute at h
  split at h
  · rename_i mayFail _
    cases h
    exact Or.inl ⟨mayFail,_,rfl,rfl,rfl⟩
  · exact Or.inr h

end

section
variable {i : Interpreter} {c : Caller Call} {sv : Server} {tx : Transaction}

theorem safeQuery {s : Statement} {post : Except PyError (Result s) → Server → Transaction → Prop}
    (plain : s.plain = true)
    (raised : ∀ out e, Later c.tx sv out → post (.error e) out tx)
    (done : ∀ mid choice r out tx', Later c.tx sv mid → StoreInv i mid → Quiet mid out →
      perform c choice mid tx s = some (.ok r,out,tx') → post (.ok r) out tx') :
    Safe engine (contract i) c post (query s) sv tx := by
  refine RelyGuarantee.safeBind ?_
  intro mid others kept choice reply out tx' ran
  have later := othersLater others
  rcases executeSource ran with ⟨-,state,rfl,rfl,rfl⟩ | performed
  · exact ⟨kept,respectsRefl _ _ _,raised _ _ later⟩
  · have source := performSource plain performed
    have quiet := performedQuiet source
    refine ⟨quietInv quiet kept,quietRespects quiet _ _,?_⟩
    cases reply with
    | error e =>
      rw [performedRaised source]
      exact raised out e (laterTrans later (quietLater quiet c.tx))
    | ok r => exact done mid choice r out tx' later kept quiet performed

theorem safeThen {α : Type} {s : Statement} {next : Result s → Code α}
    {post : Except PyError α → Server → Transaction → Prop} (plain : s.plain = true)
    (raised : ∀ out e, Later c.tx sv out → post (.error e) out tx)
    (done : ∀ mid choice r out tx', Later c.tx sv mid → StoreInv i mid → Quiet mid out →
      perform c choice mid tx s = some (.ok r,out,tx') → Safe engine (contract i) c post (next r) out tx') :
    Safe engine (contract i) c post (query s >>= next) sv tx :=
  RelyGuarantee.safeBind (safeQuery plain raised done)

theorem safeCommit {post : Except PyError Unit → Server → Transaction → Prop}
    (raised : ∀ out e, Later c.tx sv out → post (.error e) out tx)
    (ready : ∀ mid, Later c.tx sv mid → StoreInv i mid → Committable i c.tx mid tx.writes)
    (done : ∀ mid, Later c.tx sv mid → post (.ok ()) (mid.commit ⟨c.tx,c.seq,tx.writes⟩) ⟨[]⟩) :
    Safe engine (contract i) c post (query .commit) sv tx := by
  refine RelyGuarantee.safeBind ?_
  intro mid others kept choice reply out tx' ran
  have later := othersLater others
  rcases executeSource ran with ⟨-,state,rfl,rfl,rfl⟩ | performed
  · exact ⟨kept,respectsRefl _ _ _,raised _ _ later⟩
  · cases performed
    have good := ready mid later kept
    exact ⟨commitKeeps kept good c.seq,commitRespects good c.seq,done mid later⟩

theorem releaseRespects (t seq : Nat) (sv : Server) : Respects t seq sv (sv.release t) where
  history := ⟨[],(List.append_nil _).symm,by simp⟩
  locks l u other held := by
    refine ⟨?_,keptRefl _ l⟩
    show (if sv.holder l = some t then none else sv.holder l) = some u
    rw [held,if_neg (fun same => other (Option.some.inj same))]
  issued _ _ known := known
  unnamed _ _ _ _ unnamed := unnamed

theorem releaseInv (h : StoreInv i sv) (t : Nat) : StoreInv i (sv.release t) :=
  ⟨h.keys,h.stored,h.distinct,h.assigned,h.parts,h.totals,h.issued,h.created⟩

theorem safeTransaction {α : Type} {post : Except PyError α → Server → Transaction → Prop} {body : Code α}
    (h : Safe engine (contract i) c (fun r sv tx => match r with
      | .ok a => post (.ok a) sv tx
      | .error e => ∀ out, Later c.tx sv out → post (.error e) (out.release c.tx) ⟨[]⟩) body sv tx) :
    Safe engine (contract i) c post (transaction body) sv tx := by
  refine RelyGuarantee.safeHandle (RelyGuarantee.safeMono h ?_)
  rintro (e | a) sv tx held
  · intro mid others kept choice reply out tx' ran
    have rolled : execute c .rollback choice mid tx = some (reply,out,tx') := ran
    rcases executeSource rolled with ⟨mayFail,-⟩ | performed
    · cases mayFail
    · cases performed
      exact ⟨releaseInv kept c.tx,releaseRespects _ _ _,held mid (othersLater others)⟩
  · exact held

end
end PgLlmBatch.Preparation
