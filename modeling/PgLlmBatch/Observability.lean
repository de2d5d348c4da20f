import PgLlmBatch.Base.Json
import PgLlmBatch.Base.Nested
import PgLlmBatch.Base.PyFloat

/-! The telemetry of the batch client: what an observed operation asks of the tracer, the span and
the instruments, and the client whose public operations run through it. -/
namespace PgLlmBatch
open Base

inductive ErrorClass where
  | cancelledError | configError | connectionError | exception | gatewayError | osError | pgLlmBatchError
  | runtimeError | timeoutError | tokenLimitExceededError | typeError | validationError | valueError | other
  deriving DecidableEq, Repr

-- An exception object: which one it is, its exact class, and whether `(Exception, CancelledError)`
-- catches it.
structure ExceptionObject where
  identity : Nat
  errorClass : ErrorClass
  isolated : Bool
  deriving DecidableEq, Repr

def errorTypeOther : String := "_OTHER"

def errorTypeNames : ErrorClass → Option String
  | .cancelledError => some "CancelledError"
  | .configError => some "ConfigError"
  | .connectionError => some "ConnectionError"
  | .exception => some "Exception"
  | .gatewayError => some "GatewayError"
  | .osError => some "OSError"
  | .pgLlmBatchError => some "PgLlmBatchError"
  | .runtimeError => some "RuntimeError"
  | .timeoutError => some "TimeoutError"
  | .tokenLimitExceededError => some "TokenLimitExceededError"
  | .typeError => some "TypeError"
  | .validationError => some "ValidationError"
  | .valueError => some "ValueError"
  | .other => none

def boundedErrorType (error : ExceptionObject) : String := (errorTypeNames error.errorClass).getD errorTypeOther

def instrumentationScopeName : String := "pg_llm_batch"
def operationNameAttribute : String := "pg_llm_batch.operation.name"
def operationOutcomeAttribute : String := "pg_llm_batch.operation.outcome"
def errorTypeAttribute : String := "error.type"

abbrev Attributes := List (String × String)

section
variable (Obj Clock : Type)

inductive TelemetrySignal where
  | createCounter (name unit description : String)
  | createHistogram (name unit description : String)
  | setAttribute (span : Obj) (key value : String)
  | setErrorStatus (span : Obj)
  | add (amount : Int) (attributes : Attributes)
  | record (seconds : Clock) (attributes : Attributes)
  | exit (spanContext : Obj)

inductive TelemetryCall where
  | perfCounter
  | startAsCurrentSpan (spanName : String) (recordException setStatusOnException : Bool)
  | enter (spanContext : Obj)
  | signal (s : TelemetrySignal Obj Clock)

end

variable {Obj Clock V : Type}

-- Everything but the clock may fail; a span context or a span may also be None.
abbrev TelemetryReply : TelemetryCall Obj Clock → Type
  | .perfCounter => Clock
  | .startAsCurrentSpan _ _ _ => Except ExceptionObject (Option Obj)
  | .enter _ => Except ExceptionObject (Option Obj)
  | .signal _ => Except ExceptionObject Unit

abbrev TelemetryProgram (Obj Clock : Type) := Program (TelemetryCall Obj Clock) TelemetryReply ExceptionObject
abbrev TelemetryEvent (Obj Clock : Type) := Loop.Event (TelemetryCall Obj Clock) TelemetryReply

def telemetryOrDefault {α : Type} (action : TelemetryProgram Obj Clock α) (default : α) : TelemetryProgram Obj Clock α :=
  action.handle (fun e => if e.isolated then return default else throw e)

def tell (s : TelemetrySignal Obj Clock) : TelemetryProgram Obj Clock Unit := .call (.signal s) Program.ofExcept

inductive Instrument where | injected | noOp
  deriving DecidableEq, Repr

structure Instruments where
  operationCount : Instrument
  operationDuration : Instrument
  deriving DecidableEq, Repr

def createInstruments : TelemetryProgram Obj Clock Instruments := do
  let operationCount ← telemetryOrDefault (do
    tell (.createCounter "pg_llm_batch.client.operation.count" "{operation}"
      "Number of completed pg-llm-batch client operations.")
    return .injected) .noOp
  let operationDuration ← telemetryOrDefault (do
    tell (.createHistogram "pg_llm_batch.client.operation.duration" "s"
      "Duration of completed pg-llm-batch client operations.")
    return .injected) .noOp
  return ⟨operationCount,operationDuration⟩

def enterSpanContext : Option Obj → TelemetryProgram Obj Clock (Option Obj × Bool)
  | none => return (none,false)
  | some spanContext =>
      telemetryOrDefault (.call (.enter spanContext) (fun entered => do
        let span ← Program.ofExcept entered
        return (span,true))) (none,false)

def useSpan (span : Option Obj) (action : Obj → TelemetryProgram Obj Clock Unit) : TelemetryProgram Obj Clock Unit :=
  match span with
  | none => return ()
  | some span => telemetryOrDefault (action span) ()

-- Without a span the attribute lookup fails, and that failure is isolated too.
def markErrorSpanStatus (span : Option Obj) : TelemetryProgram Obj Clock Unit :=
  match span with
  | none => return ()
  | some span => telemetryOrDefault (tell (.setErrorStatus span)) ()

variable [Sub Clock]

def emitMeasurements (instruments : Instruments) (startedAt : Clock) (attributes : Attributes) :
    TelemetryProgram Obj Clock Unit := do
  telemetryOrDefault (match instruments.operationCount with
    | .noOp => return ()
    | .injected => tell (.add 1 attributes)) ()
  telemetryOrDefault (.call .perfCounter (fun now => match instruments.operationDuration with
    | .noOp => return ()
    | .injected => tell (.record (now - startedAt) attributes))) ()

def closeSpanContext (spanContext : Option Obj) : TelemetryProgram Obj Clock Unit :=
  match spanContext with
  | none => return ()
  | some spanContext => telemetryOrDefault (tell (.exit spanContext)) ()

structure OperationObservation (Obj Clock : Type) where
  operationName : String
  startedAt : Clock
  spanContext : Option Obj
  span : Option Obj
  spanEntered : Bool

def openObservation (operationName : String) : TelemetryProgram Obj Clock (OperationObservation Obj Clock) :=
  .call .perfCounter (fun startedAt => do
    let spanContext ← telemetryOrDefault (.call
      (.startAsCurrentSpan (instrumentationScopeName ++ "." ++ operationName) false false) Program.ofExcept) none
    let (span,spanEntered) ← enterSpanContext spanContext
    useSpan span (fun activeSpan => tell (.setAttribute activeSpan operationNameAttribute operationName))
    return ⟨operationName,startedAt,spanContext,span,spanEntered⟩)

def closeEntered (o : OperationObservation Obj Clock) : TelemetryProgram Obj Clock Unit :=
  if o.spanEntered then closeSpanContext o.spanContext else return ()

def closeObservation (instruments : Instruments) (o : OperationObservation Obj Clock) :
    Except ExceptionObject V → TelemetryProgram Obj Clock V
  | .error exc => do
      let errorType := boundedErrorType exc
      useSpan o.span (fun activeSpan => tell (.setAttribute activeSpan errorTypeAttribute errorType))
      markErrorSpanStatus o.span
      emitMeasurements instruments o.startedAt [(operationNameAttribute,o.operationName),
        (operationOutcomeAttribute,"error"),(errorTypeAttribute,errorType)]
      closeEntered o
      throw exc
  | .ok result => do
      emitMeasurements instruments o.startedAt [(operationNameAttribute,o.operationName),
        (operationOutcomeAttribute,"success")]
      closeEntered o
      return result

-- A call as its caller writes it: the arguments with a default may be left out.
inductive PublicCall where
  | uploadJsonl (filePath endpointAlias : PyStr) (purpose : Option PyStr) (expiresAfterSeconds : Option Json)
  | createBatchJob (inputFileId endpointAlias : PyStr) (endpoint : Option PyStr)
      (metadata outputExpiresAfterSeconds : Option Json)
  | deleteFile (fileId endpointAlias : PyStr)
  | getBatchStatus (batchId endpointAlias : PyStr)
  | waitForBatch (batchId endpointAlias : PyStr) (pollIntervalSeconds timeoutSeconds : Option Json)
  | downloadResults (batchId endpointAlias : PyStr)
  | cancelBatch (batchId endpointAlias : PyStr)

-- What a method of the base client receives.
inductive BaseCall where
  | uploadJsonl (filePath endpointAlias purpose : PyStr) (expiresAfterSeconds : Json)
  | createBatchJob (inputFileId endpointAlias endpoint : PyStr) (metadata outputExpiresAfterSeconds : Json)
  | deleteFile (fileId endpointAlias : PyStr)
  | getBatchStatus (batchId endpointAlias : PyStr)
  | waitForBatch (batchId endpointAlias : PyStr) (pollIntervalSeconds timeoutSeconds : Json)
  | downloadResults (batchId endpointAlias : PyStr)
  | cancelBatch (batchId endpointAlias : PyStr)

def BatchAPIClient.receive : PublicCall → BaseCall
  | .uploadJsonl filePath endpointAlias purpose expiresAfterSeconds =>
      .uploadJsonl filePath endpointAlias (purpose.getD (py "batch")) (expiresAfterSeconds.getD .null)
  | .createBatchJob inputFileId endpointAlias endpoint metadata outputExpiresAfterSeconds =>
      .createBatchJob inputFileId endpointAlias (endpoint.getD (py "/v1/chat/completions")) (metadata.getD .null)
        (outputExpiresAfterSeconds.getD .null)
  | .deleteFile fileId endpointAlias => .deleteFile fileId endpointAlias
  | .getBatchStatus batchId endpointAlias => .getBatchStatus batchId endpointAlias
  | .waitForBatch batchId endpointAlias pollIntervalSeconds timeoutSeconds =>
      .waitForBatch batchId endpointAlias (pollIntervalSeconds.getD (.float (.ofDecimal false 5 0)))
        (timeoutSeconds.getD (.float (.ofDecimal false 3600 0)))
  | .downloadResults batchId endpointAlias => .downloadResults batchId endpointAlias
  | .cancelBatch batchId endpointAlias => .cancelBatch batchId endpointAlias

namespace OpenTelemetryBatchAPIClient

def operationName : PublicCall → String
  | .uploadJsonl _ _ _ _ => "upload_jsonl"
  | .createBatchJob _ _ _ _ _ => "create_batch_job"
  | .deleteFile _ _ => "delete_file"
  | .getBatchStatus _ _ => "get_batch_status"
  | .waitForBatch _ _ _ _ => "wait_for_batch"
  | .downloadResults _ _ => "download_results"
  | .cancelBatch _ _ => "cancel_batch"

-- The call of the base client's method that an observed method makes, after its own defaults.
def operation : PublicCall → BaseCall
  | .uploadJsonl filePath endpointAlias purpose expiresAfterSeconds =>
      let purpose := purpose.getD (py "batch")
      let expiresAfterSeconds := expiresAfterSeconds.getD .null
      BatchAPIClient.receive (.uploadJsonl filePath endpointAlias (some purpose) (some expiresAfterSeconds))
  | .createBatchJob inputFileId endpointAlias endpoint metadata outputExpiresAfterSeconds =>
      let endpoint := endpoint.getD (py "/v1/chat/completions")
      let metadata := metadata.getD .null
      let outputExpiresAfterSeconds := outputExpiresAfterSeconds.getD .null
      BatchAPIClient.receive (.createBatchJob inputFileId endpointAlias (some endpoint) (some metadata)
        (some outputExpiresAfterSeconds))
  | .deleteFile fileId endpointAlias => BatchAPIClient.receive (.deleteFile fileId endpointAlias)
  | .getBatchStatus batchId endpointAlias => BatchAPIClient.receive (.getBatchStatus batchId endpointAlias)
  | .waitForBatch batchId endpointAlias pollIntervalSeconds timeoutSeconds =>
      let pollIntervalSeconds := pollIntervalSeconds.getD (.float (.ofDecimal false 5 0))
      let timeoutSeconds := timeoutSeconds.getD (.float (.ofDecimal false 3600 0))
      BatchAPIClient.receive (.waitForBatch batchId endpointAlias (some pollIntervalSeconds) (some timeoutSeconds))
  | .downloadResults batchId endpointAlias => BatchAPIClient.receive (.downloadResults batchId endpointAlias)
  | .cancelBatch batchId endpointAlias => BatchAPIClient.receive (.cancelBatch batchId endpointAlias)

theorem sameOperation : @operation = BatchAPIClient.receive := by
  funext op
  cases op <;> rfl

end OpenTelemetryBatchAPIClient

section
variable (S : Type) (Reply : S → Type) (Obj Clock V σ : Type)

inductive Control where
  | running (st : σ)
  | opening (st : σ) (depthToken : Nat) (p : TelemetryProgram Obj Clock (OperationObservation Obj Clock))
  | closing (out : Except ExceptionObject V) (resume : Except ExceptionObject V → σ) (depthToken : Nat)
      (p : TelemetryProgram Obj Clock V)

structure Frame where
  resume : Except ExceptionObject V → σ
  observed : Option (OperationObservation Obj Clock × Nat)

abbrev BaseEvent := Nested.Event S Reply BaseCall ExceptionObject V

inductive ObservedEvent where
  | base (e : BaseEvent S Reply V)
  | telemetry (e : TelemetryEvent Obj Clock)

-- One task of the observed client; `depth` is what its context variable holds.
structure Observed where
  control : Control Obj Clock V σ
  frames : List (Frame Obj Clock V σ)
  depth : Nat
  log : List (ObservedEvent S Reply Obj Clock V)

end

namespace OpenTelemetryBatchAPIClient

section
variable {S : Type} {Reply : S → Type} {σ : Type}

-- How the tracer, the spans and the instruments may answer, after what has happened.
abbrev Telemetry (S : Type) (Reply : S → Type) (Obj Clock V : Type) :=
  List (ObservedEvent S Reply Obj Clock V) → (t : TelemetryCall Obj Clock) → TelemetryReply t → Prop

inductive Step (ops : Nested.Operations S Reply PublicCall BaseCall ExceptionObject V σ) (instruments : Instruments)
    (behaves : Telemetry S Reply Obj Clock V) :
    Observed S Reply Obj Clock V σ → Observed S Reply Obj Clock V σ → Prop where
  | internal {st st' frames depth log} (here : ops.next st = .internal st') :
      Step ops instruments behaves ⟨.running st,frames,depth,log⟩ ⟨.running st',frames,depth,log⟩
  | call {st s resume frames depth log} (here : ops.next st = .call s resume) (reply : Reply s) :
      Step ops instruments behaves ⟨.running st,frames,depth,log⟩
        ⟨.running (resume reply),frames,depth,log ++ [.base (.external ⟨s,reply⟩)]⟩
  | nested {st op resume frames depth log} (here : ops.next st = .dispatch op resume) (inside : 0 < depth) :
      Step ops instruments behaves ⟨.running st,frames,depth,log⟩
        ⟨.running (ops.start (operation op)),⟨resume,none⟩ :: frames,depth,log ++ [.base (.began (operation op))]⟩
  | observe {st op resume frames depth log} (here : ops.next st = .dispatch op resume) (outside : ¬0 < depth) :
      Step ops instruments behaves ⟨.running st,frames,depth,log⟩
        ⟨.opening st depth (openObservation (operationName op)),frames,1,log⟩
  | opening {st token t next frames depth log} (reply : TelemetryReply t) (behaved : behaves log t reply) :
      Step ops instruments behaves ⟨.opening st token (.call t next),frames,depth,log⟩
        ⟨.opening st token (next reply),frames,depth,log ++ [.telemetry ⟨t,reply⟩]⟩
  | opened {st op resume token o frames depth log} (here : ops.next st = .dispatch op resume) :
      Step ops instruments behaves ⟨.opening st token (.ret o),frames,depth,log⟩
        ⟨.running (ops.start (operation op)),⟨resume,some (o,token)⟩ :: frames,depth,
          log ++ [.base (.began (operation op))]⟩
  | openingRaised {st op resume token e frames depth log} (here : ops.next st = .dispatch op resume) :
      Step ops instruments behaves ⟨.opening st token (.raise e),frames,depth,log⟩
        ⟨.running (resume (.error e)),frames,token,log⟩
  | finish {st out resume frames depth log} (here : ops.next st = .finish out) :
      Step ops instruments behaves ⟨.running st,⟨resume,none⟩ :: frames,depth,log⟩
        ⟨.running (resume out),frames,depth,log ++ [.base (.ended out)]⟩
  | close {st out resume o token frames depth log} (here : ops.next st = .finish out) :
      Step ops instruments behaves ⟨.running st,⟨resume,some (o,token)⟩ :: frames,depth,log⟩
        ⟨.closing out resume token (closeObservation instruments o out),frames,depth,log ++ [.base (.ended out)]⟩
  | closing {out resume token t next frames depth log} (reply : TelemetryReply t) (behaved : behaves log t reply) :
      Step ops instruments behaves ⟨.closing out resume token (.call t next),frames,depth,log⟩
        ⟨.closing out resume token (next reply),frames,depth,log ++ [.telemetry ⟨t,reply⟩]⟩
  | closed {out resume token v frames depth log} :
      Step ops instruments behaves ⟨.closing out resume token (.ret v),frames,depth,log⟩
        ⟨.running (resume (.ok v)),frames,token,log⟩
  | closingRaised {out resume token e frames depth log} :
      Step ops instruments behaves ⟨.closing out resume token (.raise e),frames,depth,log⟩
        ⟨.running (resume (.error e)),frames,token,log⟩

def Reaches (ops : Nested.Operations S Reply PublicCall BaseCall ExceptionObject V σ) (instruments : Instruments)
    (behaves : Telemetry S Reply Obj Clock V) :
    Observed S Reply Obj Clock V σ → Observed S Reply Obj Clock V σ → Prop :=
  Relation.ReflTransGen (Step ops instruments behaves)

end

end OpenTelemetryBatchAPIClient

end PgLlmBatch
