import PgLlmBatch.Base.Json

/-! The package's exceptions with the data they carry, and the built-in ones the modelled
functions let out. A rejected value that is an object is recorded by its class name. -/
namespace PgLlmBatch
open Base

inductive Evidence where
  | value (v : Json)
  | object (className : String)
  deriving Repr

def Evidence.text (s : PyStr) : Evidence := .value (.str s)
def Evidence.int (n : Int) : Evidence := .value (.int n)
def Evidence.redacted : Evidence := .value (.str (py "<redacted>"))

inductive PyError where
  | validation (field : String) (value : Evidence) (reason : String)
  | redactedValidation (field reason message : String)
  | reconciliationStore
  | virtualPayloadIntegrity
  | tokenLimitExceeded (currentTokens limitTokens : Int) (batchId : Option PyStr)
  | checkpointConflict (consumerName batchId : PyStr) (reason : String)
  | resultApplication (phase : String)
  | gateway (message : String) (statusCode : Option Int) (responseData : List (String × Json))
  | database (sqlState : String)
  | runtimeError (message : String)
  | valueError (message : String)
  | unicodeEncodeError
  | raised
  | interrupted
  deriving Repr

namespace PyError

def isCheckpointConflict : PyError → Bool
  | .checkpointConflict _ _ _ => true
  | _ => false

-- `except Exception` lets KeyboardInterrupt and its like through.
def isInterrupted : PyError → Bool
  | .interrupted => true
  | _ => false

end PyError

-- The `ValueError`s of the recovery modules, each with its fixed message, and what else may be
-- raised through them.
inductive RecoveryError where
  | receipt (message : String)
  | physicalRecovery (message : String)
  | backupEvidence (message : String)
  | schemaEvidence (message : String)
  | recoveryBinding (message : String)
  | recoveryVerification (message : String)
  | valueError
  | osError
  | interrupted
  deriving DecidableEq, Repr

-- A text parameter reaches PostgreSQL as UTF-8.
def bindText (s : PyStr) : Except PyError PyStr :=
  if s.encodeUtf8.isSome then .ok s else .error .unicodeEncodeError

end PgLlmBatch
