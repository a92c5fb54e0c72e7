import Fpd.Service.Protocol

namespace Fpd
namespace Service

/-!
# Calling a provider

The wrappers around the calls of a provider runtime.  The runtime and the
codecs are not part of the daemon: a runtime is the module it was compiled
from, and what its calls answer is an argument, given anew for every call.  An
error of theirs is its debug text.

Code that panics has no value to return.  `deserialize_from_slice` panics on
bytes that do not decode.
-/

/-- The end of a computation that may panic. -/
inductive Outcome (Value : Type)
  | panicked
  | returned (value : Value)
  deriving DecidableEq, Repr

namespace Outcome

def map {Value Result : Type} (function : Value -> Result) : Outcome Value -> Outcome Result
  | .panicked => .panicked
  | .returned value => .returned (function value)

def bind {Value Result : Type} (function : Value -> Outcome Result) :
    Outcome Value -> Outcome Result
  | .panicked => .panicked
  | .returned value => function value

end Outcome

/-- The encodings and constants of the protocol. -/
structure Codec where
  statusQueryType : String
  statusMimeType : String
  requestFromSlice : Bytes -> Except String ProviderRequest
  requestToVecNamed : ProviderRequest -> Except String Bytes
  responseFromSlice : Bytes -> Except String (Except Error Blob)
  serializeToVec : Value -> Bytes
  deserializeFromSlice : Bytes -> Option (List SupportedQueryType)
  deserializeMsgpack : Bytes -> Except String ServerMessage
  serializeMsgpack : ProxyMessage -> Bytes
  debugPayload : ProxyMessagePayload -> String

/-- A compiled wasm module. -/
structure Runtime where
  wasm : Bytes
  deriving DecidableEq, Repr

/-- What the calls of runtimes answer at some moment.  They are taken to return:
where it matters that a runtime may panic instead, that is a step of its own. -/
structure Provider where
  invoke2Raw : Runtime -> Bytes -> Except String Bytes
  createCells : Runtime -> String -> Blob -> Except String (Except Error (List Cell))
  extractData : Runtime -> Blob -> String -> Option String -> Except String (Except Error Blob)
  getConfigSchema : Runtime -> Except String ConfigSchema
  getSupportedQueryTypesRaw : Runtime -> Bytes -> Except String Bytes

namespace Bindings

/-- The error of a call that the runtime did not complete. -/
def invocationError (err : String) : Error :=
  .invocation ("Error invoking provider: " ++ err)

/-- The bytes handed to the runtime: the request with the configuration of the
data source in place of its own. -/
def injectConfig (codec : Codec) (request : Bytes) (config : Map) : Except Error Bytes :=
  match codec.requestFromSlice request with
  | .error err => .error (.deserialization ("Error deserializing provider request: " ++ err))
  | .ok request =>
      match codec.requestToVecNamed { request with config := .object config } with
      | .error err => .error (.deserialization ("Error serializing request: " ++ err))
      | .ok request => .ok request

def invokeProviderV2 (codec : Codec) (provider : Provider) (runtime : Runtime) (request : Bytes)
    (config : Map) : Except Error Bytes :=
  match injectConfig codec request config with
  | .error error => .error error
  | .ok request => (provider.invoke2Raw runtime request).mapError invocationError

def createCells (provider : Provider) (runtime : Runtime) (queryType : String) (response : Blob) :
    Except Error (Except Error (List Cell)) :=
  (provider.createCells runtime queryType response).mapError invocationError

def extractData (provider : Provider) (runtime : Runtime) (response : Blob) (mimeType : String)
    (query : Option String) : Except Error (Except Error Blob) :=
  (provider.extractData runtime response mimeType query).mapError invocationError

def getConfigSchema (provider : Provider) (runtime : Runtime) : Except Error ConfigSchema :=
  (provider.getConfigSchema runtime).mapError invocationError

def getSupportedQueryTypes (codec : Codec) (provider : Provider) (runtime : Runtime)
    (config : Map) : Outcome (Except Error (List SupportedQueryType)) :=
  match provider.getSupportedQueryTypesRaw runtime (codec.serializeToVec (.object config)) with
  | .error err => .returned (.error (invocationError err))
  | .ok result =>
      match codec.deserializeFromSlice result with
      | none => .panicked
      | some queries => .returned (.ok queries)

theorem getSupportedQueryTypes_panicked_iff (codec : Codec) (provider : Provider)
    (runtime : Runtime) (config : Map) :
    getSupportedQueryTypes codec provider runtime config = .panicked ↔
      Exists fun result =>
        provider.getSupportedQueryTypesRaw runtime (codec.serializeToVec (.object config)) =
          .ok result ∧ codec.deserializeFromSlice result = none := by
  unfold getSupportedQueryTypes
  cases called : provider.getSupportedQueryTypesRaw runtime
      (codec.serializeToVec (.object config)) with
  | error err => simp
  | ok result => cases decoded : codec.deserializeFromSlice result <;> simp [decoded]

end Bindings
end Service
end Fpd
