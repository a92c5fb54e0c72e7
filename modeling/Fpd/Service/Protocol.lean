import Fpd.Async.Channel

namespace Fpd
namespace Service

open Async

/-!
# The messages of the proxy protocol

The types of the `fiberplane` crate that the service reads, builds or passes
on.  A value that no code of the daemon looks into is kept as its JSON text.
-/

abbrev Bytes := List UInt8

/-- The identifier of one operation of the relay. -/
abbrev Base64Uuid := Nat

abbrev Name := String

/-- A JSON value. -/
structure Value where
  json : String
  deriving DecidableEq, Repr

/-- A JSON object, such as the configuration of a data source. -/
structure Map where
  json : String
  deriving DecidableEq, Repr

namespace Value

def null : Value := ⟨"null"⟩

def object (map : Map) : Value := ⟨map.json⟩

end Value

structure Blob where
  data : Bytes
  mimeType : String
  deriving DecidableEq, Repr

structure Cell where
  json : String
  deriving DecidableEq, Repr

structure ConfigSchema where
  json : String
  deriving DecidableEq, Repr

structure SupportedQueryType where
  json : String
  deriving DecidableEq, Repr

inductive Error
  | unsupportedRequest
  | validationError (errors : List String)
  | http (description : String)
  | data (message : String)
  | deserialization (message : String)
  | config (message : String)
  | notFound
  | proxyDisconnected
  | invocation (message : String)
  | other (message : String)
  deriving DecidableEq, Repr

structure ProviderRequest where
  queryType : String
  queryData : Blob
  config : Value
  previousResponse : Option Blob
  deriving DecidableEq, Repr

/-! ## From the relay -/

structure InvokeRequest where
  data : Bytes
  deriving DecidableEq, Repr

structure CreateCellsRequest where
  response : Blob
  queryType : String
  deriving DecidableEq, Repr

structure ExtractDataRequest where
  response : Blob
  mimeType : String
  query : Option String
  deriving DecidableEq, Repr

/-- The payloads that the service tells apart.  Any other one is known to it
by its debug text only. -/
inductive ServerMessagePayload
  | invoke (request : InvokeRequest)
  | createCells (request : CreateCellsRequest)
  | extractData (request : ExtractDataRequest)
  | getConfigSchema
  | getSupportedQueryTypes
  | other (debug : String)
  deriving DecidableEq, Repr

structure ServerMessage where
  opId : Option Base64Uuid
  dataSourceName : Name
  protocolVersion : UInt8
  payload : ServerMessagePayload
  deriving DecidableEq, Repr

namespace ServerMessage

/-- `new_invoke_proxy_request` -/
def newInvokeProxyRequest (data : Bytes) (dataSourceName : Name) (version : UInt8)
    (opId : Base64Uuid) : ServerMessage where
  opId := some opId
  dataSourceName := dataSourceName
  protocolVersion := version
  payload := .invoke ⟨data⟩

end ServerMessage

/-! ## To the relay -/

inductive DataSourceStatus
  | connected
  | error (error : Error)
  deriving DecidableEq, Repr

structure UpsertProxyDataSource where
  name : Name
  description : Option String
  providerType : String
  protocolVersion : UInt8
  status : DataSourceStatus
  deriving DecidableEq, Repr

inductive ProxyMessagePayload
  | setDataSources (dataSources : List UpsertProxyDataSource)
  | invokeProxyResponse (data : Bytes)
  | createCellsResponse (cells : Except Error (List Cell))
  | extractDataResponse (data : Except Error Blob)
  | getConfigSchemaResponse (schema : ConfigSchema)
  | getSupportedQueryTypesResponse (queries : List SupportedQueryType)
  | error (error : Error)
  deriving DecidableEq

structure ProxyMessage where
  opId : Option Base64Uuid
  payload : ProxyMessagePayload
  deriving DecidableEq

namespace ProxyMessage

def newSetDataSourcesNotification (dataSources : List UpsertProxyDataSource) : ProxyMessage :=
  ⟨none, .setDataSources dataSources⟩

def newInvokeProxyResponse (data : Bytes) (opId : Base64Uuid) : ProxyMessage :=
  ⟨some opId, .invokeProxyResponse data⟩

def newCreateCellsResponse (cells : Except Error (List Cell)) (opId : Base64Uuid) : ProxyMessage :=
  ⟨some opId, .createCellsResponse cells⟩

def newExtractDataResponse (data : Except Error Blob) (opId : Base64Uuid) : ProxyMessage :=
  ⟨some opId, .extractDataResponse data⟩

def newConfigSchemaResponse (schema : ConfigSchema) (opId : Base64Uuid) : ProxyMessage :=
  ⟨some opId, .getConfigSchemaResponse schema⟩

def newSupportedQueryTypesResponse (queries : List SupportedQueryType) (opId : Base64Uuid) :
    ProxyMessage :=
  ⟨some opId, .getSupportedQueryTypesResponse queries⟩

def newErrorResponse (error : Error) (opId : Base64Uuid) : ProxyMessage :=
  ⟨some opId, .error error⟩

end ProxyMessage
end Service
end Fpd
