import Fpd.Http.HeaderMap
import Fpd.WebSocket.Message

namespace Fpd
namespace WebSocket

open Http
open Overwriting

/-!
# The request of a connection

A `ReconnectingWebSocket` keeps the request it was built with and makes a copy of
it for every attempt to connect.  The copy inserts the fields of the original one
after another, so of several values with one name it has the last.

What the server makes of the request is up to the server: the steps of the socket
take the outcome of an attempt for an argument.
-/

inductive Version
  | http09
  | http10
  | http11
  | http2
  | http3
  deriving DecidableEq, Repr

/-- A URI and the host that is found in it. -/
structure Uri where
  text : String
  host : Option String
  deriving DecidableEq, Repr

/-- `Request<()>` -/
structure Request where
  method : String
  uri : Uri
  version : Version
  headers : HeaderMap

/-- `clone_request`.  The builder is given a method and a URI and starts with a
version of its own. -/
def cloneRequest (original : Request) : Request where
  method := original.method
  uri := original.uri
  version := .http11
  headers := HeaderMap.insertAll ∅ original.headers.iter

/-- The names that `initiate_connection` sets itself. -/
def ownNames : List HeaderName :=
  ["host", "connection", "upgrade", "sec-websocket-version", "sec-websocket-key"]

/-- The request that `initiate_connection` goes to the server with.  Which texts
can be header values, and the key that is generated, are arguments. -/
def initiateRequest (tryFrom : String -> Except Error HeaderValue) (generateKey : String)
    (original : Request) : Except Error Request :=
  let request := cloneRequest original
  match request.uri.host with
  | none => .error (.url "No host name in the URL")
  | some host =>
      match tryFrom host with
      | .error err => .error err
      | .ok host =>
          match tryFrom generateKey with
          | .error err => .error err
          | .ok key =>
              .ok { request with
                headers := request.headers.insertAll (ownNames.zip
                  [host, "Upgrade", "websocket", "13", key]) }

variable {original request : Request} {name : HeaderName}

/-- A copy has the last value of each name. -/
theorem getAll_cloneRequest (original : Request) (name : HeaderName) :
    (cloneRequest original).headers.getAll name =
      (original.headers.getAll name).getLast?.toList :=
  HeaderMap.getAll_insertAll_iter original.headers name

theorem toList_getLast?_eq_self_iff {Value : Type*} {values : List Value} :
    values.getLast?.toList = values ↔ values.length ≤ 1 := by
  rcases List.eq_nil_or_concat values with rfl | ⟨before, last, rfl⟩
  · simp
  · rw [List.concat_eq_append, List.getLast?_concat]
    cases before with
    | nil => simp
    | cons first rest => simp

/-- The request differs from the copy in the names that are set on purpose. -/
theorem initiateRequest_ok {tryFrom : String -> Except Error HeaderValue} {generateKey : String}
    (initiated : initiateRequest tryFrom generateKey original = .ok request) :
    request.method = original.method ∧ request.uri = original.uri ∧
      forall name, name ∉ ownNames ->
        request.headers.getAll name = (cloneRequest original).headers.getAll name := by
  unfold initiateRequest at initiated
  cases found : (cloneRequest original).uri.host with
  | none => simp only [found, reduceCtorEq] at initiated
  | some host =>
      cases fits : tryFrom host with
      | error err => simp only [found, fits, reduceCtorEq] at initiated
      | ok value =>
          cases keyFits : tryFrom generateKey with
          | error err => simp only [found, fits, keyFits, reduceCtorEq] at initiated
          | ok key =>
              simp only [found, fits, keyFits, Except.ok.injEq] at initiated
              subst initiated
              refine ⟨rfl, rfl, fun name foreign => ?_⟩
              have kept := congrFun (HeaderMap.lookup_insertAll (cloneRequest original).headers
                (ownNames.zip [value, "Upgrade", "websocket", "13", key])) name
              rw [replay_of_unwritten] at kept
              · rw [HeaderMap.getAll, kept, HeaderMap.getAll]
              · intro field inside bucket same
                simp only [HeaderMap.written, Option.some.injEq, Prod.mk.injEq] at same
                exact foreign (same.1 ▸ (List.of_mem_zip inside).1)

/-- A copy is like the original, a copy of a copy is like the copy, and all that
the caller put into the request is sent with every attempt. -/
structure LosesNothing (original : Request) : Prop where
  method : (cloneRequest original).method = original.method
  uri : (cloneRequest original).uri = original.uri
  headers : forall name,
    (cloneRequest original).headers.getAll name = original.headers.getAll name
  again : forall name, (cloneRequest (cloneRequest original)).headers.getAll name =
    (cloneRequest original).headers.getAll name
  sent : forall tryFrom generateKey request,
    initiateRequest tryFrom generateKey original = .ok request ->
      request.method = original.method ∧ request.uri = original.uri ∧
        forall name, name ∉ ownNames ->
          request.headers.getAll name = original.headers.getAll name

/-- Nothing is lost exactly if every name has at most one value. -/
theorem losesNothing_iff (original : Request) :
    LosesNothing original ↔ forall name, (original.headers.getAll name).length ≤ 1 := by
  constructor
  · intro nothing name
    rw [← toList_getLast?_eq_self_iff, ← getAll_cloneRequest]
    exact nothing.headers name
  · intro single
    have headers (name : HeaderName) :
        (cloneRequest original).headers.getAll name = original.headers.getAll name := by
      rw [getAll_cloneRequest]
      exact toList_getLast?_eq_self_iff.mpr (single name)
    refine ⟨rfl, rfl, headers, fun name => ?_, fun tryFrom generateKey request initiated => ?_⟩
    · rw [getAll_cloneRequest, headers]
      exact toList_getLast?_eq_self_iff.mpr (single name)
    · rcases initiateRequest_ok initiated with ⟨method, uri, others⟩
      exact ⟨method, uri, fun name foreign => (others name foreign).trans (headers name)⟩

/-- A caller offers two protocols in two fields. -/
def twoProtocols : Request where
  method := "GET"
  uri := ⟨"ws://localhost/", some "localhost"⟩
  version := .http11
  headers := HeaderMap.append (HeaderMap.append ∅ "sec-websocket-protocol" "v1")
    "sec-websocket-protocol" "v2"

/-- The server is offered one of them. -/
theorem second_protocol_only :
    twoProtocols.headers.getAll "sec-websocket-protocol" = ["v1", "v2"] ∧
    (cloneRequest twoProtocols).headers.getAll "sec-websocket-protocol" = ["v2"] ∧
    ¬ forall original, LosesNothing original := by
  have offered : twoProtocols.headers.getAll "sec-websocket-protocol" = ["v1", "v2"] := by
    rw [twoProtocols, HeaderMap.getAll_append, HeaderMap.getAll_append]
    rfl
  have cloned : (cloneRequest twoProtocols).headers.getAll "sec-websocket-protocol" = ["v2"] := by
    rw [getAll_cloneRequest, offered]
    rfl
  refine ⟨offered, cloned, fun claim => ?_⟩
  have same := (claim twoProtocols).headers "sec-websocket-protocol"
  rw [offered, cloned] at same
  exact absurd same (by decide)

end WebSocket
end Fpd
