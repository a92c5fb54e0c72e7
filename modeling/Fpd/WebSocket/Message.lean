import Fpd.Async.Channel

namespace Fpd
namespace WebSocket

/-!
# Messages and errors of the underlying WebSocket library

The variants are those the library gives to its callers.  A payload that no
code of the daemon looks at is kept as text or bytes.
-/

structure CloseFrame where
  code : Nat
  reason : String
  deriving DecidableEq, Repr

inductive Message
  | text (data : String)
  | binary (data : List UInt8)
  | ping (data : List UInt8)
  | pong (data : List UInt8)
  | close (frame : Option CloseFrame)
  | frame (data : List UInt8)
  deriving DecidableEq, Repr

inductive ProtocolError
  | resetWithoutClosingHandshake
  | other (description : String)
  deriving DecidableEq, Repr

inductive Error
  | connectionClosed
  | alreadyClosed
  | io (description : String)
  | tls (description : String)
  | capacity (description : String)
  | protocol (error : ProtocolError)
  | writeBufferFull (message : Message)
  | utf8
  | attackAttempt
  | url (description : String)
  | http (status : Nat)
  | httpFormat (description : String)
  deriving DecidableEq, Repr

/-- `response.status().is_client_error()` on an `Error::Http`. -/
def Error.isClientError : Error -> Bool
  | .http status => decide (400 ≤ status) && decide (status < 500)
  | _ => false

/-- What a WebSocket stream yields. -/
abbrev Item := Except Error Message

namespace Item

/-- Pings and pongs are swallowed by the keepalive layer. -/
def isKeepAlive : Item -> Bool
  | .ok (.ping _) => true
  | .ok (.pong _) => true
  | _ => false

def isClose : Item -> Bool
  | .ok (.close _) => true
  | _ => false

/-- The one error that `ReconnectingWebSocket::recv` hides from its caller. -/
def isReset : Item -> Bool
  | .error (.protocol .resetWithoutClosingHandshake) => true
  | _ => false

def isError : Item -> Bool
  | .error _ => true
  | .ok _ => false

end Item
end WebSocket
end Fpd
