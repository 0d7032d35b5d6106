import Gatehouse.Digest.Sha1
import Gatehouse.Text.Base64

/-!
# Keys of the opening handshake

A client that wants to speak WebSocket sends a key. The server proves that it read the request as
such by answering with a digest of the key and a fixed identifier.

## Main definitions

* `WebSocket.acceptValue` : the answer to a key.
* `WebSocket.keyOf` : the key made of 16 random bytes.
* `WebSocket.version` : the version of the protocol.
-/

namespace Gatehouse.WebSocket

/-- The identifier that is digested behind the key. -/
def identifier : String := "258EAFA5-E914-47DA-95CA-C5AB0DC85B11"

/-- The answer to a key. -/
def acceptValue (key : Bytes) : Bytes :=
  Bytes.ofText (String.ofList (Base64.encode (Sha1.digest (key ++ Bytes.ofText identifier))))

/-- The key made of random bytes; a key has 16 of them. -/
def keyOf (random : Bytes) : Bytes := Bytes.ofText (String.ofList (Base64.encode random))

/-- The version of the protocol. -/
def version : String := "13"

end Gatehouse.WebSocket
