import Gatehouse.Http.Header
import Gatehouse.Http.Uri

/-!
# Messages

What requests and responses are once they have been read: their framing has been taken off, and
the connection they came over no longer shows.

## Main definitions

* `HttpVersion`, `RequestBody`, `Request` : a request.
* `ReceivedBody`, `Response` : a response.
* `Status` : status codes that the router answers with, and their reasons.
-/

namespace Gatehouse

/-- The version of the protocol that a request is made in. -/
inductive HttpVersion where
  | v10
  | v11
  | v2
  deriving DecidableEq, Repr

/-- The body of a request. Its length may be known before it has been read. -/
inductive RequestBody where
  /-- A body of known length; no body is the empty one. -/
  | sized (data : Bytes)
  /-- A body whose length shows when it ends. -/
  | streamed (data : Bytes)
  deriving DecidableEq, Repr

/-- A request as the router handles it. -/
structure Request where
  method : String
  uri : Uri
  headers : Headers
  body : RequestBody
  version : HttpVersion
  deriving DecidableEq, Repr

/-- The body of a response. -/
inductive ReceivedBody where
  /-- All of it. -/
  | complete (data : Bytes)
  /-- It broke off, or was framed in a wrong way. -/
  | broken
  /-- Its end never comes. -/
  | unfinished
  deriving DecidableEq, Repr

/-- A response. -/
structure Response where
  status : Nat
  headers : Headers
  body : ReceivedBody
  deriving DecidableEq, Repr

namespace Status

/-- The two sides go on with another protocol. -/
def switchingProtocols : Nat := 101

def badRequest : Nat := 400

def badGateway : Nat := 502

def serviceUnavailable : Nat := 503

/-- The reasons that go with the statuses that have one. -/
def reasons : List (Nat × String) :=
  [(100, "Continue"), (101, "Switching Protocols"), (102, "Processing"), (200, "OK"),
    (201, "Created"), (202, "Accepted"), (203, "Non Authoritative Information"),
    (204, "No Content"), (205, "Reset Content"), (206, "Partial Content"), (207, "Multi-Status"),
    (208, "Already Reported"), (226, "IM Used"), (300, "Multiple Choices"),
    (301, "Moved Permanently"), (302, "Found"), (303, "See Other"), (304, "Not Modified"),
    (305, "Use Proxy"), (307, "Temporary Redirect"), (308, "Permanent Redirect"),
    (400, "Bad Request"), (401, "Unauthorized"), (402, "Payment Required"), (403, "Forbidden"),
    (404, "Not Found"), (405, "Method Not Allowed"), (406, "Not Acceptable"),
    (407, "Proxy Authentication Required"), (408, "Request Timeout"), (409, "Conflict"),
    (410, "Gone"), (411, "Length Required"), (412, "Precondition Failed"),
    (413, "Payload Too Large"), (414, "URI Too Long"), (415, "Unsupported Media Type"),
    (416, "Range Not Satisfiable"), (417, "Expectation Failed"), (418, "I'm a teapot"),
    (421, "Misdirected Request"), (422, "Unprocessable Entity"), (423, "Locked"),
    (424, "Failed Dependency"), (425, "Too Early"), (426, "Upgrade Required"),
    (428, "Precondition Required"), (429, "Too Many Requests"),
    (431, "Request Header Fields Too Large"), (451, "Unavailable For Legal Reasons"),
    (500, "Internal Server Error"), (501, "Not Implemented"), (502, "Bad Gateway"),
    (503, "Service Unavailable"), (504, "Gateway Timeout"), (505, "HTTP Version Not Supported"),
    (506, "Variant Also Negotiates"), (507, "Insufficient Storage"), (508, "Loop Detected"),
    (510, "Not Extended"), (511, "Network Authentication Required")]

/-- The reason that goes with a status, or nothing. -/
def reason (status : Nat) : String := (reasons.lookup status).getD ""

/-- A status as it is shown to people. -/
def text (status : Nat) : String :=
  toString status ++ " " ++ (reasons.lookup status).getD "<unknown status code>"

/-- The first line of a response with a status of the router's own answers. -/
def line (status : Nat) : String := "HTTP/1.1 " ++ toString status ++ " " ++ reason status

end Status

/-- A response of the router's own: the reason of the status as text. -/
def Response.ofStatus (status : Nat) : Response where
  status := status
  headers := Headers.empty.append "content-type" (Bytes.ofText "text/plain; charset=utf-8")
  body := .complete (Bytes.ofText (Status.reason status ++ "\n"))

end Gatehouse
