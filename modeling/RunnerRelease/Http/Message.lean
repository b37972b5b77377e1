import RunnerRelease.Json.Basic
import RunnerRelease.Text.Utf8

/-!
# Requests and responses

The messages that go over the wire.

## Implementation notes

Names of header fields are compared without regard to case, and of a repeated field
the first counts. A value that is not made of visible ASCII characters, blanks and
tabs cannot be read and counts as absent. A response whose body is cut short still
has a status and header fields.

A response is the one that is had in the end: redirects on the way to it, compressed
bodies and secure connections are left to the layer below. A response that does not come
in time is none.
-/

namespace RunnerRelease.Http

open Text

/-- A request. -/
structure Request where
  method : String
  /-- The path with the query, as sent. -/
  target : String
  headers : List (String × String)
  body : Option Json := none

/-- A response. -/
structure Response where
  status : Nat
  headers : List (String × Bytes) := []
  body : Bytes := []
  /-- Whether the connection broke before the end of the body. -/
  cut : Bool := false
deriving DecidableEq

/-- What a request is answered with; nothing when the connection gives no response. -/
abbrev Reply := Option Response

namespace Response

/-- The name of a header field in lower case. -/
def fieldName (name : String) : String := name.map Char.toLower

/-- A space or a tab at the edge of a header value. -/
def isPadding (b : UInt8) : Bool := b == 0x20 || b == 0x09

/-- The value of a header field as bytes, without spaces around it. -/
def trimValue (value : Bytes) : Bytes :=
  ((value.dropWhile isPadding).reverse.dropWhile isPadding).reverse

/-- A byte that a readable header value may hold. -/
def isReadable (b : UInt8) : Bool := (0x20 ≤ b && b < 0x7F) || b == 0x09

/-- The readable value of a header field. -/
def header? (r : Response) (name : String) : Option String :=
  match r.headers.find? fun h => fieldName h.1 == fieldName name with
  | none => none
  | some (_, value) =>
    let value := trimValue value
    if value.all isReadable then some (.ofList (value.map fun b => Char.ofNat b.toNat)) else none

/-- Whether the status says that the request was granted. -/
def isSuccess (r : Response) : Bool := 200 ≤ r.status && r.status < 300

/-- Whether the status says that the request was refused or could not be served. -/
def isFailure (r : Response) : Bool := 400 ≤ r.status && r.status < 600

/-- The text of the body, malformed bytes replaced; absent when the body is cut short. -/
def lenientText? (r : Response) : Option String :=
  if r.cut then none else some (decodeLenient r.body)

/-- The text of the body, absent when it is cut short or not well formed. -/
def text? (r : Response) : Option String := if r.cut then none else decode? r.body

end Response

/-- The phrases that go with the statuses of failures. -/
def reasonPhrases : List (Nat × String) :=
  [(400, "Bad Request"), (401, "Unauthorized"), (402, "Payment Required"), (403, "Forbidden"),
    (404, "Not Found"), (405, "Method Not Allowed"), (406, "Not Acceptable"),
    (407, "Proxy Authentication Required"), (408, "Request Timeout"), (409, "Conflict"),
    (410, "Gone"), (411, "Length Required"), (412, "Precondition Failed"),
    (413, "Payload Too Large"), (414, "URI Too Long"), (415, "Unsupported Media Type"),
    (416, "Range Not Satisfiable"), (417, "Expectation Failed"), (418, "I'm a teapot"),
    (421, "Misdirected Request"), (422, "Unprocessable Entity"), (423, "Locked"),
    (424, "Failed Dependency"), (425, "Too Early"), (426, "Upgrade Required"),
    (428, "Precondition Required"), (429, "Too Many Requests"),
    (431, "Request Header Fields Too Large"), (451, "Unavailable For Legal Reasons"),
    (500, "Internal Server Error"), (501, "Not Implemented"), (502, "Bad Gateway"),
    (503, "Service Unavailable"), (504, "Gateway Timeout"), (505, "HTTP Version Not Supported"),
    (506, "Variant Also Negotiates"), (507, "Insufficient Storage"), (508, "Loop Detected"),
    (510, "Not Extended"), (511, "Network Authentication Required")]

/-- A status with its phrase. -/
def statusText (status : Nat) : String :=
  toString status ++ " " ++ (reasonPhrases.lookup status).getD "<unknown status code>"

/-- A text that can be the value of a header field: no control characters but the tab. -/
def isHeaderValue (s : String) : Bool :=
  s.toList.all fun c => (0x20 ≤ c.toNat && c.toNat != 0x7F) || c == '\t'

end RunnerRelease.Http
