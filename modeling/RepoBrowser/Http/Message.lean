/-!
# Requests and replies

* `Request` — a request for an address, with its authorization;
* `Reply`, `Exchange` — a reply, and what can come of sending a request;
* `Transport` — how requests are sent, in whatever monad does it;
* `reason?`, `statusLine` — the standard reasons of status codes;
* `isHeaderText` — the texts that a header can carry.
-/

namespace RepoBrowser.Http

/-- A request to read what is at an address. -/
structure Request where
  host : String
  /-- The path and the query. -/
  target : String
  authorization : String
  deriving DecidableEq, Repr

/-- A reply; `complete` is false when the connection broke before the end of its body. -/
structure Reply where
  status : Nat
  headers : List (String × String)
  body : List UInt8
  complete : Bool
  deriving DecidableEq, Repr

/-- What comes of sending a request: a reply, a connection closed without one, or no connection at
all. -/
inductive Exchange where
  | reply (r : Reply)
  | dropped
  | unreachable
  deriving DecidableEq, Repr

abbrev Transport (m : Type → Type) := Request → m Exchange

/-- The transport of a machine without a network. -/
def Transport.offline {m : Type → Type} [Pure m] : Transport m := fun _ => pure .unreachable

/-- The value of a reply's header; names of headers are told apart without regard to case. -/
def Reply.header? (r : Reply) (name : String) : Option String :=
  (r.headers.find? fun h => h.1.toLower == name.toLower).map (·.2)

def Reply.isSuccess (r : Reply) : Bool := 200 ≤ r.status && r.status < 300

def reason? : Nat → Option String
  | 100 => some "Continue" | 101 => some "Switching Protocols" | 102 => some "Processing"
  | 200 => some "OK" | 201 => some "Created" | 202 => some "Accepted"
  | 203 => some "Non Authoritative Information" | 204 => some "No Content"
  | 205 => some "Reset Content" | 206 => some "Partial Content" | 207 => some "Multi-Status"
  | 208 => some "Already Reported" | 226 => some "IM Used"
  | 300 => some "Multiple Choices" | 301 => some "Moved Permanently" | 302 => some "Found"
  | 303 => some "See Other" | 304 => some "Not Modified" | 305 => some "Use Proxy"
  | 307 => some "Temporary Redirect" | 308 => some "Permanent Redirect"
  | 400 => some "Bad Request" | 401 => some "Unauthorized" | 402 => some "Payment Required"
  | 403 => some "Forbidden" | 404 => some "Not Found" | 405 => some "Method Not Allowed"
  | 406 => some "Not Acceptable" | 407 => some "Proxy Authentication Required"
  | 408 => some "Request Timeout" | 409 => some "Conflict" | 410 => some "Gone"
  | 411 => some "Length Required" | 412 => some "Precondition Failed"
  | 413 => some "Payload Too Large" | 414 => some "URI Too Long"
  | 415 => some "Unsupported Media Type" | 416 => some "Range Not Satisfiable"
  | 417 => some "Expectation Failed" | 418 => some "I'm a teapot"
  | 421 => some "Misdirected Request" | 422 => some "Unprocessable Entity" | 423 => some "Locked"
  | 424 => some "Failed Dependency" | 425 => some "Too Early" | 426 => some "Upgrade Required"
  | 428 => some "Precondition Required" | 429 => some "Too Many Requests"
  | 431 => some "Request Header Fields Too Large" | 451 => some "Unavailable For Legal Reasons"
  | 500 => some "Internal Server Error" | 501 => some "Not Implemented" | 502 => some "Bad Gateway"
  | 503 => some "Service Unavailable" | 504 => some "Gateway Timeout"
  | 505 => some "HTTP Version Not Supported" | 506 => some "Variant Also Negotiates"
  | 507 => some "Insufficient Storage" | 508 => some "Loop Detected" | 510 => some "Not Extended"
  | 511 => some "Network Authentication Required"
  | _ => none

def statusLine (code : Nat) : String :=
  toString code ++ " " ++ (reason? code).getD "<unknown status code>"

/-- Whether a text can be the value of a header: no control character but the tab. -/
def isHeaderText (s : String) : Bool :=
  s.toList.all fun c => c = '\t' || (0x20 ≤ c.toNat && c.toNat ≠ 0x7F)

end RepoBrowser.Http
