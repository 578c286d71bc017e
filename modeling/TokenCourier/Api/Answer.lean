import TokenCourier.Api.Request
import TokenCourier.Json.Decode
import TokenCourier.Text.Utf8

namespace TokenCourier

structure Response where
  status : Nat
  body : ByteArray

abbrev Answer := Except String Response

structure ApiFailure where
  status : String
  message : String
  reason : String
  code : Nat
deriving DecidableEq, Inhabited

namespace ApiFailure

open Json

def decode? (v : Json) : Option ApiFailure := do
  match ← slots? ["status", "message", "reason", "code"] 0 v with
  | [status, message, reason, code] =>
    some ⟨← required? string? status, ← orElse? "" string? message, ← orElse? "" string? reason,
      ← required? uint16? code⟩
  | _ => none

def phrase : Nat → String
  | 400 => "Bad Request"
  | 401 => "Unauthorized"
  | 402 => "Payment Required"
  | 403 => "Forbidden"
  | 404 => "Not Found"
  | 405 => "Method Not Allowed"
  | 406 => "Not Acceptable"
  | 407 => "Proxy Authentication Required"
  | 408 => "Request Timeout"
  | 409 => "Conflict"
  | 410 => "Gone"
  | 411 => "Length Required"
  | 412 => "Precondition Failed"
  | 413 => "Payload Too Large"
  | 414 => "URI Too Long"
  | 415 => "Unsupported Media Type"
  | 416 => "Range Not Satisfiable"
  | 417 => "Expectation Failed"
  | 418 => "I'm a teapot"
  | 421 => "Misdirected Request"
  | 422 => "Unprocessable Entity"
  | 423 => "Locked"
  | 424 => "Failed Dependency"
  | 425 => "Too Early"
  | 426 => "Upgrade Required"
  | 428 => "Precondition Required"
  | 429 => "Too Many Requests"
  | 431 => "Request Header Fields Too Large"
  | 451 => "Unavailable For Legal Reasons"
  | 500 => "Internal Server Error"
  | 501 => "Not Implemented"
  | 502 => "Bad Gateway"
  | 503 => "Service Unavailable"
  | 504 => "Gateway Timeout"
  | 505 => "HTTP Version Not Supported"
  | 506 => "Variant Also Negotiates"
  | 507 => "Insufficient Storage"
  | 508 => "Loop Detected"
  | 510 => "Not Extended"
  | 511 => "Network Authentication Required"
  | _ => "<unknown status code>"

/-- What an error response says, or what it amounts to if its body says nothing. -/
def ofText (status : Nat) (text : String) : ApiFailure :=
  match (read? text).bind decode? with
  | some f => f
  | none =>
    ⟨s!"{status} " ++ phrase status, Quoted.quoted text, "Failed to parse error data", status⟩

def summary (f : ApiFailure) : String := f.message ++ ": " ++ f.reason

def describe (f : ApiFailure) : String :=
  "ErrorResponse \x7b status: " ++ Quoted.quoted f.status
    ++ ", message: " ++ Quoted.quoted f.message ++ ", reason: " ++ Quoted.quoted f.reason
    ++ s!", code: {f.code} \x7d"

end ApiFailure

inductive ClientError where
  | api (f : ApiFailure)
  | undecodable
  | notText (f : Utf8.Fault)
  | transport (text : String)
  | request (f : RequestFault)
  | http (text : String)
  | stream (text : String)
  | emptyGroup (name : String)
  | noNewline
  | noTls
deriving DecidableEq

namespace ClientError

/-- The text of an undecodable reply ends where a parser's own words would begin. -/
def message : ClientError → String
  | .api f => "ApiError: " ++ f.summary ++ " (" ++ f.describe ++ ")"
  | .undecodable => "Error deserializing response"
  | .notText f => "UTF-8 Error: " ++ f.message
  | .transport t => "ServiceError: " ++ t
  | .request f => "Failed to build request: " ++ f.message
  | .http t => "HttpError: " ++ t
  | .emptyGroup n => "Error from discovery: Empty Api Group: " ++ n
  | .stream t => "Error reading events stream: " ++ t
  | .noNewline => "Error finding newline character"
  | .noTls => "TLS required but no TLS stack selected"

/-- The server says that the object is gone, by the code of its failure. -/
def isNotFound : ClientError → Bool
  | .api f => f.code == 404
  | _ => false

/-- The server says that the object is gone, by the reason of its failure. -/
def saysNotFound : ClientError → Bool
  | .api f => f.reason == "NotFound"
  | _ => false

end ClientError

namespace Response

def isError (r : Response) : Bool := 400 ≤ r.status && r.status < 600

def text (r : Response) : Except ClientError String :=
  match Utf8.decode r.body with
  | .error f => .error (.notText f)
  | .ok t => if r.isError then .error (.api (.ofText r.status t)) else .ok t

end Response

namespace Answer

def text (a : Answer) : Except ClientError String :=
  match a with
  | .error t => .error (.transport t)
  | .ok r => r.text

variable {α : Type}

/-- The object that an answer holds. -/
def object (f : Json → Option α) (a : Answer) : Except ClientError α :=
  a.text.bind fun t =>
    match (Json.read? t).bind f with
    | some x => .ok x
    | none => .error .undecodable

end Answer

/-- A failure by the reason `NotFound` is the absence of the object. -/
def absentAsNone {α : Type} : Except ClientError α → Except ClientError (Option α)
  | .ok x => .ok (some x)
  | .error e => if e.saysNotFound then .ok none else .error e

end TokenCourier
