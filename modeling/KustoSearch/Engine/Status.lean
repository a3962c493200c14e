import KustoSearch.Engine.Basic
import KustoSearch.Json.Reader

/-! # Status codes

What the status of the engine's answer means. A failing status is reported with its phrase; some
of them say that the engine was merely busy.
-/

namespace KustoSearch.Status

/-- The standard phrases. -/
def phrases : List (Nat × String) := [
  (100, "Continue"), (101, "Switching Protocols"), (102, "Processing"), (200, "OK"),
  (201, "Created"), (202, "Accepted"), (203, "Non Authoritative Information"),
  (204, "No Content"), (205, "Reset Content"), (206, "Partial Content"), (207, "Multi-Status"),
  (208, "Already Reported"), (226, "IM Used"), (300, "Multiple Choices"),
  (301, "Moved Permanently"), (302, "Found"), (303, "See Other"), (304, "Not Modified"),
  (305, "Use Proxy"), (307, "Temporary Redirect"), (308, "Permanent Redirect"),
  (400, "Bad Request"), (401, "Unauthorized"), (402, "Payment Required"), (403, "Forbidden"),
  (404, "Not Found"), (405, "Method Not Allowed"), (406, "Not Acceptable"),
  (407, "Proxy Authentication Required"), (408, "Request Timeout"), (409, "Conflict"),
  (410, "Gone"), (411, "Length Required"), (412, "Precondition Failed"),
  (413, "Payload Too Large"), (414, "URI Too Long"), (415, "Unsupported Media Type"),
  (416, "Range Not Satisfiable"), (417, "Expectation Failed"), (418, "I'm a teapot"),
  (421, "Misdirected Request"), (422, "Unprocessable Entity"), (423, "Locked"),
  (424, "Failed Dependency"), (425, "Too Early"), (426, "Upgrade Required"),
  (428, "Precondition Required"), (429, "Too Many Requests"),
  (431, "Request Header Fields Too Large"), (451, "Unavailable For Legal Reasons"),
  (500, "Internal Server Error"), (501, "Not Implemented"), (502, "Bad Gateway"),
  (503, "Service Unavailable"), (504, "Gateway Timeout"), (505, "HTTP Version Not Supported"),
  (506, "Variant Also Negotiates"), (507, "Insufficient Storage"), (508, "Loop Detected"),
  (510, "Not Extended"), (511, "Network Authentication Required")]

/-- The code with its phrase. -/
def text (status : Nat) : String :=
  Text.naturalText status ++ " " ++ ((phrases.lookup status).getD "<unknown status code>")

/-- Whether a status says that there is a result. -/
def isSuccess (status : Nat) : Bool := 200 ≤ status && status ≤ 299

/-- Whether a failing status may be another one the next time. -/
def isTransient (status : Nat) : Bool := [408, 429, 500, 502, 503, 504].contains status

/-- How much of a message that is not understood is kept. -/
def maxDetail : Nat := 1024

/-- The message in an error document. -/
def message? (document : Json) : Option String := do
  let error ← document.get? "error"
  ((error.get? "@message").bind Json.string?).or ((error.get? "message").bind Json.string?)

/-- What an error payload says: its message, or the beginning of it as text. -/
def detail (payload : List UInt8) : String :=
  ((Json.readBytes? payload).bind message?).getD
    (String.ofList ((Text.Utf8.decodeLossy payload).take maxDetail))

/-- The error that a failing status stands for. -/
def error (status : Nat) (payload : List UInt8) : EngineError :=
  let detail := "engine returned " ++ text status ++ ": " ++ detail payload
  if isTransient status then .transient detail else .permanent detail

end KustoSearch.Status
