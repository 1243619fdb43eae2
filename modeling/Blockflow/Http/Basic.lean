import Blockflow.Text.Utf8

/-!
# Exchanges over HTTP

Providers and tools reach other services by HTTP.  A request is what is sent; its outcome is an
answer, whose body may break off, or that nobody could be reached.

* `Http.Request`, `Http.Response`, `Http.Outcome` — an exchange.
* `Http.reason` — the standard phrase of a status.
-/

namespace Blockflow.Http

/-- A request. -/
structure Request where
  method : String
  url : String
  headers : List (String × String) := []
  body : Option String := none
  deriving DecidableEq, Repr, Inhabited

/-- An answer.  `short` says that the body breaks off after its bytes. -/
structure Response where
  status : Nat
  body : List UInt8
  short : Bool := false
  deriving DecidableEq, Repr, Inhabited

/-- How an exchange ends. -/
inductive Outcome where
  | answered (response : Response)
  | unreachable
  deriving DecidableEq, Repr, Inhabited

/-- The wording of a request that reached nobody. -/
def unreachableText (url : String) : String := "error sending request for url (" ++ url ++ ")"

/-- The wording of a body that broke off. -/
def shortBodyText : String := "error decoding response body"

/-- The wording of a request that cannot be built. -/
def builderText : String := "builder error"

/-- Whether a status tells of success. -/
def isSuccess (status : Nat) : Bool := 200 ≤ status && status < 300

/-- The standard phrases. -/
def reasons : List (Nat × String) :=
  [(100, "Continue"), (101, "Switching Protocols"), (102, "Processing"), (103, "Early Hints"),
   (200, "OK"), (201, "Created"), (202, "Accepted"), (203, "Non Authoritative Information"),
   (204, "No Content"), (205, "Reset Content"), (206, "Partial Content"), (207, "Multi-Status"),
   (208, "Already Reported"), (226, "IM Used"), (300, "Multiple Choices"),
   (301, "Moved Permanently"), (302, "Found"), (303, "See Other"), (304, "Not Modified"),
   (305, "Use Proxy"), (307, "Temporary Redirect"), (308, "Permanent Redirect"),
   (400, "Bad Request"), (401, "Unauthorized"), (402, "Payment Required"), (403, "Forbidden"),
   (404, "Not Found"), (405, "Method Not Allowed"), (406, "Not Acceptable"),
   (407, "Proxy Authentication Required"), (408, "Request Timeout"), (409, "Conflict"),
   (410, "Gone"), (411, "Length Required"), (412, "Precondition Failed"),
   (413, "Payload Too Large"), (414, "URI Too Long"), (415, "Unsupported Media Type"),
   (416, "Range Not Satisfiable"), (417, "Expectation Failed"), (418, "I'm a teapot"),
   (421, "Misdirected Request"), (422, "Unprocessable Entity"), (423, "Locked"),
   (424, "Failed Dependency"), (425, "Too Early"), (426, "Upgrade Required"),
   (428, "Precondition Required"), (429, "Too Many Requests"),
   (431, "Request Header Fields Too Large"), (451, "Unavailable For Legal Reasons"),
   (500, "Internal Server Error"), (501, "Not Implemented"), (502, "Bad Gateway"),
   (503, "Service Unavailable"), (504, "Gateway Timeout"), (505, "HTTP Version Not Supported"),
   (506, "Variant Also Negotiates"), (507, "Insufficient Storage"), (508, "Loop Detected"),
   (510, "Not Extended"), (511, "Network Authentication Required")]

/-- The phrase of a status. -/
def reason (status : Nat) : String := (reasons.lookup status).getD "<unknown status code>"

/-- A status with its phrase. -/
def statusText (status : Nat) : String := toString status ++ " " ++ reason status

end Blockflow.Http
