import OperatorConsole.Url.Basic

/-!
# Requests and responses

What goes to a service and what comes back.  A service may also close the
connection or keep silent.
-/

namespace OperatorConsole.Http

inductive Method where
  | get
  | post
deriving DecidableEq, Repr

def Method.name : Method → String
  | .get => "GET"
  | .post => "POST"

/-- A form in a request: its text and the type that is sent with it. -/
structure Content where
  type : String
  text : String
deriving DecidableEq, Repr

structure Request where
  method : Method
  url : Url
  /-- The name by which the client makes itself known. -/
  userAgent : String
  cookie : Option String
  content : Option Content
deriving DecidableEq, Repr

/-- The path and query that a request asks for. -/
def Request.target (request : Request) : String :=
  request.url.path.text ++ request.url.queryText

structure Response where
  status : Nat
  /-- Names and values of the headers, in the order in which they came. -/
  headers : List (String × String)
  /-- The bytes of the body, unless it broke off. -/
  body : Option (List UInt8)
deriving DecidableEq, Repr

/-- What a service does about a request. -/
inductive Answer where
  | response (response : Response)
  | closed
  | silent
deriving DecidableEq, Repr

/-! ## Status -/

def reasons : List (Nat × String) := [
  (100, "Continue"), (101, "Switching Protocols"), (102, "Processing"),
  (200, "OK"), (201, "Created"), (202, "Accepted"),
  (203, "Non Authoritative Information"), (204, "No Content"),
  (205, "Reset Content"), (206, "Partial Content"), (207, "Multi-Status"),
  (208, "Already Reported"), (226, "IM Used"), (300, "Multiple Choices"),
  (301, "Moved Permanently"), (302, "Found"), (303, "See Other"),
  (304, "Not Modified"), (305, "Use Proxy"), (307, "Temporary Redirect"),
  (308, "Permanent Redirect"), (400, "Bad Request"), (401, "Unauthorized"),
  (402, "Payment Required"), (403, "Forbidden"), (404, "Not Found"),
  (405, "Method Not Allowed"), (406, "Not Acceptable"),
  (407, "Proxy Authentication Required"), (408, "Request Timeout"),
  (409, "Conflict"), (410, "Gone"), (411, "Length Required"),
  (412, "Precondition Failed"), (413, "Payload Too Large"),
  (414, "URI Too Long"), (415, "Unsupported Media Type"),
  (416, "Range Not Satisfiable"), (417, "Expectation Failed"),
  (418, "I'm a teapot"), (421, "Misdirected Request"),
  (422, "Unprocessable Entity"), (423, "Locked"), (424, "Failed Dependency"),
  (426, "Upgrade Required"), (428, "Precondition Required"),
  (429, "Too Many Requests"), (431, "Request Header Fields Too Large"),
  (451, "Unavailable For Legal Reasons"), (500, "Internal Server Error"),
  (501, "Not Implemented"), (502, "Bad Gateway"),
  (503, "Service Unavailable"), (504, "Gateway Timeout"),
  (505, "HTTP Version Not Supported"), (506, "Variant Also Negotiates"),
  (507, "Insufficient Storage"), (508, "Loop Detected"),
  (510, "Not Extended"), (511, "Network Authentication Required")]

/-- A status with the reason that is registered for it. -/
def statusText (status : Nat) : String :=
  let reason := (reasons.find? (·.1 == status)).map (·.2)
  Nat.repr status ++ " " ++ reason.getD "<unknown status code>"

/-! ## Headers -/

/-- A character of the names in headers. -/
def isToken (c : Char) : Bool :=
  c.isAlphanum ||
    ['!', '#', '$', '%', '&', '\'', '*', '+', '-', '.', '^', '_', '\x60', '|',
      '~'].contains c

def isPadding (c : Char) : Bool :=
  c == ' ' || c == '\t'

/-- A header's value without the padding at its ends. -/
def bareField (value : String) : String :=
  String.ofList
    ((value.toList.dropWhile isPadding).reverse.dropWhile isPadding).reverse

def sameName (left right : String) : Bool :=
  left.toList.map Char.toLower == right.toList.map Char.toLower

/-- The values of the headers with a given name. -/
def fieldsOf (headers : List (String × String)) (name : String) :
    List String :=
  (headers.filter fun header => sameName header.1 name).map
    fun header => bareField header.2

def Response.fields (response : Response) (name : String) : List String :=
  fieldsOf response.headers name

end OperatorConsole.Http
