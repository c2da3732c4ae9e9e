import PaymentRelay.Http.Header

/-!
# Responses

The head of a response, written by the edge server and read by the clients of the processors and of
the sibling instance. The two sides are not each other's image: the reader takes any status line
whose code stands where it should, and of the rest only the length.
-/

namespace PaymentRelay

/-- A status code. -/
abbrev Status := Nat

namespace Status

/-- The phrase registered for a code. -/
def phrase? : Status → Option String
  | 100 => "Continue"
  | 101 => "Switching Protocols"
  | 102 => "Processing"
  | 103 => "Early Hints"
  | 200 => "OK"
  | 201 => "Created"
  | 202 => "Accepted"
  | 203 => "Non Authoritative Information"
  | 204 => "No Content"
  | 205 => "Reset Content"
  | 206 => "Partial Content"
  | 207 => "Multi-Status"
  | 208 => "Already Reported"
  | 226 => "IM Used"
  | 300 => "Multiple Choices"
  | 301 => "Moved Permanently"
  | 302 => "Found"
  | 303 => "See Other"
  | 304 => "Not Modified"
  | 305 => "Use Proxy"
  | 307 => "Temporary Redirect"
  | 308 => "Permanent Redirect"
  | 400 => "Bad Request"
  | 401 => "Unauthorized"
  | 402 => "Payment Required"
  | 403 => "Forbidden"
  | 404 => "Not Found"
  | 405 => "Method Not Allowed"
  | 406 => "Not Acceptable"
  | 407 => "Proxy Authentication Required"
  | 408 => "Request Timeout"
  | 409 => "Conflict"
  | 410 => "Gone"
  | 411 => "Length Required"
  | 412 => "Precondition Failed"
  | 413 => "Payload Too Large"
  | 414 => "URI Too Long"
  | 415 => "Unsupported Media Type"
  | 416 => "Range Not Satisfiable"
  | 417 => "Expectation Failed"
  | 418 => "I'm a teapot"
  | 421 => "Misdirected Request"
  | 422 => "Unprocessable Entity"
  | 423 => "Locked"
  | 424 => "Failed Dependency"
  | 425 => "Too Early"
  | 426 => "Upgrade Required"
  | 428 => "Precondition Required"
  | 429 => "Too Many Requests"
  | 431 => "Request Header Fields Too Large"
  | 451 => "Unavailable For Legal Reasons"
  | 500 => "Internal Server Error"
  | 501 => "Not Implemented"
  | 502 => "Bad Gateway"
  | 503 => "Service Unavailable"
  | 504 => "Gateway Timeout"
  | 505 => "HTTP Version Not Supported"
  | 506 => "Variant Also Negotiates"
  | 507 => "Insufficient Storage"
  | 508 => "Loop Detected"
  | 510 => "Not Extended"
  | 511 => "Network Authentication Required"
  | _ => none

/-- The phrase of a code, where one is registered. -/
def phrase (status : Status) : String := (phrase? status).getD "Unknown"

/-- Reads a status line, its line feed removed: the three digits after the first space, which must
be followed by a space or by the end of the line. -/
def ofLine? (line : Bytes) : Option Status :=
  let line := line.stripCr
  if (utf8 "HTTP/").isPrefixOf line then
    match line.dropWhile (· ≠ Octet.space) with
    | _ :: a :: b :: c :: rest =>
      match Octet.digit? a, Octet.digit? b, Octet.digit? c with
      | some a, some b, some c =>
        if rest.head?.all (· == Octet.space) then some (a * 100 + b * 10 + c) else none
      | _, _, _ => none
    | _ => none
  else none

end Status

namespace Response

/-- Seconds that a kept connection may idle, as the server tells its clients. -/
def keepAliveSeconds : Nat := 5

def headerLine (name value : Bytes) : Bytes := name ++ utf8 ": " ++ value ++ Header.lineEnd

/-- Status line and headers of a response whose body has `length` octets. -/
def head (status : Status) (keepAlive : Bool) (contentType : Option String) (length : Nat) :
    Bytes :=
  utf8 "HTTP/1.1 " ++ Numeral.ofNat status ++ utf8 " " ++ utf8 (Status.phrase status) ++
    Header.lineEnd ++
  (match contentType with
    | some type => headerLine (utf8 "Content-Type") (utf8 type)
    | none => []) ++
  headerLine (utf8 "Content-Length") (Numeral.ofNat length) ++
  (if keepAlive then
    headerLine (utf8 "Connection") (utf8 "keep-alive") ++
      headerLine (utf8 "Keep-Alive") (utf8 "timeout=" ++ Numeral.ofNat keepAliveSeconds)
  else headerLine (utf8 "Connection") (utf8 "close")) ++
  Header.lineEnd

def write (status : Status) (keepAlive : Bool) (contentType : Option String) (body : Bytes) :
    Bytes :=
  head status keepAlive contentType body.length ++ body

end Response

end PaymentRelay
