import PaymentRelay.Bytes.Utf8
import PaymentRelay.Http.Header

/-!
# Requests

The head of a request as the edge server reads it, and the two requests that this program writes:
a JSON `POST` whose length and body follow the fixed part, and a `GET` that asks for the connection
to be closed.

A request line is three parts between single spaces. That is the whole grammar: one space more or
less, an octet that no method may hold, a target that is not UTF-8 or does not start at the root,
or a version other than 1.x, and the head is malformed.
-/

namespace PaymentRelay

/-- A target cut at its first question mark. -/
def splitTarget (target : String) : String × Option String :=
  let cs := target.toList
  let path := String.ofList (cs.takeWhile (· ≠ '?'))
  match cs.dropWhile (· ≠ '?') with
  | [] => (path, none)
  | _ :: query => (path, some (String.ofList query))

/-- What the server knows of a request once its header block has arrived. -/
structure RequestHead where
  /-- The method, case and all. -/
  method : String
  /-- The request target as sent. -/
  target : String
  /-- The declared body length, if one is declared and legible. -/
  contentLength : Option Nat
  /-- The client asks for the connection to be closed. -/
  close : Bool
deriving DecidableEq, Repr

namespace RequestHead

def path (head : RequestHead) : String := (splitTarget head.target).1

def query (head : RequestHead) : Option String := (splitTarget head.target).2

/-- The first line of a header block, up to its carriage return and line feed. -/
def firstLine (block : Bytes) : Bytes :=
  match Bytes.find? block Header.lineEnd with
  | some i => block.take i
  | none => block

/-- A method is a non-empty run of token octets. -/
def method? (part : Bytes) : Option String :=
  if !part.isEmpty && part.all Octet.isToken then Utf8.decode? part else none

/-- A target is UTF-8 and starts at the root. -/
def target? (part : Bytes) : Option String :=
  (Utf8.decode? part).bind fun target ↦ if target.toList.head? = some '/' then some target else none

/-- Reads a header block, without its terminator. -/
def read? (block : Bytes) : Option RequestHead :=
  match Bytes.split Octet.space (firstLine block) with
  | [method, target, version] =>
    match method? method, target? target with
    | some method, some target =>
      if (utf8 "HTTP/1.").isPrefixOf version then
        some ⟨method, target, Header.contentLength? block, Header.wantsClose block⟩
      else none
    | _, _ => none
  | _ => none

end RequestHead

/-! ## Requests to others -/

namespace Request

/-- The part of a JSON `POST` before the digits of its length. -/
def postStart (path host : String) : String :=
  "POST " ++ path ++ " HTTP/1.1\r\nHost: " ++ host ++
    "\r\nContent-Type: application/json\r\nContent-Length: "

/-- A whole `POST` with its body. -/
def post (path host : String) (body : Bytes) : List Bytes :=
  [utf8 (postStart path host), Numeral.ofNat body.length, Header.terminator, body]

/-- A `GET` without a body, after which the other side should close. -/
def get (target host : String) : String :=
  "GET " ++ target ++ " HTTP/1.1\r\nHost: " ++ host ++ "\r\nConnection: close\r\n\r\n"

end Request

end PaymentRelay
