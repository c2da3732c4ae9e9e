import PaymentRelay.Bytes.Basic
import PaymentRelay.Http.Numeral

/-!
# Header blocks

A header block is what stands before the first blank line. Its first line is the request line or
the status line; of the others two matter here, `Content-Length` and `Connection`.

Lines end at a line feed, with or without a carriage return before it. A name is compared without
regard to ASCII case, and no blank may stand between name and colon.
-/

namespace PaymentRelay.Header

def terminator : Bytes := [0x0D, 0x0A, 0x0D, 0x0A]

def lineEnd : Bytes := [0x0D, 0x0A]

/-- Where the header block of a message ends. -/
def blockEnd? (message : Bytes) : Option Nat := Bytes.find? message terminator

/-- The lines after the first. -/
def lines (block : Bytes) : List Bytes := ((Bytes.split Octet.lf block).drop 1).map Bytes.stripCr

/-- What follows `name` in a line that starts with it. The name is given in lower case and with
its colon. -/
def value? (name line : Bytes) : Option Bytes :=
  if name.isPrefixOf line.lower then some (line.drop name.length) else none

def contentLengthName : Bytes := utf8 "content-length:"

def connectionName : Bytes := utf8 "connection:"

/-- The value of the first `Content-Length` line: `none` if there is no such line or if its value
is no numeral below 2⁶⁴. Later lines of that name are not looked at. -/
def contentLength? (block : Bytes) : Option Nat :=
  ((lines block).findSome? (value? contentLengthName)).bind fun value ↦
    Numeral.read? Numeral.limit64 value.trim

/-- Some `Connection` line speaks of closing. -/
def wantsClose (block : Bytes) : Bool :=
  (lines block).any fun line ↦
    match value? connectionName line with
    | some value => (Bytes.find? value.lower (utf8 "close")).isSome
    | none => false

end PaymentRelay.Header
