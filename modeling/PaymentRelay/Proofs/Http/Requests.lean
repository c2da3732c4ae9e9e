import PaymentRelay.Http.Route
import PaymentRelay.Proofs.Http.Heads

/-!
# Reading back requests

The clients of this program put their requests together by hand: a `POST` out of a fixed part, the
digits of a length, the blank line and the body; a `GET` out of a target and a host. The edge server
finds the blank line in either where it was put, because no line before it is empty and none holds a
line end, and it looks no further. So a body may hold anything, blank lines and headers included: it
begins where the block has ended, and what comes after its declared length is another message.

Nor does the host matter. Its line begins with a name of its own, so that it is taken neither for a
length nor for a wish to close, whatever the host is called.
-/

namespace PaymentRelay

namespace RequestHead

open Header (IsLine)

variable {path host : String}

/-- The lines of a `POST` of this program. -/
def postLines (path host : String) (length : Nat) : List Bytes :=
  [utf8 "POST" ++ Octet.space :: (utf8 path ++ Octet.space :: utf8 "HTTP/1.1"),
    utf8 "Host: " ++ utf8 host, utf8 "Content-Type: application/json",
    utf8 "Content-Length: " ++ Numeral.ofNat length]

theorem flatten_post (path host : String) (body : Bytes) : (Request.post path host body).flatten
    = Header.block (postLines path host body.length) ++ (Header.terminator ++ body) := by
  have method : utf8 "POST " = utf8 "POST" ++ [Octet.space] := by decide +kernel
  have version : utf8 " HTTP/1.1\r\nHost: "
      = Octet.space :: (utf8 "HTTP/1.1" ++ Octet.cr :: Octet.lf :: utf8 "Host: ") := by
    decide +kernel
  have rest : utf8 "\r\nContent-Type: application/json\r\nContent-Length: "
      = Octet.cr :: Octet.lf :: (utf8 "Content-Type: application/json" ++
          Octet.cr :: Octet.lf :: utf8 "Content-Length: ") := by
    decide +kernel
  simp only [Request.post, Request.postStart, utf8_append, method, version, rest, postLines,
    Header.block_cons_cons, Header.block_singleton, List.flatten_cons, List.flatten_nil,
    List.append_assoc, List.cons_append, List.nil_append, List.append_nil]

theorem postLines_plain (length : Nat) (line : '\r' ∉ path.toList ∧ '\n' ∉ path.toList)
    (hostLine : '\r' ∉ host.toList ∧ '\n' ∉ host.toList) :
    ∀ line ∈ postLines path host length, IsLine line ∧ line ≠ [] := by
  rw [← Header.isLine_utf8_iff] at line hostLine
  have post : IsLine (utf8 "POST") := by decide +kernel
  have version : IsLine (utf8 "HTTP/1.1") := by decide +kernel
  have hostName : IsLine (utf8 "Host: ") ∧ utf8 "Host: " ≠ [] := by decide +kernel
  have type : IsLine (utf8 "Content-Type: application/json") ∧
      utf8 "Content-Type: application/json" ≠ [] := by decide +kernel
  have lengthName : IsLine (utf8 "Content-Length: ") ∧ utf8 "Content-Length: " ≠ [] := by
    decide +kernel
  have inLine : Octet.space ≠ Octet.cr ∧ Octet.space ≠ Octet.lf := by decide
  simp [postLines, post, version, hostName, type, lengthName, line, hostLine, inLine,
    Header.isLine_ofNat]

section Lines

variable {length : Nat} (line : '\r' ∉ path.toList ∧ '\n' ∉ path.toList)
  (hostLine : '\r' ∉ host.toList ∧ '\n' ∉ host.toList)
include line hostLine

theorem lines_post : Header.lines (Header.block (postLines path host length))
    = [utf8 "Host: " ++ utf8 host, utf8 "Content-Type: application/json",
        utf8 "Content-Length: " ++ Numeral.ofNat length] :=
  Header.lines_block fun l there ↦ (postLines_plain length line hostLine l there).1

/-- Neither the host nor the type is taken for a length. -/
theorem contentLength?_post (small : length < Numeral.limit64) :
    Header.contentLength? (Header.block (postLines path host length)) = some length := by
  have host_ : Header.value? Header.contentLengthName (utf8 "Host: " ++ utf8 host) = none :=
    Header.value?_of_ne _ _ (by decide)
  have type : Header.value? Header.contentLengthName (utf8 "Content-Type: application/json")
      = none := by decide +kernel
  have cut : Header.lines (Header.block (postLines path host length))
      = [utf8 "Host: " ++ utf8 host, utf8 "Content-Type: application/json"] ++
          (utf8 "Content-Length: " ++ Numeral.ofNat length) :: [] := lines_post line hostLine
  refine Header.contentLength?_of_lines cut ?_ small
  intro l there
  simp only [List.mem_cons, List.not_mem_nil, or_false] at there
  rcases there with rfl | rfl
  · exact host_
  · exact type

theorem wantsClose_post :
    Header.wantsClose (Header.block (postLines path host length)) = false := by
  have host_ : Header.value? Header.connectionName (utf8 "Host: " ++ utf8 host) = none :=
    Header.value?_of_ne _ _ (by decide)
  have type : Header.value? Header.connectionName (utf8 "Content-Type: application/json")
      = none := by decide +kernel
  have lengthName : Header.value? Header.connectionName
      (utf8 "Content-Length: " ++ Numeral.ofNat length) = none := by
    have other : Header.connectionName.length ≤ (utf8 "Content-Length: ").length ∧
        Header.value? Header.connectionName (utf8 "Content-Length: ") = none := by decide +kernel
    rw [Header.value?_append _ other.1, other.2]
    rfl
  simp [Header.wantsClose, lines_post line hostLine, host_, type, lengthName]

theorem read?_postLines (root : path.toList.head? = some '/') (noSpace : ' ' ∉ path.toList)
    (small : length < Numeral.limit64) :
    read? (Header.block (postLines path host length))
      = some ⟨"POST", path, some length, false⟩ := by
  have plain := postLines_plain length line hostLine
  have told := contentLength?_post line hostLine small
  have open_ : Header.wantsClose (Header.block (postLines path host length)) = false :=
    wantsClose_post line hostLine
  rw [← mem_utf8_iff (c := ' ') (by decide)] at noSpace
  have post : Octet.space ∉ utf8 "POST" ∧ method? (utf8 "POST") = some "POST" := by
    decide +kernel
  have version : Octet.space ∉ utf8 "HTTP/1.1" ∧
      (utf8 "HTTP/1.").isPrefixOf (utf8 "HTTP/1.1") = true := by decide +kernel
  have isTarget : target? (utf8 path) = some path := by
    simp [target?, root]
  rw [postLines] at told open_ ⊢
  rw [read?_block (plain _ List.mem_cons_self).1 ⟨post.1, noSpace, version.1⟩ post.2 isTarget
    version.2, told, open_]

/-- **A `POST` of this program is read** as what it is, up to the blank line, and its body begins
there, whatever is in it and whatever comes after it. -/
theorem read?_post (root : path.toList.head? = some '/') (noSpace : ' ' ∉ path.toList)
    {body : Bytes} (small : body.length < Numeral.limit64) (rest : Bytes) :
    ∃ i, Header.blockEnd? ((Request.post path host body).flatten ++ rest) = some i ∧
      read? (((Request.post path host body).flatten ++ rest).take i)
        = some ⟨"POST", path, some body.length, false⟩ ∧
      ((Request.post path host body).flatten ++ rest).drop (i + Header.terminator.length)
        = body ++ rest := by
  have cut : (Request.post path host body).flatten ++ rest
      = Header.block (postLines path host body.length) ++
          (Header.terminator ++ (body ++ rest)) := by
    simp only [flatten_post, List.append_assoc]
  rw [cut]
  refine ⟨_, Header.blockEnd?_block _ (List.cons_ne_nil _ _)
    (postLines_plain _ line hostLine), ?_, ?_⟩
  · rw [List.take_left]
    exact read?_postLines line hostLine root noSpace small
  · rw [← List.drop_drop, List.drop_left, List.drop_left]

end Lines

end RequestHead

namespace Request

/-- **The requests of this program are read back**, whatever the host is called, if only it is one
line. Of a `POST` to the payments, with any body whose length fits a machine word, the server finds
the method, the target, a wish to keep the connection and the length of the body, which takes the
request to the ingestion; the octets behind the blank line are the body, so many of them, and then
what came after the request, even where these hold blank lines and header lines. Of a `GET` it finds
the method, the target, a wish to close and no length, and nothing is left behind the blank line. -/
theorem requests_read_back {host : String} (hostLine : '\r' ∉ host.toList ∧ '\n' ∉ host.toList) :
    (∀ body rest : Bytes, body.length < Numeral.limit64 →
      ∃ i head, Header.blockEnd? ((post Route.paymentsPath host body).flatten ++ rest) = some i ∧
        RequestHead.read? (((post Route.paymentsPath host body).flatten ++ rest).take i)
          = some head ∧
        head = ⟨"POST", "/payments", some body.length, false⟩ ∧ Route.ofHead head = .ingest ∧
        ((post Route.paymentsPath host body).flatten ++ rest).drop (i + Header.terminator.length)
          = body ++ rest) ∧
      ∀ target : String, target.toList.head? = some '/' → ' ' ∉ target.toList →
        '\r' ∉ target.toList ∧ '\n' ∉ target.toList →
        ∃ i, Header.blockEnd? (utf8 (get target host)) = some i ∧
          i + Header.terminator.length = (utf8 (get target host)).length ∧
          RequestHead.read? ((utf8 (get target host)).take i)
            = some ⟨"GET", target, none, true⟩ := by
  constructor
  · intro body rest small
    have path : Route.paymentsPath.toList.head? = some '/' ∧ ' ' ∉ Route.paymentsPath.toList ∧
        '\r' ∉ Route.paymentsPath.toList ∧ '\n' ∉ Route.paymentsPath.toList := by decide +kernel
    obtain ⟨i, ends, read, after⟩ :=
      RequestHead.read?_post path.2.2 hostLine path.1 path.2.1 small rest
    exact ⟨i, _, ends, read, rfl, if_pos ⟨rfl, rfl⟩, after⟩
  · intro target root noSpace line
    exact RequestHead.read?_get root noSpace line hostLine

/-- A host that looks like a header, a body and a further message that look like requests, and a
target with a query. -/
theorem misleading_requests_read_back :
    let host := "Connection: close"
    let body := utf8 "\r\n\r\nPOST /payments HTTP/1.1\r\nContent-Length: 99\r\n\r\n"
    let rest := utf8 "\r\n\r\nContent-Length: 7"
    ('\r' ∉ host.toList ∧ '\n' ∉ host.toList) ∧ body.length < Numeral.limit64 ∧
      (∃ i head, Header.blockEnd? ((post "/payments" host body).flatten ++ rest) = some i ∧
        RequestHead.read? (((post "/payments" host body).flatten ++ rest).take i) = some head ∧
        head = ⟨"POST", "/payments", some 51, false⟩ ∧ Route.ofHead head = .ingest ∧
        ((post "/payments" host body).flatten ++ rest).drop (i + 4) = body ++ rest) ∧
      ∃ i, Header.blockEnd? (utf8 (get "/payments-summary-lock?from=x&to=ü" host)) = some i ∧
        i + 4 = (utf8 (get "/payments-summary-lock?from=x&to=ü" host)).length ∧
        RequestHead.read? ((utf8 (get "/payments-summary-lock?from=x&to=ü" host)).take i)
          = some ⟨"GET", "/payments-summary-lock?from=x&to=ü", none, true⟩ := by
  intro host body rest
  have hostLine : '\r' ∉ host.toList ∧ '\n' ∉ host.toList := by decide +kernel
  have long : body.length = 51 := by decide +kernel
  have small : body.length < Numeral.limit64 := by
    rw [long]
    decide
  obtain ⟨posted, got⟩ := requests_read_back hostLine
  refine ⟨hostLine, small, ?_, got _ (by decide +kernel) (by decide +kernel) (by decide +kernel)⟩
  obtain ⟨i, head, ends, read, same, route, after⟩ := posted body rest small
  exact ⟨i, head, ends, read, long ▸ same, route, after⟩

end Request

end PaymentRelay
