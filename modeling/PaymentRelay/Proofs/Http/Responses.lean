import PaymentRelay.Proofs.Http.Front
import PaymentRelay.Proofs.Http.Heads
import PaymentRelay.Proofs.Http.Numerals

/-!
# Reading back responses

What the edge server writes as the head of a response is a block of lines, none of them empty and
none with a line end in it, and the blank line after it. So a reader finds the end of the head where
it is, and in its lines the status, the length of the body, and whether the connection stays open.

A response is therefore whole for every reader into whose buffer its head fits, whatever comes after
it.
-/

namespace PaymentRelay

namespace Header

/-- What the first `Connection` line of a block says. -/
def connection? (block : Bytes) : Option Bytes :=
  ((lines block).findSome? (value? connectionName)).map Bytes.trim

end Header

namespace Response

open Header (IsLine)

variable {status : Status} {keepAlive : Bool} {contentType : Option String} {length : Nat}

/-- The first line of a response. -/
def statusLine (status : Status) : Bytes :=
  utf8 "HTTP/1.1 " ++ (Numeral.ofNat status ++ (utf8 " " ++ utf8 (Status.phrase status)))

/-- The line that says what the body is, if there is one. -/
def typeLine (contentType : Option String) : List Bytes :=
  contentType.toList.map fun type ↦ utf8 "Content-Type: " ++ utf8 type

/-- The line that says how long the body is. -/
def lengthLine (length : Nat) : Bytes := utf8 "Content-Length: " ++ Numeral.ofNat length

/-- The lines that say whether the connection stays open. -/
def connectionLines (keepAlive : Bool) : List Bytes :=
  if keepAlive then [utf8 "Connection: keep-alive", utf8 "Keep-Alive: timeout=5"]
  else [utf8 "Connection: close"]

/-- The header lines of a response. -/
def fields (keepAlive : Bool) (contentType : Option String) (length : Nat) : List Bytes :=
  typeLine contentType ++ lengthLine length :: connectionLines keepAlive

/-- The header block of a response. -/
def block (status : Status) (keepAlive : Bool) (contentType : Option String) (length : Nat) :
    Bytes :=
  Header.block (statusLine status :: fields keepAlive contentType length)

/-- **The head of a response** is a block and the blank line after it. -/
theorem head_eq (status : Status) (keepAlive : Bool) (contentType : Option String) (length : Nat) :
    head status keepAlive contentType length
      = block status keepAlive contentType length ++ Header.terminator := by
  have ends : Header.lineEnd = [Octet.cr, Octet.lf] := rfl
  have blank : Header.terminator = Octet.cr :: Octet.lf :: Header.lineEnd := rfl
  have type : utf8 "Content-Type: " = utf8 "Content-Type" ++ utf8 ": " := by decide
  have long : utf8 "Content-Length: " = utf8 "Content-Length" ++ utf8 ": " := by decide
  have kept : utf8 "Connection: keep-alive"
      = utf8 "Connection" ++ (utf8 ": " ++ utf8 "keep-alive") := by
    decide
  have time : utf8 "Keep-Alive: timeout=5"
      = utf8 "Keep-Alive" ++
          (utf8 ": " ++ (utf8 "timeout=" ++ Numeral.ofNat keepAliveSeconds)) := by
    decide
  have closed : utf8 "Connection: close" = utf8 "Connection" ++ (utf8 ": " ++ utf8 "close") := by
    decide
  rcases contentType with _ | contentType <;> rcases keepAlive <;>
    simp only [head, block, fields, typeLine, lengthLine, connectionLines, statusLine, headerLine,
      Header.block_cons_cons, Header.block_singleton, blank, ends, type, long, kept, time, closed,
      Option.toList, List.map, List.append_assoc, List.cons_append, List.nil_append, if_true,
      if_false, Bool.false_eq_true]

/-! ## The lines -/

theorem phrase_plain (status : Status) :
    IsLine (utf8 (Status.phrase status)) ∧ (utf8 (Status.phrase status)).length ≤ 40 := by
  unfold Status.phrase Status.phrase?
  split <;> decide +kernel

theorem statusLine_plain (status : Status) :
    IsLine (statusLine status) ∧ statusLine status ≠ [] := by
  have version : IsLine (utf8 "HTTP/1.1 ") ∧ utf8 "HTTP/1.1 " ≠ [] := by decide
  have space : IsLine (utf8 " ") := by decide
  simp [statusLine, version, space, (phrase_plain status).1, Header.isLine_ofNat]

theorem fields_plain (type : ∀ type ∈ contentType, IsLine (utf8 type)) :
    ∀ line ∈ fields keepAlive contentType length, IsLine line ∧ line ≠ [] := by
  have typeName : IsLine (utf8 "Content-Type: ") ∧ utf8 "Content-Type: " ≠ [] := by decide
  have lengthName : IsLine (utf8 "Content-Length: ") ∧ utf8 "Content-Length: " ≠ [] := by
    decide
  have connection : ∀ line ∈ connectionLines keepAlive, IsLine line ∧ line ≠ [] := by
    revert keepAlive
    decide
  intro line there
  rcases List.mem_append.mp there with there | there
  · obtain ⟨t, some_, rfl⟩ := List.mem_map.mp there
    have inType := type t (Option.mem_toList.mp some_)
    simp [typeName, inType]
  rcases List.mem_cons.mp there with rfl | there
  · simp [lengthLine, lengthName, Header.isLine_ofNat]
  · exact connection line there

theorem lines_plain (status : Status) (type : ∀ type ∈ contentType, IsLine (utf8 type)) :
    ∀ line ∈ statusLine status :: fields keepAlive contentType length,
      IsLine line ∧ line ≠ [] := by
  intro line there
  rcases List.mem_cons.mp there with rfl | there
  · exact statusLine_plain status
  · exact fields_plain type line there

theorem blockEnd?_head (status : Status) (type : ∀ type ∈ contentType, IsLine (utf8 type))
    (more : Bytes) :
    Header.blockEnd? (head status keepAlive contentType length ++ more)
      = some (block status keepAlive contentType length).length := by
  rw [head_eq, List.append_assoc]
  exact Header.blockEnd?_block more (List.cons_ne_nil _ _) (lines_plain status type)

theorem lines_block (status : Status) (type : ∀ type ∈ contentType, IsLine (utf8 type)) :
    Header.lines (block status keepAlive contentType length)
      = fields keepAlive contentType length :=
  Header.lines_block fun line there ↦ (lines_plain status type line there).1

/-! ## What the lines say -/

theorem contentLength?_block (status : Status)
    (type : ∀ type ∈ contentType, IsLine (utf8 type)) (small : length < Numeral.limit64) :
    Header.contentLength? (block status keepAlive contentType length) = some length := by
  have other : (utf8 "Content-Type: ").length ≤ Header.contentLengthName.length ∧
      ¬ (utf8 "Content-Type: ").lower <+: Header.contentLengthName := by decide
  refine Header.contentLength?_of_lines (lines_block status type) (fun line there ↦ ?_) small
  obtain ⟨t, -, rfl⟩ := List.mem_map.mp there
  exact Header.value?_append_of_other _ other.1 other.2

theorem value?_connection_of_mem {line : Bytes}
    (there : line ∈ typeLine contentType ++ [lengthLine length]) :
    Header.value? Header.connectionName line = none := by
  have otherType : Header.connectionName.length ≤ (utf8 "Content-Type: ").length ∧
      Header.value? Header.connectionName (utf8 "Content-Type: ") = none := by decide
  have otherLength : Header.connectionName.length ≤ (utf8 "Content-Length: ").length ∧
      Header.value? Header.connectionName (utf8 "Content-Length: ") = none := by decide
  rcases List.mem_append.mp there with there | there
  · obtain ⟨t, -, rfl⟩ := List.mem_map.mp there
    rw [Header.value?_append _ otherType.1, otherType.2]
    rfl
  · rw [List.mem_singleton.mp there, lengthLine, Header.value?_append _ otherLength.1,
      otherLength.2]
    rfl

theorem connection?_block (status : Status)
    (type : ∀ type ∈ contentType, IsLine (utf8 type)) :
    Header.connection? (block status keepAlive contentType length)
      = some (if keepAlive then utf8 "keep-alive" else utf8 "close") := by
  have own : ((connectionLines keepAlive).findSome? (Header.value? Header.connectionName)).map
      Bytes.trim = some (if keepAlive then utf8 "keep-alive" else utf8 "close") := by
    revert keepAlive
    decide
  have skipped : (typeLine contentType ++ [lengthLine length]).findSome?
      (Header.value? Header.connectionName) = none :=
    List.findSome?_eq_none_iff.mpr fun line there ↦ value?_connection_of_mem there
  rw [Header.connection?, lines_block status type, fields, List.append_cons,
    List.findSome?_append, skipped]
  exact own

/-- No line speaks of closing but the connection header, and that one does if the connection is to
be closed. -/
theorem wantsClose_block (status : Status) (type : ∀ type ∈ contentType, IsLine (utf8 type)) :
    Header.wantsClose (block status keepAlive contentType length) = !keepAlive := by
  rw [Header.wantsClose, lines_block status type, fields, List.append_cons, List.any_append,
    List.any_eq_false.mpr, Bool.false_or]
  · revert keepAlive
    decide
  · intro line there
    rw [value?_connection_of_mem there]
    exact Bool.false_ne_true

theorem ofLine?_statusLine (least : 100 ≤ status) (three : status < 1000) :
    Status.ofLine? (statusLine status ++ [Octet.cr]) = some status := by
  have isHttp : ∀ rest, (utf8 "HTTP/").isPrefixOf (utf8 "HTTP/1.1 " ++ rest) = true := by
    have starts : utf8 "HTTP/" <+: utf8 "HTTP/1.1 " := by decide
    intro rest
    exact List.isPrefixOf_iff_prefix.mpr (starts.trans (List.prefix_append _ _))
  have version : utf8 "HTTP/1.1 " = [0x48, 0x54, 0x54, 0x50, 0x2F, 0x31, 0x2E, 0x31, 0x20] ∧
      utf8 " " = [Octet.space] := by decide
  have digit {d : Nat} (h : d < 10) : Octet.digit? d.digitChar.toNat.toUInt8 = some d := by
    revert d
    decide
  have code := Numeral.ofNat_of_three_digits least three
  have sum (n : Nat) : n / 100 * 100 + n / 10 % 10 * 10 + n % 10 = n := by omega
  have first : status / 100 < 10 := Nat.div_lt_of_lt_mul three
  rw [Status.ofLine?, Header.stripCr_concat, statusLine, if_pos (isHttp _), code, version.1,
    version.2]
  simp [List.dropWhile, Octet.space, digit first, digit (Nat.mod_lt _ _), sum]

theorem statusOf?_head (least : 100 ≤ status) (three : status < 1000) (more : Bytes) :
    Exchange.statusOf? (head status keepAlive contentType length ++ more) = some status := by
  obtain ⟨⟨-, noLf⟩, -⟩ := statusLine_plain status
  obtain ⟨rest, cut⟩ : ∃ rest, head status keepAlive contentType length ++ more
      = (statusLine status ++ [Octet.cr]) ++ Octet.lf :: rest := by
    obtain ⟨line, lines, some_⟩ := List.exists_cons_of_ne_nil
      (show fields keepAlive contentType length ≠ [] by simp [fields])
    refine ⟨Header.block (line :: lines) ++ Header.terminator ++ more, ?_⟩
    rw [head_eq, block, some_, Header.block_cons_cons]
    simp
  have before : (statusLine status ++ [Octet.cr]).findIdx? (· == Octet.lf) = none := by
    have other : Octet.lf ∉ statusLine status ++ [Octet.cr] := by
      simpa [noLf] using (by decide : Octet.lf ≠ Octet.cr)
    refine List.findIdx?_eq_none_iff.mpr fun b there ↦ beq_eq_false_iff_ne.mpr ?_
    rintro rfl
    exact other there
  have line : (head status keepAlive contentType length ++ more).findIdx? (· == Octet.lf)
      = some (statusLine status ++ [Octet.cr]).length := by
    rw [cut, List.findIdx?_append, before, List.findIdx?_cons]
    simp
  rw [Exchange.statusOf?, line, Option.bind_some, cut, List.take_left,
    ofLine?_statusLine least three]

/-! ## Whole responses -/

theorem length_head_le (three : status < 1000) (small : length < Numeral.limit64)
    (type : ∀ type ∈ contentType, (utf8 type).length ≤ 16) :
    (head status keepAlive contentType length).length ≤ 200 := by
  have code : (Numeral.ofNat status).length ≤ 3 :=
    (Numeral.length_ofNat_le_iff (by decide)).mpr three
  have digits : (Numeral.ofNat length).length ≤ 20 :=
    (Numeral.length_ofNat_le_iff (by decide)).mpr (Nat.lt_trans small (by decide))
  have phrase := (phrase_plain status).2
  have names : (utf8 "HTTP/1.1 ").length = 9 ∧ (utf8 " ").length = 1 ∧
      (utf8 "Content-Type").length = 12 ∧ (utf8 ": ").length = 2 ∧
      (utf8 "Content-Length").length = 14 := by decide
  have connection : (if keepAlive then
      headerLine (utf8 "Connection") (utf8 "keep-alive") ++
        headerLine (utf8 "Keep-Alive") (utf8 "timeout=" ++ Numeral.ofNat keepAliveSeconds)
      else headerLine (utf8 "Connection") (utf8 "close")).length ≤ 47 := by
    revert keepAlive
    decide
  have numeral : (headerLine (utf8 "Content-Length") (Numeral.ofNat length)).length ≤ 38 := by
    simp only [headerLine, List.length_append, names, Header.lineEnd, List.length_cons,
      List.length_nil]
    omega
  have ends : Header.lineEnd.length = 2 := rfl
  rcases contentType with _ | contentType
  · simp only [head, List.length_append, names, ends, List.length_nil]
    omega
  · have typed : (headerLine (utf8 "Content-Type") (utf8 contentType)).length ≤ 32 := by
      have short := type contentType rfl
      simp only [headerLine, List.length_append, names, ends]
      omega
    simp only [head, List.length_append, names, ends]
    omega

/-- **A response is whole** for a reader into whose buffer its head fits, whatever comes after
it. -/
theorem whole_write {capacity : Nat} (body more : Bytes) (least : 100 ≤ status)
    (three : status < 1000) (type : ∀ type ∈ contentType, IsLine (utf8 type))
    (small : body.length < Numeral.limit64)
    (fits : (head status keepAlive contentType body.length).length ≤ capacity) :
    Exchange.Whole capacity (write status keepAlive contentType body ++ more) status body := by
  have cut : write status keepAlive contentType body ++ more
      = head status keepAlive contentType body.length ++ (body ++ more) := by
    rw [write, List.append_assoc]
  have length : (head status keepAlive contentType body.length).length
      = (block status keepAlive contentType body.length).length + Header.terminator.length := by
    rw [head_eq, List.length_append]
  rw [cut]
  refine ⟨_, blockEnd?_head status type _, length ▸ fits, statusOf?_head least three _, ?_, ?_⟩
  · rw [head_eq, List.append_assoc, List.take_left, contentLength?_block status type small]
    rfl
  · rw [← length, List.drop_left]
    exact List.prefix_append _ _

end Response

end PaymentRelay
