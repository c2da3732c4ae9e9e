import PaymentRelay.Http.Request
import PaymentRelay.Proofs.Bytes.Split
import PaymentRelay.Proofs.Bytes.Trim
import PaymentRelay.Proofs.Bytes.Utf8
import PaymentRelay.Proofs.Http.Numerals

/-!
# Reading back request heads

A header block is lines with line ends between them. Of lines that hold no carriage return and no
line feed it is taken apart into just these lines again, and if none of them is empty then the block
ends where it should, whatever comes after it. The first line that begins with the name of the
length tells the length, and lines with other names are not taken for it.

So the server reads from a `GET` of this program what was asked for, whatever the target and the
host are, if only the target has no space in it and neither has a line end.
-/

namespace PaymentRelay

namespace Octet

theorem not_isBlank_of_isDigit {b : UInt8} (h : isDigit b = true) : isBlank b = false := by
  simp only [isDigit, Bool.and_eq_true, decide_eq_true_eq] at h
  obtain ⟨least, most⟩ := h
  simp only [isBlank, Bool.or_eq_false_iff, beq_eq_false_iff_ne]
  refine ⟨⟨⟨⟨?_, ?_⟩, ?_⟩, ?_⟩, ?_⟩ <;> (rintro rfl; revert least; decide)

end Octet

namespace Header

open Octet (cr lf)

/-- Lines with line ends between them. -/
def block (lines : List Bytes) : Bytes := lineEnd.intercalate lines

/-- Nothing in a line ends it. -/
def IsLine (line : Bytes) : Prop := cr ∉ line ∧ lf ∉ line

instance : DecidablePred IsLine := fun _ ↦ inferInstanceAs (Decidable (_ ∧ _))

variable {line : Bytes} {lines : List Bytes}

@[simp] theorem isLine_append {front back : Bytes} :
    IsLine (front ++ back) ↔ IsLine front ∧ IsLine back := by
  simp only [IsLine, List.mem_append, not_or]
  tauto

@[simp] theorem isLine_cons {b : UInt8} {bs : Bytes} :
    IsLine (b :: bs) ↔ (b ≠ cr ∧ b ≠ lf) ∧ IsLine bs := by
  simp only [IsLine, List.mem_cons, not_or, ne_comm]
  tauto

theorem isLine_utf8_iff {s : String} : IsLine (utf8 s) ↔ '\r' ∉ s.toList ∧ '\n' ∉ s.toList :=
  and_congr (not_congr (mem_utf8_iff (c := '\r') (by decide)))
    (not_congr (mem_utf8_iff (c := '\n') (by decide)))

theorem isLine_ofNat (n : Nat) : IsLine (Numeral.ofNat n) := by
  constructor <;> intro there <;> cases Numeral.isDigit_of_mem_ofNat there

theorem block_singleton (line : Bytes) : block [line] = line := by
  simp [block]

theorem block_cons_cons (line next : Bytes) (lines : List Bytes) :
    block (line :: next :: lines) = line ++ cr :: lf :: block (next :: lines) := by
  simp [block, List.intercalate_cons_cons, lineEnd, cr, lf]

theorem exists_block_cons (line : Bytes) (lines : List Bytes) :
    ∃ tail, block (line :: lines) = line ++ tail := by
  cases lines with
  | nil => exact ⟨[], by rw [block_singleton, List.append_nil]⟩
  | cons next lines => exact ⟨_, block_cons_cons line next lines⟩

theorem stripCr_of_not_mem (h : cr ∉ line) : Bytes.stripCr line = line := by
  rw [Bytes.stripCr, if_neg]
  exact fun last ↦ h (List.mem_of_getLast? last)

theorem stripCr_concat (line : Bytes) : Bytes.stripCr (line ++ [cr]) = line := by
  simp [Bytes.stripCr]

/-- **A block is taken apart** into its lines. -/
theorem split_block (some_ : lines ≠ []) (plain : ∀ line ∈ lines, IsLine line) :
    (Bytes.split lf (block lines)).map Bytes.stripCr = lines := by
  induction lines with
  | nil => exact absurd rfl some_
  | cons line lines ih =>
    obtain ⟨noCr, noLf⟩ := plain line List.mem_cons_self
    cases lines with
    | nil => simp [block_singleton, Bytes.split_of_not_mem noLf, stripCr_of_not_mem noCr]
    | cons next lines =>
      have ends : lf ∉ line ++ [cr] := by
        simpa [noLf] using (by decide : lf ≠ cr)
      have cut : block (line :: next :: lines) = (line ++ [cr]) ++ lf :: block (next :: lines) := by
        simp [block_cons_cons]
      rw [cut, Bytes.split_append _ ends, List.map_cons, stripCr_concat,
        ih (List.cons_ne_nil _ _) fun line there ↦ plain line (List.mem_cons_of_mem _ there)]

theorem lines_block {first : Bytes} (plain : ∀ line ∈ first :: lines, IsLine line) :
    Header.lines (block (first :: lines)) = lines := by
  rw [Header.lines, List.map_drop, split_block (List.cons_ne_nil _ _) plain]
  rfl

/-- A line end ends no block if another line comes after it. -/
theorem findFrom_lineEnd {b : UInt8} (i : Nat) (rest : Bytes) (other : b ≠ cr) :
    Bytes.findFrom terminator i (cr :: lf :: b :: rest)
      = Bytes.findFrom terminator (i + 2) (b :: rest) := by
  have here : ¬ terminator.isPrefixOf (cr :: lf :: b :: rest) = true := by
    simp [terminator, cr, lf] at other ⊢
    exact fun same ↦ absurd same.symm other
  have next : ¬ terminator.isPrefixOf (lf :: b :: rest) = true := by
    simp [terminator, lf]
  rw [Bytes.findFrom, if_neg here, Bytes.findFrom, if_neg next]

/-- **A block ends where it should**, if no line of it is empty. -/
theorem findFrom_block (i : Nat) (more : Bytes) (some_ : lines ≠ [])
    (plain : ∀ line ∈ lines, IsLine line ∧ line ≠ []) :
    Bytes.findFrom terminator i (block lines ++ (terminator ++ more))
      = some (i + (block lines).length) := by
  induction lines generalizing i with
  | nil => exact absurd rfl some_
  | cons line lines ih =>
    obtain ⟨⟨noCr, -⟩, -⟩ := plain line List.mem_cons_self
    have passed (rest : Bytes) : Bytes.findFrom terminator i (line ++ rest)
        = Bytes.findFrom terminator (i + line.length) rest :=
      Bytes.findFrom_append_of_not_mem i rest noCr
    cases lines with
    | nil =>
      have ends : terminator.isPrefixOf (terminator ++ more) = true :=
        List.isPrefixOf_iff_prefix.mpr (List.prefix_append _ _)
      rw [block_singleton, passed]
      exact if_pos ends
    | cons next lines =>
      have later : ∀ line ∈ next :: lines, IsLine line ∧ line ≠ [] :=
        fun line there ↦ plain line (List.mem_cons_of_mem _ there)
      obtain ⟨⟨noCr', -⟩, nonempty⟩ := later next List.mem_cons_self
      have rest := ih (i + line.length + 2) (List.cons_ne_nil _ _) later
      obtain ⟨b, bs, same⟩ := List.exists_cons_of_ne_nil nonempty
      obtain ⟨tail, whole⟩ := exists_block_cons next lines
      have other : b ≠ cr := fun h ↦ noCr' (by rw [same, h]; exact List.mem_cons_self)
      have front : block (next :: lines) ++ (terminator ++ more)
          = b :: (bs ++ tail ++ (terminator ++ more)) := by rw [whole, same]; rfl
      rw [block_cons_cons, List.append_assoc, passed, List.cons_append, List.cons_append, front,
        findFrom_lineEnd _ _ other, ← front, rest]
      simp only [List.length_append, List.length_cons]
      congr 1
      omega

theorem blockEnd?_block (more : Bytes) (some_ : lines ≠ [])
    (plain : ∀ line ∈ lines, IsLine line ∧ line ≠ []) :
    blockEnd? (block lines ++ (terminator ++ more)) = some (block lines).length := by
  have found := findFrom_block 0 more some_ plain
  rwa [Nat.zero_add] at found

theorem value?_of_ne {first b : UInt8} (name line : Bytes) (other : first ≠ Octet.lower b) :
    value? (first :: name) (b :: line) = none := by
  simp [value?, Bytes.lower, other]

/-- Whether a line is of a name is settled by as many octets as the name has. -/
theorem value?_append {name front : Bytes} (back : Bytes) (long : name.length ≤ front.length) :
    value? name (front ++ back) = (value? name front).map (· ++ back) := by
  have same : name.isPrefixOf (Bytes.lower (front ++ back))
      = name.isPrefixOf (Bytes.lower front) := by
    rw [Bool.eq_iff_iff, List.isPrefixOf_iff_prefix, List.isPrefixOf_iff_prefix, Bytes.lower,
      Bytes.lower, List.map_append]
    constructor
    · intro start
      exact List.prefix_of_prefix_length_le start (List.prefix_append _ _) (by simpa using long)
    · intro start
      exact start.trans (List.prefix_append _ _)
  rw [value?, value?, same, List.drop_append_of_le_length long]
  split <;> rfl

theorem value?_append_of_other {name front : Bytes} (back : Bytes)
    (short : front.length ≤ name.length) (other : ¬ front.lower <+: name) :
    value? name (front ++ back) = none := by
  refine if_neg fun start ↦ other ?_
  rw [List.isPrefixOf_iff_prefix, Bytes.lower, List.map_append] at start
  exact List.prefix_of_prefix_length_le (List.prefix_append _ _) start
    (by simpa [Bytes.lower] using short)

/-- **The first line of that name counts**, and it is read without the blanks around its value. -/
theorem contentLength?_of_value {block value : Bytes} {before after : List Bytes}
    (cut : Header.lines block = before ++ line :: after)
    (other : ∀ line ∈ before, value? contentLengthName line = none)
    (own : value? contentLengthName line = some value) :
    contentLength? block = Numeral.read? Numeral.limit64 value.trim := by
  have told : (Header.lines block).findSome? (value? contentLengthName) = some value := by
    rw [cut, List.findSome?_append, List.findSome?_eq_none_iff.mpr other, List.findSome?_cons, own]
    rfl
  rw [contentLength?, told, Option.bind_some]

/-- **The first line of that name tells the length**, if it is written without zeros in front. -/
theorem contentLength?_of_lines {block : Bytes} {before after : List Bytes} {length : Nat}
    (cut : Header.lines block
      = before ++ (utf8 "Content-Length: " ++ Numeral.ofNat length) :: after)
    (other : ∀ line ∈ before, value? contentLengthName line = none)
    (small : length < Numeral.limit64) : contentLength? block = some length := by
  have name : contentLengthName.length ≤ (utf8 "Content-Length: ").length ∧
      value? contentLengthName (utf8 "Content-Length: ") = some [Octet.space] := by
    decide
  have own : value? contentLengthName (utf8 "Content-Length: " ++ Numeral.ofNat length)
      = some (Octet.space :: Numeral.ofNat length) := by
    rw [value?_append _ name.1, name.2]
    rfl
  have trimmed : Bytes.trim (Octet.space :: Numeral.ofNat length) = Numeral.ofNat length := by
    rw [Bytes.trim_cons rfl]
    exact Bytes.trim_of_plain fun b there ↦
      Octet.not_isBlank_of_isDigit (Numeral.isDigit_of_mem_ofNat there)
  rw [contentLength?_of_value cut other own, trimmed, Numeral.read?_ofNat small]

end Header

namespace RequestHead

theorem firstLine_block {first : Bytes} {lines : List Bytes} (plain : Header.IsLine first) :
    firstLine (Header.block (first :: lines)) = first := by
  have passed (rest : Bytes) : Bytes.findFrom Header.lineEnd 0 (first ++ rest)
      = Bytes.findFrom Header.lineEnd (0 + first.length) rest :=
    Bytes.findFrom_append_of_not_mem 0 rest plain.1
  cases lines with
  | nil =>
    have none_ : Bytes.find? first Header.lineEnd = none := by
      have nowhere := passed []
      rw [List.append_nil] at nowhere
      exact nowhere
    rw [Header.block_singleton, firstLine, none_]
  | cons next lines =>
    have found : Bytes.find? (Header.block (first :: next :: lines)) Header.lineEnd
        = some first.length := by
      have here := passed (Octet.cr :: Octet.lf :: Header.block (next :: lines))
      rw [Nat.zero_add] at here
      rw [Header.block_cons_cons]
      exact here
    rw [firstLine, found, Header.block_cons_cons]
    simp

/-- **A request line is taken apart** into a method, a target and a version, if none of them holds a
space. -/
theorem read?_block {method target version : Bytes} {m t : String} {lines : List Bytes}
    (plain : Header.IsLine (method ++ Octet.space :: (target ++ Octet.space :: version)))
    (spaceless : Octet.space ∉ method ∧ Octet.space ∉ target ∧ Octet.space ∉ version)
    (isMethod : method? method = some m) (isTarget : target? target = some t)
    (isVersion : (utf8 "HTTP/1.").isPrefixOf version = true) :
    read? (Header.block ((method ++ Octet.space :: (target ++ Octet.space :: version)) :: lines))
      = some ⟨m, t,
        Header.contentLength? (Header.block
          ((method ++ Octet.space :: (target ++ Octet.space :: version)) :: lines)),
        Header.wantsClose (Header.block
          ((method ++ Octet.space :: (target ++ Octet.space :: version)) :: lines))⟩ := by
  obtain ⟨inMethod, inTarget, inVersion⟩ := spaceless
  rw [read?, firstLine_block plain, Bytes.split_append _ inMethod, Bytes.split_append _ inTarget,
    Bytes.split_of_not_mem inVersion]
  simp only [isMethod, isTarget, isVersion, if_true]

/-- The lines of a `GET` of this program. -/
def getLines (target host : String) : List Bytes :=
  [utf8 "GET" ++ Octet.space :: (utf8 target ++ Octet.space :: utf8 "HTTP/1.1"),
    utf8 "Host: " ++ utf8 host, utf8 "Connection: close"]

theorem utf8_get (target host : String) : utf8 (Request.get target host)
    = Header.block (getLines target host) ++ (Header.terminator ++ []) := by
  have method : utf8 "GET " = utf8 "GET" ++ [Octet.space] := by decide +kernel
  have version : utf8 " HTTP/1.1\r\nHost: "
      = Octet.space :: (utf8 "HTTP/1.1" ++ Octet.cr :: Octet.lf :: utf8 "Host: ") := by
    decide +kernel
  have rest : utf8 "\r\nConnection: close\r\n\r\n"
      = Octet.cr :: Octet.lf :: (utf8 "Connection: close" ++ Header.terminator) := by
    decide +kernel
  rw [Request.get]
  simp only [utf8_append, method, version, rest, getLines, Header.block_cons_cons,
    Header.block_singleton, List.append_assoc, List.cons_append, List.nil_append, List.append_nil]

theorem getLines_plain {target host : String} (line : '\r' ∉ target.toList ∧ '\n' ∉ target.toList)
    (hostLine : '\r' ∉ host.toList ∧ '\n' ∉ host.toList) :
    ∀ line ∈ getLines target host, Header.IsLine line ∧ line ≠ [] := by
  rw [← Header.isLine_utf8_iff] at line hostLine
  have get : Header.IsLine (utf8 "GET") := by decide +kernel
  have version : Header.IsLine (utf8 "HTTP/1.1") := by decide +kernel
  have closing : Header.IsLine (utf8 "Connection: close") ∧ utf8 "Connection: close" ≠ [] := by
    decide +kernel
  have hostName : Header.IsLine (utf8 "Host: ") ∧ utf8 "Host: " ≠ [] := by decide +kernel
  have inLine : Octet.space ≠ Octet.cr ∧ Octet.space ≠ Octet.lf := by decide
  simp [getLines, get, version, closing, hostName, line, hostLine, inLine]

theorem read?_getLines {target host : String} (root : target.toList.head? = some '/')
    (noSpace : ' ' ∉ target.toList) (line : '\r' ∉ target.toList ∧ '\n' ∉ target.toList)
    (hostLine : '\r' ∉ host.toList ∧ '\n' ∉ host.toList) :
    read? (Header.block (getLines target host)) = some ⟨"GET", target, none, true⟩ := by
  have plain := getLines_plain line hostLine
  rw [← mem_utf8_iff (c := ' ') (by decide)] at noSpace
  have get : Octet.space ∉ utf8 "GET" ∧ method? (utf8 "GET") = some "GET" := by decide +kernel
  have version : Octet.space ∉ utf8 "HTTP/1.1" ∧
      (utf8 "HTTP/1.").isPrefixOf (utf8 "HTTP/1.1") = true := by decide +kernel
  have lines : Header.lines (Header.block (getLines target host))
      = [utf8 "Host: " ++ utf8 host, utf8 "Connection: close"] :=
    Header.lines_block fun line there ↦ (plain line there).1
  have noLength : Header.contentLength? (Header.block (getLines target host)) = none := by
    have host_ : Header.value? Header.contentLengthName (utf8 "Host: " ++ utf8 host) = none :=
      Header.value?_of_ne _ _ (by decide)
    have closing_ : Header.value? Header.contentLengthName (utf8 "Connection: close") = none := by
      decide +kernel
    rw [Header.contentLength?, lines, List.findSome?_cons, host_, List.findSome?_cons, closing_]
    rfl
  have closes : Header.wantsClose (Header.block (getLines target host)) = true := by
    have closing_ : ∃ value,
        Header.value? Header.connectionName (utf8 "Connection: close") = some value ∧
          (Bytes.find? value.lower (utf8 "close")).isSome = true :=
        ⟨utf8 " close", by decide +kernel⟩
    obtain ⟨value, said, close⟩ := closing_
    simp [Header.wantsClose, lines, said, close]
  have isTarget : target? (utf8 target) = some target := by
    simp [target?, root]
  rw [getLines,
    read?_block (plain _ List.mem_cons_self).1 ⟨get.1, noSpace, version.1⟩ get.2 isTarget
      version.2, ← getLines, noLength, closes]

/-- **A `GET` of this program is read** as what it asks for, up to its last octet. -/
theorem read?_get {target host : String} (root : target.toList.head? = some '/')
    (noSpace : ' ' ∉ target.toList) (line : '\r' ∉ target.toList ∧ '\n' ∉ target.toList)
    (hostLine : '\r' ∉ host.toList ∧ '\n' ∉ host.toList) :
    ∃ i, Header.blockEnd? (utf8 (Request.get target host)) = some i ∧
      i + Header.terminator.length = (utf8 (Request.get target host)).length ∧
      read? ((utf8 (Request.get target host)).take i) = some ⟨"GET", target, none, true⟩ := by
  have plain := getLines_plain line hostLine
  rw [utf8_get]
  refine ⟨_, Header.blockEnd?_block [] (List.cons_ne_nil _ _) plain, ?_, ?_⟩
  · rw [List.append_nil, List.length_append]
  · rw [List.take_left]
    exact read?_getLines root noSpace line hostLine

end RequestHead

end PaymentRelay
