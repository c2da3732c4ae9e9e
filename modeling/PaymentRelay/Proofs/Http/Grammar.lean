import PaymentRelay.Proofs.Http.Heads

/-!
# The grammar of a request head

What a request head is can be said without a reader. Its first line is a method, a target and a
version between single spaces. Of the lines after it the first that begins with the name of the
length declares the length, whatever later lines of that name say, and any line that begins with the
name of the connection may ask for it to be closed. Names are written in any case.

The reader searches, splits and takes prefixes; that it comes to what the grammar says is the main
statement here. From the grammar it can be seen that lines of other names do not matter, wherever
they stand, and that the case of a name does not matter either.
-/

namespace PaymentRelay

namespace Octet

/-- The colon, which ends the name of a header line. -/
def colon : UInt8 := 0x3A

theorem eq_colon_of_lower {b : UInt8} (h : lower b = colon) : b = colon := by
  unfold lower at h
  split at h
  · next capital =>
    simp only [Bool.and_eq_true, decide_eq_true_eq, UInt8.le_iff_toNat_le, UInt8.reduceToNat]
      at capital
    have number := congrArg UInt8.toNat h
    simp only [colon, UInt8.toNat_add, UInt8.reduceToNat] at number
    omega
  · exact h

theorem isToken_ne_space {b : UInt8} (token : isToken b = true) : b ≠ space := by
  rintro rfl
  revert token
  decide

end Octet

namespace Header

open Octet (colon)

/-! ## Header lines -/

/-- A line begins with a name, in any case. The name is given in lower case and with its colon. -/
def Named (name line : Bytes) : Prop := name <+: line.lower

/-- A line asks for the connection to be closed. -/
def Closes (line : Bytes) : Prop :=
  Named connectionName line ∧ utf8 "close" <:+: Bytes.lower (line.drop connectionName.length)

/-- What header lines declare to be the length of the body: what the first line of that name says,
if that is a numeral. -/
inductive Declares : List Bytes → Option Nat → Prop where
  /-- There is no such line. -/
  | nothing : Declares [] none
  /-- The first line is one, and those after it are not looked at. -/
  | first {line : Bytes} {lines : List Bytes} (named : Named contentLengthName line) :
      Declares (line :: lines)
        (Numeral.read? Numeral.limit64 (Bytes.trim (line.drop contentLengthName.length)))
  /-- The first line is none. -/
  | later {line : Bytes} {lines : List Bytes} {length : Option Nat}
      (other : ¬ Named contentLengthName line) (rest : Declares lines length) :
      Declares (line :: lines) length

instance : DecidableRel Named := fun _ _ ↦ inferInstanceAs (Decidable (_ <+: _))

instance : DecidablePred Closes := fun _ ↦ inferInstanceAs (Decidable (_ ∧ _))

variable {name line line' value : Bytes} {lines lines' : List Bytes} {length : Option Nat}

theorem value?_of_named (named : Named name line) :
    value? name line = some (line.drop name.length) :=
  if_pos (List.isPrefixOf_iff_prefix.mpr named)

theorem value?_of_not_named (other : ¬ Named name line) : value? name line = none :=
  if_neg (mt List.isPrefixOf_iff_prefix.mp other)

theorem declares_iff : Declares lines length ↔
    ((lines.findSome? (value? contentLengthName)).bind fun value ↦
      Numeral.read? Numeral.limit64 value.trim) = length := by
  constructor
  · intro declares
    induction declares with
    | nothing => rfl
    | first named =>
      rw [List.findSome?_cons, value?_of_named named]
      rfl
    | later other rest ih =>
      rw [List.findSome?_cons, value?_of_not_named other]
      exact ih
  · rintro rfl
    induction lines with
    | nil => exact .nothing
    | cons line lines ih =>
      rw [List.findSome?_cons]
      by_cases named : Named contentLengthName line
      · rw [value?_of_named named]
        exact .first named
      · rw [value?_of_not_named named]
        exact .later named ih

/-- **The length of a block** is what its lines declare. -/
theorem contentLength?_eq_iff {block : Bytes} :
    contentLength? block = length ↔ Declares (Header.lines block) length :=
  declares_iff.symm

theorem closes_iff : Closes line ↔
    (match value? connectionName line with
      | some value => (Bytes.find? value.lower (utf8 "close")).isSome
      | none => false) = true := by
  have some_ : utf8 "close" ≠ [] := by decide
  by_cases named : Named connectionName line
  · rw [value?_of_named named]
    dsimp only
    rw [Bytes.find?_isSome_iff some_]
    exact and_iff_right named
  · rw [value?_of_not_named named]
    exact iff_of_false (fun closes ↦ named closes.1) Bool.false_ne_true

/-- **A block asks to close** if one of its lines does. -/
theorem wantsClose_iff {block : Bytes} :
    wantsClose block = true ↔ ∃ line ∈ Header.lines block, Closes line := by
  rw [wantsClose, List.any_eq_true]
  constructor
  · rintro ⟨line, there, asks⟩
    exact ⟨line, there, closes_iff.mpr asks⟩
  · rintro ⟨line, there, closes⟩
    exact ⟨line, there, closes_iff.mp closes⟩

/-! ## Lines that say the same -/

/-- Two lines have the same value under the same name, which may be written in another case. -/
def Recased (line line' : Bytes) : Prop :=
  ∃ name name' value, line = name ++ colon :: value ∧ line' = name' ++ colon :: value ∧
    Bytes.lower name = Bytes.lower name' ∧ colon ∉ name

/-- A line has one of the two names that matter. -/
def Matters (line : Bytes) : Prop := Named contentLengthName line ∨ Named connectionName line

instance : DecidablePred Matters := fun _ ↦ inferInstanceAs (Decidable (_ ∨ _))

/-- The lines that matter are the same and in the same order, up to the case of their names. Lines
of other names may be there or not, and anywhere. -/
def SaySame (lines lines' : List Bytes) : Prop :=
  List.Forall₂ Recased (lines.filter (Matters ·)) (lines'.filter (Matters ·))

theorem colon_not_mem_lower (h : colon ∉ name) : colon ∉ name.lower := by
  intro there
  obtain ⟨b, mem, same⟩ := List.mem_map.mp there
  exact h (Octet.eq_colon_of_lower same ▸ mem)

theorem named_iff {label : Bytes} (whole : colon ∉ label) (plain : colon ∉ name) :
    Named (label ++ [colon]) (name ++ colon :: value) ↔ name.lower = label := by
  have lowered : Bytes.lower (name ++ colon :: value) = name.lower ++ colon :: value.lower := by
    simp only [Bytes.lower, List.map_append, List.map_cons]
    rfl
  rw [Named, lowered]
  constructor
  · rintro ⟨more, cut⟩
    rw [List.append_assoc, List.singleton_append] at cut
    have pieces := congrArg (Bytes.split colon) cut
    rw [Bytes.split_append _ whole, Bytes.split_append _ (colon_not_mem_lower plain)] at pieces
    exact (List.cons.inj pieces).1.symm
  · rintro rfl
    exact ⟨value.lower, by simp⟩

theorem value?_recased {label : Bytes} (whole : colon ∉ label) (recased : Recased line line') :
    value? (label ++ [colon]) line = value? (label ++ [colon]) line' := by
  obtain ⟨name, name', value, rfl, rfl, same, plain⟩ := recased
  have plain' : colon ∉ name' := by
    intro there
    have lowered : colon ∈ name'.lower := List.mem_map.mpr ⟨colon, there, rfl⟩
    exact colon_not_mem_lower plain (same ▸ lowered)
  have length : name.length = name'.length := by
    simpa [Bytes.lower] using congrArg List.length same
  have cut {name : Bytes} (named : name.lower = label) :
      (name ++ colon :: value).drop (label ++ [colon]).length = value := by
    have long : label.length = name.length := by
      rw [← named, Bytes.lower, List.length_map]
    rw [List.length_append, long, ← List.drop_drop, List.drop_left]
    rfl
  by_cases named : name.lower = label
  · rw [value?_of_named ((named_iff whole plain).mpr named),
      value?_of_named ((named_iff whole plain').mpr (same ▸ named)), cut named, cut (same ▸ named)]
  · rw [value?_of_not_named (mt (named_iff whole plain).mp named),
      value?_of_not_named (mt (named_iff whole plain').mp (same ▸ named))]

theorem contentLengthName_eq :
    ∃ label, contentLengthName = label ++ [colon] ∧ colon ∉ label :=
  ⟨utf8 "content-length", by decide, by decide⟩

theorem connectionName_eq : ∃ label, connectionName = label ++ [colon] ∧ colon ∉ label :=
  ⟨utf8 "connection", by decide, by decide⟩

theorem declares_filter :
    Declares (lines.filter (Matters ·)) length ↔ Declares lines length := by
  rw [declares_iff, declares_iff]
  have same : (lines.filter (Matters ·)).findSome? (value? contentLengthName)
      = lines.findSome? (value? contentLengthName) := by
    induction lines with
    | nil => rfl
    | cons line lines ih =>
      by_cases named : Named contentLengthName line
      · have matter : Matters line := .inl named
        rw [List.filter_cons_of_pos (by simpa using matter), List.findSome?_cons,
          List.findSome?_cons, value?_of_named named]
      · rw [List.findSome?_cons, value?_of_not_named named, List.filter_cons]
        split
        · rw [List.findSome?_cons, value?_of_not_named named]
          exact ih
        · exact ih
  rw [same]

theorem closes_filter :
    (∃ line ∈ lines.filter (Matters ·), Closes line) ↔ ∃ line ∈ lines, Closes line := by
  constructor
  · rintro ⟨line, there, closes⟩
    exact ⟨line, List.mem_of_mem_filter there, closes⟩
  · rintro ⟨line, there, closes⟩
    have matter : Matters line := .inr closes.1
    exact ⟨line, List.mem_filter.mpr ⟨there, by simpa using matter⟩, closes⟩

theorem declares_of_recased (recased : List.Forall₂ Recased lines lines') :
    Declares lines length ↔ Declares lines' length := by
  rw [declares_iff, declares_iff]
  obtain ⟨label, name, whole⟩ := contentLengthName_eq
  have same : lines.findSome? (value? contentLengthName)
      = lines'.findSome? (value? contentLengthName) := by
    induction recased with
    | nil => rfl
    | cons here later ih =>
      rw [List.findSome?_cons, List.findSome?_cons, ih, name, value?_recased whole here]
  rw [same]

theorem closes_of_recased (recased : List.Forall₂ Recased lines lines') :
    (∃ line ∈ lines, Closes line) ↔ ∃ line ∈ lines', Closes line := by
  obtain ⟨label, name, whole⟩ := connectionName_eq
  induction recased with
  | nil => rfl
  | @cons line line' lines lines' here later ih =>
    have same : Closes line ↔ Closes line' := by
      rw [closes_iff, closes_iff, name, value?_recased whole here]
    simp only [List.exists_mem_cons_iff, same, ih]

theorem SaySame.declares (same : SaySame lines lines') :
    Declares lines length ↔ Declares lines' length := by
  rw [← declares_filter, declares_of_recased same, declares_filter]

theorem SaySame.closes (same : SaySame lines lines') :
    (∃ line ∈ lines, Closes line) ↔ ∃ line ∈ lines', Closes line := by
  rw [← closes_filter, closes_of_recased same, closes_filter]

end Header

namespace RequestHead

open Octet (space)

/-! ## The request line -/

/-- A request line is three parts between single spaces: a method, which is a token, a target in
UTF-8, which starts at the root, and a version 1.x. -/
def IsRequestLine (first : Bytes) (method target : String) : Prop :=
  ∃ version, first = utf8 method ++ space :: (utf8 target ++ space :: version) ∧
    (utf8 method ≠ [] ∧ ∀ b ∈ utf8 method, Octet.isToken b = true) ∧
    (space ∉ utf8 target ∧ target.toList.head? = some '/') ∧
    space ∉ version ∧ utf8 "HTTP/1." <+: version

theorem method?_eq_some_iff {part : Bytes} {method : String} : method? part = some method ↔
    utf8 method = part ∧ part ≠ [] ∧ ∀ b ∈ part, Octet.isToken b = true := by
  rw [method?]
  split
  · next token =>
    simp only [Bool.and_eq_true, Bool.not_eq_true', List.isEmpty_eq_false_iff, List.all_eq_true]
      at token
    rw [Utf8.decode?_eq_some_iff, and_iff_left token]
  · next other =>
    simp only [Bool.and_eq_true, Bool.not_eq_true', List.isEmpty_eq_false_iff, List.all_eq_true]
      at other
    exact iff_of_false nofun fun told ↦ other told.2

theorem target?_eq_some_iff {part : Bytes} {target : String} : target? part = some target ↔
    utf8 target = part ∧ target.toList.head? = some '/' := by
  rw [target?, Option.bind_eq_some_iff]
  constructor
  · rintro ⟨text, read, told⟩
    split at told
    · next root =>
      obtain rfl := Option.some.inj told
      exact ⟨Utf8.decode?_eq_some_iff.mp read, root⟩
    · cases told
  · rintro ⟨rfl, root⟩
    exact ⟨target, Utf8.decode?_utf8 target, if_pos root⟩

variable {first : Bytes} {lines : List Bytes} {head : RequestHead}

/-- **A block is read** if it has a request line in front. -/
theorem read?_eq_some_iff {block : Bytes} : read? block = some head ↔
    IsRequestLine (firstLine block) head.method head.target ∧
      Header.contentLength? block = head.contentLength ∧ Header.wantsClose block = head.close := by
  constructor
  · intro read
    unfold read? at read
    split at read
    · next method target version cut =>
      split at read
      · next m t isMethod isTarget =>
        split at read
        · next isVersion =>
          obtain rfl := Option.some.inj read
          obtain ⟨rfl, some_, token⟩ := method?_eq_some_iff.mp isMethod
          obtain ⟨rfl, root⟩ := target?_eq_some_iff.mp isTarget
          have apart : ∀ part ∈ [utf8 m, utf8 t, version], space ∉ part := by
            rw [← cut]
            exact fun _ ↦ Bytes.not_mem_of_mem_split
          have whole := Bytes.intercalate_split space (firstLine block)
          rw [cut, List.intercalate_cons_cons, List.intercalate_cons_cons,
            List.intercalate_singleton] at whole
          refine ⟨⟨version, ?_, ⟨some_, token⟩, ⟨apart _ (by simp), root⟩, apart _ (by simp),
            List.isPrefixOf_iff_prefix.mp isVersion⟩, rfl, rfl⟩
          rw [← whole]
          simp
        · cases read
      · cases read
    · cases read
  · rintro ⟨⟨version, line, ⟨some_, token⟩, ⟨apart, root⟩, apart', isVersion⟩, length, close⟩
    have inMethod : space ∉ utf8 head.method :=
      fun there ↦ Octet.isToken_ne_space (token _ there) rfl
    have isMethod : method? (utf8 head.method) = some head.method :=
      method?_eq_some_iff.mpr ⟨rfl, some_, token⟩
    have isTarget : target? (utf8 head.target) = some head.target :=
      target?_eq_some_iff.mpr ⟨rfl, root⟩
    rw [read?, line, Bytes.split_append _ inMethod, Bytes.split_append _ apart,
      Bytes.split_of_not_mem apart']
    simp only [isMethod, isTarget, List.isPrefixOf_iff_prefix.mpr isVersion, if_true, length, close]

/-- Whether a block is read depends on its first line alone. -/
theorem exists_read?_iff {block : Bytes} :
    (∃ head, read? block = some head) ↔
      ∃ method target, IsRequestLine (firstLine block) method target := by
  constructor
  · rintro ⟨head, read⟩
    exact ⟨_, _, (read?_eq_some_iff.mp read).1⟩
  · rintro ⟨method, target, line⟩
    exact ⟨⟨method, target, _, _⟩, read?_eq_some_iff.mpr ⟨line, rfl, rfl⟩⟩

/-! ## The whole head -/

/-- What the grammar says of a request head. -/
def IsHead (first : Bytes) (lines : List Bytes) (head : RequestHead) : Prop :=
  IsRequestLine first head.method head.target ∧ Header.Declares lines head.contentLength ∧
    (head.close = true ↔ ∃ line ∈ lines, Header.Closes line)

theorem read?_eq_some_iff_isHead {block : Bytes} :
    read? block = some head ↔ IsHead (firstLine block) (Header.lines block) head := by
  have close : Header.wantsClose block = head.close ↔
      (head.close = true ↔ ∃ line ∈ Header.lines block, Header.Closes line) := by
    rw [eq_comm, Bool.eq_iff_iff, Header.wantsClose_iff]
  rw [read?_eq_some_iff, Header.contentLength?_eq_iff, close, IsHead]

theorem read?_block_iff (plain : ∀ line ∈ first :: lines, Header.IsLine line) :
    read? (Header.block (first :: lines)) = some head ↔ IsHead first lines head := by
  rw [read?_eq_some_iff_isHead, firstLine_block (plain first List.mem_cons_self),
    Header.lines_block plain]

/-- **A request head is read by its grammar.** Of a first line and header lines, none of them with a
line end in it,

* the head is read exactly if the first line is a method, a target and a version between single
  spaces;
* what is read is the method and the target, the length that the first line of that name declares,
  and whether any line of that name asks for the connection to be closed;
* it makes no difference which lines of other names there are and where, nor in which case the names
  are written. -/
theorem read_by_grammar (plain : ∀ line ∈ first :: lines, Header.IsLine line) :
    ((read? (Header.block (first :: lines))).isSome = true ↔
        ∃ method target, IsRequestLine first method target) ∧
      (∀ head, read? (Header.block (first :: lines)) = some head ↔ IsHead first lines head) ∧
      ∀ lines', (∀ line ∈ lines', Header.IsLine line) → Header.SaySame lines lines' →
        read? (Header.block (first :: lines')) = read? (Header.block (first :: lines)) := by
  refine ⟨?_, fun head ↦ read?_block_iff plain, ?_⟩
  · rw [Option.isSome_iff_exists, exists_read?_iff,
      firstLine_block (plain first List.mem_cons_self)]
  · intro lines' plain' same
    have whole : ∀ line ∈ first :: lines', Header.IsLine line := by
      intro line there
      rcases List.mem_cons.mp there with rfl | there
      · exact plain _ List.mem_cons_self
      · exact plain' line there
    refine Option.ext fun head ↦ ?_
    rw [read?_block_iff whole, read?_block_iff plain, IsHead, IsHead, same.declares, same.closes]

/-- A head with two lengths of which the first counts, with names in mixed case and a line whose
name is nearly that of the length; and the same with lines of other names moved and names in lower
case. -/
theorem read_mixed_case :
    let first := utf8 "POST /payments?q HTTP/1.1"
    let lines := [utf8 "Content-Length : 9", utf8 "CONTENT-length:\t2", utf8 "Content-Length: 7",
      utf8 "Connection: Keep-Alive, CLOSE"]
    let lines' := [utf8 "content-length:\t2", utf8 "Host: x", utf8 "content-length: 7",
      utf8 "connection: Keep-Alive, CLOSE", utf8 "Content-Length : 9"]
    (∀ line ∈ first :: lines, Header.IsLine line) ∧ Header.SaySame lines lines' ∧
      read? (Header.block (first :: lines)) = some ⟨"POST", "/payments?q", some 2, true⟩ ∧
      read? (Header.block (first :: lines')) = some ⟨"POST", "/payments?q", some 2, true⟩ := by
  intro first lines lines'
  have plain : ∀ line ∈ first :: lines, Header.IsLine line := by decide +kernel
  have same : Header.SaySame lines lines' := by
    have matter : lines.filter (Header.Matters ·) = lines.drop 1 := by decide +kernel
    have matter' : lines'.filter (Header.Matters ·) = [lines'[0], lines'[2], lines'[3]] := by
      decide +kernel
    rw [Header.SaySame, matter, matter']
    refine .cons ⟨utf8 "CONTENT-length", utf8 "content-length", utf8 "\t2", ?_⟩
      (.cons ⟨utf8 "Content-Length", utf8 "content-length", utf8 " 7", ?_⟩
        (.cons ⟨utf8 "Connection", utf8 "connection", utf8 " Keep-Alive, CLOSE", ?_⟩ .nil)) <;>
      decide +kernel
  obtain ⟨-, reads, moved⟩ := read_by_grammar plain
  have read : read? (Header.block (first :: lines))
      = some ⟨"POST", "/payments?q", some 2, true⟩ := by
    exact (reads _).mpr ⟨⟨utf8 "HTTP/1.1", by decide +kernel⟩,
      Header.declares_iff.mpr (by decide +kernel), by decide +kernel⟩
  exact ⟨plain, same, read, (moved lines' (by decide +kernel) same).trans read⟩

end RequestHead

end PaymentRelay
