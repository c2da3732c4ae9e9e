import PaymentRelay.Proofs.Http.Grammar

/-!
# The lines within a request line

The request line ends at the first carriage return and line feed. The lines that are searched for a
length and for a wish to close end at any line feed, and only the first of them is left out. So a
request line with a line feed in it counts as several lines, and all but the first of these are
searched like header lines, before those that come after it.

What a head says of its body and of its connection is what these lines say and then what the lines
after the request line say. Two request lines are therefore as good as each other exactly if the
lines within them say the same, and a request line has no say at all exactly if none of the lines
within it is of a name that matters. One without a line feed has none.
-/

namespace PaymentRelay

namespace Header

open Octet (cr lf)

/-- The lines that a first line holds besides the one that it begins with. -/
def inner (first : Bytes) : List Bytes := (Bytes.split lf first).drop 1

/-- What lines say of the length, if any of them is of that name. -/
def declared? (lines : List Bytes) : Option (Option Nat) :=
  (lines.findSome? (value? contentLengthName)).map fun value ↦
    Numeral.read? Numeral.limit64 (Bytes.trim value)

/-- One of the lines asks for the connection to be closed. -/
def Asks (lines : List Bytes) : Prop := ∃ line ∈ lines, Closes line

/-- The lines within a first line say nothing of the length and do not ask to close. -/
def Silent (first : Bytes) : Prop :=
  ∀ line ∈ inner first, ¬ Named contentLengthName line ∧ ¬ Closes line

instance : DecidablePred Asks := fun _ ↦ inferInstanceAs (Decidable (∃ _ ∈ _, _))

instance : DecidablePred Silent := fun _ ↦ inferInstanceAs (Decidable (∀ _ ∈ _, _))

variable {first : Bytes} {lines more : List Bytes}

/-! ## Lines at every line feed -/

theorem map_stripCr_splitFrom (word bs : Bytes) (whole : ¬ lineEnd <:+: word.reverse ++ bs) :
    (Bytes.splitFrom lf word (bs ++ [cr])).map Bytes.stripCr = Bytes.splitFrom lf word bs := by
  induction bs generalizing word with
  | nil =>
    have last : cr ≠ lf := by decide
    simp only [List.nil_append, Bytes.splitFrom, if_neg last, List.reverse_cons,
      List.map_singleton, stripCr_concat]
  | cons b bs ih =>
    rw [List.cons_append, Bytes.splitFrom, Bytes.splitFrom]
    split
    · next here =>
      -- a carriage return before this line feed would make a line end
      have kept : Bytes.stripCr word.reverse = word.reverse := by
        refine if_neg fun last ↦ whole ?_
        obtain ⟨front, cut⟩ := List.getLast?_eq_some_iff.mp last
        exact ⟨front, bs, by rw [cut, here]; simp [lineEnd, cr, lf]⟩
      have later : ¬ lineEnd <:+: bs := fun there ↦
        whole (there.trans ((List.suffix_cons b bs).trans (List.suffix_append _ _)).isInfix)
      rw [List.map_cons, kept, ih [] (by simpa using later)]
    · refine ih (b :: word) ?_
      rwa [List.reverse_cons, List.append_assoc, List.singleton_append]

/-- **A first line is several lines** if it has line feeds in it. -/
theorem lines_append (whole : ¬ lineEnd <:+: first) (rest : Bytes) :
    Header.lines (first ++ (lineEnd ++ rest))
      = inner first ++ (Bytes.split lf rest).map Bytes.stripCr := by
  have cut : first ++ (lineEnd ++ rest) = (first ++ [cr]) ++ lf :: rest := by
    simp [lineEnd, cr, lf]
  have front : (Bytes.split lf (first ++ [cr])).map Bytes.stripCr = Bytes.split lf first :=
    map_stripCr_splitFrom [] first whole
  obtain ⟨piece, pieces, some_⟩ := Bytes.splitFrom_eq_cons lf [] first
  rw [Header.lines, cut, Bytes.split_append_cons, List.map_drop, List.map_append, front, inner,
    Bytes.split, some_]
  rfl

theorem lines_append_lineEnd (whole : ¬ lineEnd <:+: first) (rest : Bytes) :
    Header.lines (first ++ (lineEnd ++ rest)) = inner first ++ Header.lines (lineEnd ++ rest) := by
  have nothing : ¬ lineEnd <:+: ([] : Bytes) := by decide
  have alone : Header.lines (lineEnd ++ rest) = (Bytes.split lf rest).map Bytes.stripCr :=
    lines_append nothing rest
  rw [lines_append whole, alone]

/-! ## What lines say -/

theorem declares_iff_declared? {length : Option Nat} :
    Declares lines length ↔ (declared? lines).join = length := by
  rw [declares_iff, declared?, ← Option.bind_id_eq_join, Option.bind_map, Function.id_comp]

theorem declared?_append : declared? (lines ++ more) = (declared? lines).or (declared? more) := by
  rw [declared?, List.findSome?_append, Option.map_or]
  rfl

theorem declared?_eq_none_iff :
    declared? lines = none ↔ ∀ line ∈ lines, ¬ Named contentLengthName line := by
  rw [declared?, Option.map_eq_none_iff, List.findSome?_eq_none_iff]
  refine forall₂_congr fun line _ ↦ ?_
  by_cases named : Named contentLengthName line
  · simp [value?_of_named named, named]
  · simp [value?_of_not_named named, named]

theorem asks_append : Asks (lines ++ more) ↔ Asks lines ∨ Asks more := by
  simp only [Asks, List.mem_append, or_and_right, exists_or]

theorem silent_iff : Silent first ↔ declared? (inner first) = none ∧ ¬ Asks (inner first) := by
  rw [declared?_eq_none_iff, Asks, not_exists]
  simp only [Silent, not_and, ← forall_and]

theorem silent_of_not_mem (plain : lf ∉ first) : Silent first := by
  intro line there
  rw [inner, Bytes.split_of_not_mem plain] at there
  cases there

/-! ## What differs shows -/

theorem silent_rest :
    declared? (Header.lines (lineEnd ++ [])) = none ∧ ¬ Asks (Header.lines (lineEnd ++ [])) := by
  decide +kernel

theorem exists_rest (told : Option Nat) :
    ∃ rest length, declared? (Header.lines (lineEnd ++ rest)) = some length ∧ length ≠ told := by
  by_cases zero : told = some 0
  · refine ⟨utf8 "content-length:1", some 1, by decide +kernel, ?_⟩
    rw [zero]
    decide
  · exact ⟨utf8 "content-length:0", some 0, by decide +kernel, Ne.symm zero⟩

/-- What comes first is told by what follows from it, whatever comes after. -/
theorem forall_or_declared?_iff {told told' : Option (Option Nat)} :
    (∀ rest, (told.or (declared? (Header.lines (lineEnd ++ rest)))).join
      = (told'.or (declared? (Header.lines (lineEnd ++ rest)))).join) ↔ told = told' := by
  constructor
  · intro same
    rcases told with _ | told <;> rcases told' with _ | told'
    · rfl
    · obtain ⟨rest, length, declared, other⟩ := exists_rest told'
      have here := same rest
      rw [declared] at here
      exact absurd here other
    · obtain ⟨rest, length, declared, other⟩ := exists_rest told
      have here := same rest
      rw [declared] at here
      exact absurd here.symm other
    · exact congrArg some (same [])
  · rintro rfl rest
    rfl

end Header

namespace RequestHead

open Octet (lf)
open Header (lineEnd inner declared? Asks Silent)

variable {first first' : Bytes} {method method' target target' : String} {head : RequestHead}

theorem findFrom_lineEnd (i : Nat) (whole : ¬ lineEnd <:+: first) (rest : Bytes) :
    Bytes.findFrom lineEnd i (first ++ (lineEnd ++ rest)) = some (i + first.length) := by
  induction first generalizing i with
  | nil => exact if_pos (List.isPrefixOf_iff_prefix.mpr (List.prefix_append _ _))
  | cons b bs ih =>
    have missed : ¬ lineEnd.isPrefixOf (b :: (bs ++ (lineEnd ++ rest))) = true := by
      rw [List.isPrefixOf_iff_prefix]
      intro here
      rcases bs with _ | ⟨c, cs⟩
      · simp [lineEnd] at here
      · have within : lineEnd <+: b :: c :: cs :=
          List.prefix_of_prefix_length_le here (List.prefix_append (b :: c :: cs) _)
            (by simp [lineEnd])
        exact whole within.isInfix
    have later : ¬ lineEnd <:+: bs := fun there ↦
      whole (there.trans (List.suffix_cons b bs).isInfix)
    rw [List.cons_append, Bytes.findFrom, if_neg missed, ih _ later, List.length_cons]
    congr 1
    omega

theorem firstLine_append (whole : ¬ lineEnd <:+: first) (rest : Bytes) :
    firstLine (first ++ (lineEnd ++ rest)) = first := by
  have found : Bytes.find? (first ++ (lineEnd ++ rest)) lineEnd = some first.length := by
    rw [Bytes.find?, if_neg (by decide), findFrom_lineEnd 0 whole, Nat.zero_add]
  rw [firstLine, found]
  exact List.take_left

/-- **A block is read by its grammar**, but with the lines within its first line in front of the
others. -/
theorem read?_append_iff (whole : ¬ lineEnd <:+: first) (rest : Bytes) :
    read? (first ++ (lineEnd ++ rest)) = some head ↔
      IsHead first (inner first ++ Header.lines (lineEnd ++ rest)) head := by
  rw [read?_eq_some_iff_isHead, firstLine_append whole, Header.lines_append_lineEnd whole]

theorem exists_read?_append (line : IsRequestLine first method target)
    (whole : ¬ lineEnd <:+: first) (rest : Bytes) :
    ∃ head, read? (first ++ (lineEnd ++ rest)) = some head := by
  rw [exists_read?_iff, firstLine_append whole]
  exact ⟨method, target, line⟩

theorem contentLength_of_read? (whole : ¬ lineEnd <:+: first) {rest : Bytes}
    (read : read? (first ++ (lineEnd ++ rest)) = some head) : head.contentLength
      = ((declared? (inner first)).or (declared? (Header.lines (lineEnd ++ rest)))).join := by
  obtain ⟨-, declares, -⟩ := (read?_append_iff whole rest).mp read
  rw [Header.declares_iff_declared?, Header.declared?_append] at declares
  exact declares.symm

theorem close_of_read? (whole : ¬ lineEnd <:+: first) {rest : Bytes}
    (read : read? (first ++ (lineEnd ++ rest)) = some head) :
    head.close = true ↔ Asks (inner first) ∨ Asks (Header.lines (lineEnd ++ rest)) := by
  obtain ⟨-, -, closes⟩ := (read?_append_iff whole rest).mp read
  exact closes.trans Header.asks_append

/-- Two first lines make no difference, whatever comes after them. -/
def Agree (first first' : Bytes) : Prop :=
  ∀ rest head head', read? (first ++ (lineEnd ++ rest)) = some head →
    read? (first' ++ (lineEnd ++ rest)) = some head' →
      head.contentLength = head'.contentLength ∧ head.close = head'.close

/-- A first line makes no difference: what is read is what the lines after it say. -/
def Unheard (first : Bytes) : Prop :=
  ∀ rest head, read? (first ++ (lineEnd ++ rest)) = some head →
    head.contentLength = Header.contentLength? (lineEnd ++ rest) ∧
      head.close = Header.wantsClose (lineEnd ++ rest)

theorem agree_iff (line : IsRequestLine first method target)
    (line' : IsRequestLine first' method' target') (whole : ¬ lineEnd <:+: first)
    (whole' : ¬ lineEnd <:+: first') :
    Agree first first' ↔ declared? (inner first) = declared? (inner first') ∧
      (Asks (inner first) ↔ Asks (inner first')) := by
  constructor
  · intro agree
    constructor
    · rw [← Header.forall_or_declared?_iff]
      intro rest
      obtain ⟨head, read⟩ := exists_read?_append line whole rest
      obtain ⟨head', read'⟩ := exists_read?_append line' whole' rest
      rw [← contentLength_of_read? whole read, ← contentLength_of_read? whole' read']
      exact (agree rest head head' read read').1
    · obtain ⟨head, read⟩ := exists_read?_append line whole []
      obtain ⟨head', read'⟩ := exists_read?_append line' whole' []
      have asks := close_of_read? whole read
      have asks' := close_of_read? whole' read'
      rw [or_iff_left Header.silent_rest.2] at asks asks'
      rw [← asks, ← asks', (agree [] head head' read read').2]
  · rintro ⟨told, asks⟩ rest head head' read read'
    constructor
    · rw [contentLength_of_read? whole read, contentLength_of_read? whole' read', told]
    · rw [Bool.eq_iff_iff, close_of_read? whole read, close_of_read? whole' read', asks]

theorem unheard_iff (line : IsRequestLine first method target) (whole : ¬ lineEnd <:+: first) :
    Unheard first ↔ Silent first := by
  have after (rest : Bytes) : Header.contentLength? (lineEnd ++ rest)
      = ((none : Option (Option Nat)).or (declared? (Header.lines (lineEnd ++ rest)))).join :=
    Header.contentLength?_eq_iff.mpr (Header.declares_iff_declared?.mpr (by rw [Option.none_or]))
  rw [Header.silent_iff]
  constructor
  · intro unheard
    constructor
    · rw [← Header.forall_or_declared?_iff]
      intro rest
      obtain ⟨head, read⟩ := exists_read?_append line whole rest
      rw [← contentLength_of_read? whole read, ← after]
      exact (unheard rest head read).1
    · intro asks
      obtain ⟨head, read⟩ := exists_read?_append line whole []
      have close := (close_of_read? whole read).mpr (.inl asks)
      rw [(unheard [] head read).2, Header.wantsClose_iff] at close
      exact Header.silent_rest.2 close
  · rintro ⟨told, asks⟩ rest head read
    constructor
    · rw [contentLength_of_read? whole read, told, after]
    · rw [Bool.eq_iff_iff, close_of_read? whole read, or_iff_right asks, Header.wantsClose_iff]
      rfl

/-- **What a request line may hold.** Two request lines with the same octets after them always lead
to the same length and the same wish to close exactly if the lines within them say the same of both.
A request line leaves both to what comes after it exactly if the lines within it say nothing, as in
one without a line feed, which has no lines within it. -/
theorem request_lines_agree_iff (line : IsRequestLine first method target)
    (line' : IsRequestLine first' method' target') (whole : ¬ lineEnd <:+: first)
    (whole' : ¬ lineEnd <:+: first') :
    (Agree first first' ↔ declared? (inner first) = declared? (inner first') ∧
        (Asks (inner first) ↔ Asks (inner first'))) ∧
      (Unheard first ↔ Silent first) ∧ (lf ∉ first → Silent first) :=
  ⟨agree_iff line line' whole whole', unheard_iff line whole, Header.silent_of_not_mem⟩

/-- A target that looks like a header line, and one with a line feed in it, after which nothing that
matters stands. -/
theorem request_lines_agree_harmless :
    let first := utf8 "GET /content-length:5 HTTP/1.1"
    let first' := utf8 "GET /\nconnection;close\rcontent-length:5 HTTP/1.1"
    IsRequestLine first "GET" "/content-length:5" ∧
      IsRequestLine first' "GET" "/\nconnection;close\rcontent-length:5" ∧
      ¬ lineEnd <:+: first ∧ ¬ lineEnd <:+: first' ∧
      Agree first first' ∧ Unheard first ∧ Unheard first' := by
  intro first first'
  have line : IsRequestLine first "GET" "/content-length:5" :=
    ⟨utf8 "HTTP/1.1", by decide +kernel⟩
  have line' : IsRequestLine first' "GET" "/\nconnection;close\rcontent-length:5" :=
    ⟨utf8 "HTTP/1.1", by decide +kernel⟩
  have whole : ¬ lineEnd <:+: first := by decide +kernel
  have whole' : ¬ lineEnd <:+: first' := by decide +kernel
  obtain ⟨agree, unheard, silent⟩ := request_lines_agree_iff line line' whole whole'
  obtain ⟨-, unheard', -⟩ := request_lines_agree_iff line' line whole' whole
  exact ⟨line, line', whole, whole', agree.mpr (by decide +kernel),
    unheard.mpr (silent (by decide +kernel)), unheard'.mpr (by decide +kernel)⟩

/-- **A target can declare a length** and ask for the connection to be closed. Of these two request
lines, with the same header after them, one does. -/
theorem target_acts_as_header :
    let first := utf8 "GET / HTTP/1.1"
    let first' := utf8 "GET /\ncontent-length:5\nconnection:close\n HTTP/1.1"
    let rest := utf8 "Host: x"
    ¬ lineEnd <:+: first ∧ ¬ lineEnd <:+: first' ∧
      read? (first ++ (lineEnd ++ rest)) = some ⟨"GET", "/", none, false⟩ ∧
      read? (first' ++ (lineEnd ++ rest))
        = some ⟨"GET", "/\ncontent-length:5\nconnection:close\n", some 5, true⟩ ∧
      ¬ Agree first first' := by
  intro first first' rest
  have whole : ¬ lineEnd <:+: first := by decide +kernel
  have whole' : ¬ lineEnd <:+: first' := by decide +kernel
  have read : read? (first ++ (lineEnd ++ rest)) = some ⟨"GET", "/", none, false⟩ := by
    refine (read?_append_iff whole rest).mpr ⟨⟨utf8 "HTTP/1.1", by decide +kernel⟩, ?_⟩
    exact ⟨Header.declares_iff.mpr (by decide +kernel), by decide +kernel⟩
  have read' : read? (first' ++ (lineEnd ++ rest))
      = some ⟨"GET", "/\ncontent-length:5\nconnection:close\n", some 5, true⟩ := by
    refine (read?_append_iff whole' rest).mpr ⟨⟨utf8 "HTTP/1.1", by decide +kernel⟩, ?_⟩
    exact ⟨Header.declares_iff.mpr (by decide +kernel), by decide +kernel⟩
  refine ⟨whole, whole', read, read', fun agree ↦ ?_⟩
  exact absurd (agree rest _ _ read read').2 (by decide)

end RequestHead

end PaymentRelay
