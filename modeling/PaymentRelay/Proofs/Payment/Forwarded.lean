import PaymentRelay.Payment.Payload
import PaymentRelay.Proofs.Json.Fields
import PaymentRelay.Proofs.Time.Stamps

/-!
# Payments that are passed on

The body that a processor gets is put together without escaping. What makes this sound is decided
elsewhere, where payloads are read: an identifier that has a quote, a backslash or a control in it
is refused there. So the identifier of an accepted payment ends at the quote that is written after
it and nowhere before, whatever the payload escaped and whatever else stands in it, and the body has
the three members that it is meant to have. Its amount is written with the scale that it came with,
and it has no minus sign that could be lost; so the body is itself a payload, of the same payment.
-/

namespace PaymentRelay

open Json (IsPlain IsValue Follows quoted)

/-! ## Identifiers, amounts and instants -/

theorem Payload.isPlain_of_any_eq_false {id : String} (h : id.toList.any mustBeEscaped = false) :
    IsPlain id := by
  intro b there
  obtain ⟨c, mem, octet⟩ := List.mem_flatMap.mp there
  have free : mustBeEscaped c = false := by
    simpa using List.any_eq_false.mp h c mem
  simp only [mustBeEscaped, Bool.or_eq_false_iff, beq_eq_false_iff_ne, decide_eq_false_iff_not]
    at free
  obtain ⟨⟨⟨noQuote, noEscape⟩, noControl⟩, -⟩ := free
  -- an octet of another character is no ASCII octet, so it is none of these
  have number (ascii : b < 0x80) : c = Char.ofNat b.toNat := by
    rw [← toNat_of_mem_encodeChar octet ascii, Char.ofNat_toNat]
  refine ⟨?_, ?_, ?_⟩
  · rintro rfl
    exact noQuote (number (by decide))
  · rintro rfl
    exact noEscape (number (by decide))
  · intro control
    have ascii : b < 0x80 := UInt8.lt_trans control (by decide)
    rw [toNat_of_mem_encodeChar octet ascii] at noControl
    exact noControl (UInt8.lt_iff_toNat_lt.mp control)

theorem Decimal.isAscii_render (d : Decimal) : d.render.IsAscii := by
  have digit {b : UInt8} (h : Octet.isDigit b = true) : b < 0x80 := by
    simp only [Octet.isDigit, Bool.and_eq_true, decide_eq_true_eq] at h
    exact UInt8.lt_of_le_of_lt h.2 (by decide)
  have whole : d.whole.IsAscii := fun b there ↦ digit (isDigit_of_mem_whole there)
  have fraction : d.fraction.IsAscii := fun b there ↦ digit (isDigit_of_mem_fraction there)
  have sign : d.sign.IsAscii := by
    rw [Decimal.sign]
    split <;> simp
  have tail : d.tail.IsAscii := by
    rw [Decimal.tail]
    split
    · exact Bytes.isAscii_nil
    · exact Bytes.isAscii_cons.mpr ⟨by decide, fraction⟩
  rw [render_eq]
  exact Bytes.isAscii_append.mpr ⟨sign, Bytes.isAscii_append.mpr ⟨whole, tail⟩⟩

/-- The text of an instant, to the millisecond. -/
def Instant.stamp (instant : Instant) : String := (Rfc3339.writeMillis instant).toText

theorem Instant.utf8_stamp (instant : Instant) :
    utf8 instant.stamp = Rfc3339.writeMillis instant :=
  (Rfc3339.isAscii_writeMillis instant).utf8_toText

theorem Instant.isPlain_stamp (instant : Instant) : IsPlain instant.stamp := by
  intro b there
  rw [instant.utf8_stamp] at there
  obtain ⟨above, below⟩ := Rfc3339.between_of_mem_writeMillis instant b there
  refine ⟨(UInt8.ne_of_lt above).symm, UInt8.ne_of_lt below, ?_⟩
  exact UInt8.lt_asymm (UInt8.lt_trans (by decide) above)

/-! ## The body as an object -/

namespace Payment

variable {p : Payment} (instant : Instant)

/-- What the body of a request says: the identifier, the amount and the instant, under their
names. -/
def forwarded (p : Payment) (instant : Instant) : List (String × Bytes) :=
  [("correlationId", quoted p.correlationId), ("amount", p.amount.render),
    ("requestedAt", quoted instant.stamp)]

theorem bodyAt_eq (p : Payment) : p.bodyAt instant = Json.object (p.forwarded instant) := by
  have front : utf8 "\x7b\"correlationId\":\"" =
      0x7B :: (quoted "correlationId" ++ [0x3A, 0x22]) := by decide
  have middle : utf8 "\",\"amount\":" = 0x22 :: 0x2C :: (quoted "amount" ++ [0x3A]) := by decide
  have back : utf8 ",\"requestedAt\":\"" = 0x2C :: (quoted "requestedAt" ++ [0x3A, 0x22]) := by
    decide
  have last : utf8 "\"\x7d" = [0x22, 0x7D] := by decide
  rw [bodyAt, front, middle, back, last]
  simp [Json.object, forwarded, Json.closing, Json.separator, quoted, instant.utf8_stamp]

/-- The body of a request as a text. -/
def textAt (p : Payment) (instant : Instant) : String :=
  "\x7b\"correlationId\":\"" ++ p.correlationId ++ "\",\"amount\":" ++ p.amount.render.toText ++
    ",\"requestedAt\":\"" ++ instant.stamp ++ "\"\x7d"

theorem utf8_textAt (p : Payment) : utf8 (p.textAt instant) = p.bodyAt instant := by
  -- stated for any texts, so that no two literals are compared
  have parts (a b c d e f g : String) {ds fs : Bytes} (amount : utf8 d = ds) (stamp : utf8 f = fs) :
      utf8 (a ++ b ++ c ++ d ++ e ++ f ++ g)
        = utf8 a ++ utf8 b ++ utf8 c ++ ds ++ utf8 e ++ fs ++ utf8 g := by
    simp only [utf8_append, amount, stamp]
  exact parts _ _ _ _ _ _ _ p.amount.isAscii_render.utf8_toText instant.utf8_stamp

theorem plain_forwarded (plain : IsPlain p.correlationId) :
    ∀ m ∈ p.forwarded instant, IsPlain m.1 ∧ IsValue m.2 := by
  have first : IsPlain "correlationId" := by decide
  have second : IsPlain "amount" := by decide
  have third : IsPlain "requestedAt" := by decide
  simp only [forwarded, List.forall_mem_cons]
  exact ⟨⟨first, Json.isValue_quoted plain⟩, ⟨second, Json.isValue_render _⟩,
    ⟨third, Json.isValue_quoted instant.isPlain_stamp⟩, List.forall_mem_nil _⟩

end Payment

/-! ## Reading the body -/

namespace Json

variable {α : Type} {reader : Reader α}

theorem optional_of_starts {c : UInt8} {bs rest : Bytes} {value : α} (solid : isSpace c = false)
    (present : c ≠ 0x6E) (reads : reader (c :: bs) = .ok (value, rest)) :
    optional reader (c :: bs) = .ok (some value, rest) := by
  have front : skipSpace (c :: bs) = c :: bs := List.dropWhile_cons_of_neg (by simp [solid])
  rw [optional, front]
  split
  · next absent =>
    rw [List.cons.injEq] at absent
    exact absurd absent.1 present
  · rw [reads]
    rfl

theorem optional_text_quoted {name : String} (plain : IsPlain name) (rest : Bytes) :
    optional text (quoted name ++ rest) = .ok (some name, rest) :=
  optional_of_starts (by decide) (by decide) (text_quoted plain rest)

theorem optional_decimal_render {b : UInt8} (d : Decimal) (rest : Bytes) (after : Follows b) :
    optional decimal (d.render ++ b :: rest) = .ok (some d.unsignedZero, b :: rest) := by
  obtain ⟨c, cs, same, starts⟩ := exists_render_append d (b :: rest)
  have reads := decimal_written d rest after
  rw [same] at reads ⊢
  refine optional_of_starts (Number.not_isSpace_of_starts starts) ?_ reads
  rintro rfl
  cases starts

end Json

namespace Payload

variable {p : Payment} (instant : Instant)

theorem read_correlationId {found : Found} {id : String} (plain : IsPlain id) (rest : Bytes) :
    (members[0]).read found (quoted id ++ rest)
      = .ok ({ found with correlationId := some (some id) }, rest) := by
  change (Json.optional Json.text (quoted id ++ rest)).map _ = _
  rw [Json.optional_text_quoted plain]
  rfl

/-- The amount of a payload is read, a zero without its minus sign. -/
theorem read_amount {found : Found} {b : UInt8} (d : Decimal) (rest : Bytes) (after : Follows b) :
    (members[1]).read found (d.render ++ b :: rest)
      = .ok ({ found with amount := some (some d.unsignedZero) }, b :: rest) := by
  change (Json.optional Json.decimal (d.render ++ b :: rest)).map _ = _
  rw [Json.optional_decimal_render d rest after]
  rfl

theorem record_forwarded (plain : IsPlain p.correlationId) :
    record (Json.object (p.forwarded instant))
      = .ok ((some p.correlationId, some p.amount.unsignedZero), []) := by
  let both : Found := ⟨some (some p.correlationId), some (some p.amount.unsignedZero)⟩
  have gathers : Json.Gathers members {} (p.forwarded instant) both := by
    refine .read (by decide) rfl rfl (fun b rest _ ↦ read_correlationId plain (b :: rest)) ?_
    refine .read (by decide) rfl rfl (fun b rest after ↦ read_amount p.amount rest after) ?_
    exact .pass (by decide) rfl (Json.isValue_quoted instant.isPlain_stamp) (.done both)
  have found := Json.record_object gathers
    (fun found ↦ .ok (found.correlationId.join, found.amount.join)) []
  rw [List.append_nil] at found
  exact found

theorem unsignedZero_of_read {payload : String} (accepted : read payload = .ok p) :
    p.amount.unsignedZero = p.amount := by
  obtain ⟨-, -, positive, -⟩ := read_eq_ok_iff.mp accepted
  refine Decimal.unsignedZero_eq_self_iff.mpr ?_
  rintro ⟨negative, -⟩
  exact Bool.false_ne_true (positive.symm.trans negative)

/-- **A payment is passed on as it was accepted.** The body that is written for it, whatever was in
the buffer before, is the text of an object that has the three members and no others, each once and
with its own value; and that text is itself a payload of this payment. -/
theorem forwarded_as_accepted {payload : String} (accepted : read payload = .ok p)
    (instant : Instant) (buffer : Buffer) :
    ∃ text : String, (p.writeBody instant buffer).contents = utf8 text ∧
      Json.readAll Json.fields (utf8 text) = .ok [("correlationId", quoted p.correlationId),
        ("amount", p.amount.render), ("requestedAt", quoted instant.stamp)] ∧
      read text = .ok p := by
  obtain ⟨-, free, bounds⟩ := read_eq_ok_iff.mp accepted
  have plain := isPlain_of_any_eq_false free
  have written : utf8 (p.textAt instant) = Json.object (p.forwarded instant) := by
    rw [p.utf8_textAt, p.bodyAt_eq]
  have fields := Json.fields_object (p.plain_forwarded instant plain) []
  have record := record_forwarded instant plain
  rw [List.append_nil] at fields
  rw [unsignedZero_of_read accepted] at record
  refine ⟨p.textAt instant, ?_, ?_, read_eq_ok_iff.mpr ⟨?_, free, bounds⟩⟩
  · rw [p.utf8_textAt]
    rfl
  · rw [Json.readAll, written, fields]
    rfl
  · rw [Json.readAll, written, record]
    rfl

/-- An identifier that was escaped and looks like the end of an object, in a payload that has
another member and gives its amount as a text: it goes on without its escapes, and stays the
identifier. -/
theorem misleading_payment_forwarded :
    let payload := "\x7b\"amount\":\"1.50e1\",\"x\":[1,\x7b\"y\":null\x7d]," ++
      "\"correlationId\":\"\\u00e9\\u2028\\ud83d\\ude00\x7d,:[]\"\x7d"
    let p : Payment := ⟨"é\u2028😀\x7d,:[]", ⟨false, 150, 1, by decide, by decide⟩⟩
    let buffer : Buffer := ⟨utf8 "\x7b\"amount\":9", 256⟩
    read payload = .ok p ∧
      ∃ text : String, (p.writeBody ⟨951782400, 0⟩ buffer).contents = utf8 text ∧
        Json.readAll Json.fields (utf8 text) = .ok [("correlationId", quoted p.correlationId),
          ("amount", utf8 "15.0"), ("requestedAt", utf8 "\"2000-02-29T00:00:00.000Z\"")] ∧
        read text = .ok p := by
  intro payload p buffer
  have accepted : read payload = .ok p := by decide +kernel
  have amount : p.amount.render = utf8 "15.0" := by decide +kernel
  have instant : quoted (Instant.stamp ⟨951782400, 0⟩) = utf8 "\"2000-02-29T00:00:00.000Z\"" := by
    decide +kernel
  have forwarded := forwarded_as_accepted accepted ⟨951782400, 0⟩ buffer
  rw [amount, instant] at forwarded
  exact ⟨accepted, forwarded⟩

end Payload

end PaymentRelay
