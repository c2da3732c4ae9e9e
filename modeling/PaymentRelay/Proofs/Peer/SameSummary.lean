import PaymentRelay.Gateway.Summaries
import PaymentRelay.Edge.Session
import PaymentRelay.Proofs.Http.Responses
import PaymentRelay.Proofs.Json.Written
import PaymentRelay.Proofs.Ledger.Records
import PaymentRelay.Proofs.Peer.Inquiry

/-!
# A summary survives the wire

The sibling's half of a merged summary is written by one instance and read by the other: counts and
amounts as an object of objects, behind a head that says how long it is. Every count and every
amount is read back as it was, the digits after the point included, and the head fits the buffer of
the reader, so nothing that the sibling can have counted is lost on the way. The one thing that is
lost is the minus sign of a zero.
-/

namespace PaymentRelay

namespace Tally

/-- The tally, an amount of zero without its minus sign. -/
def unsignedZero (t : Tally) : Tally := { t with amount := t.amount.unsignedZero }

theorem unsignedZero_eq_self_iff {t : Tally} :
    t.unsignedZero = t ↔ ¬ (t.amount.negative = true ∧ t.amount.magnitude = 0) := by
  rw [← Decimal.unsignedZero_eq_self_iff]
  constructor
  · intro same
    exact congrArg amount same
  · intro same
    rw [unsignedZero, same]

theorem write_eq (t : Tally) : t.write =
    Json.pair "totalRequests" (Numeral.ofNat t.requests) "totalAmount" t.amount.render := by
  have front : utf8 "\x7b\"totalRequests\":" = 0x7B :: (Json.quoted "totalRequests" ++ [0x3A]) := by
    decide
  have middle : utf8 ",\"totalAmount\":" = 0x2C :: (Json.quoted "totalAmount" ++ [0x3A]) := by
    decide
  have back : utf8 "\x7d" = [0x7D] := by decide
  rw [write, Json.pair, front, middle, back]
  simp only [List.cons_append, List.append_assoc, List.nil_append]

/-- **A tally is read back.** -/
theorem reader_write (t : Tally) (rest : Bytes) :
    reader (t.write ++ rest) = .ok (t.unsignedZero, rest) := by
  have found : reader (t.write ++ rest)
      = (Except.ok (upTo t.requests t.amount.unsignedZero)).map fun value ↦ (value, rest) := by
    rw [write_eq, reader, members]
    refine Json.record_pair (⟨some t.requests, none⟩ : Found)
      ⟨some t.requests, some t.amount.unsignedZero⟩ _ (by decide) (by decide)
      (by decide) rfl rfl ?_ ?_ rest
    · intro b rest after
      dsimp only
      rw [Json.count_written t.requests_lt rest after]
      rfl
    · intro b rest after
      dsimp only
      rw [Json.decimal_written t.amount rest after]
      rfl
  have same : upTo t.requests t.amount.unsignedZero = t.unsignedZero := t.unsignedZero.upTo_self
  rw [found, same]
  rfl

theorem length_write_le (t : Tally) : t.write.length ≤ 100 := by
  have count : (Numeral.ofNat t.requests).length ≤ 20 :=
    (Numeral.length_ofNat_le_iff (by decide)).mpr (Nat.lt_trans t.requests_lt (by decide))
  have amount := t.amount.length_render_le
  have names : (utf8 "\x7b\"totalRequests\":").length = 17 ∧
      (utf8 ",\"totalAmount\":").length = 15 ∧ (utf8 "\x7d").length = 1 := by decide
  simp only [write, List.length_append, names]
  omega

end Tally

namespace Summary

theorem write_eq (s : Summary) : s.write =
    Json.pair "default" s.main.write "fallback" s.fallback.write := by
  have front : utf8 "\x7b\"default\":" = 0x7B :: (Json.quoted "default" ++ [0x3A]) := by
    decide
  have middle : utf8 ",\"fallback\":" = 0x2C :: (Json.quoted "fallback" ++ [0x3A]) := by
    decide
  have back : utf8 "\x7d" = [0x7D] := by decide
  rw [write, Json.pair, front, middle, back]
  simp only [List.cons_append, List.append_assoc, List.nil_append]

/-- **A summary is read back.** -/
theorem read_write (s : Summary) : read s.write = .ok (s.map Tally.unsignedZero) := by
  have found : reader (s.write ++ [])
      = (Except.ok (s.map Tally.unsignedZero)).map fun value ↦ (value, []) := by
    rw [write_eq, reader, members]
    refine Json.record_pair (⟨some s.main.unsignedZero, none⟩ : Found)
      ⟨some s.main.unsignedZero, some s.fallback.unsignedZero⟩ _ (by decide)
      (by decide) (by decide) rfl rfl ?_ ?_ []
    · intro b rest _
      dsimp only
      rw [Tally.reader_write]
      rfl
    · intro b rest _
      dsimp only
      rw [Tally.reader_write]
      rfl
  rw [List.append_nil] at found
  rw [read, Json.readAll, found]
  rfl

theorem map_unsignedZero_eq_self_iff {s : Summary} : s.map Tally.unsignedZero = s ↔
    ∀ source, ¬ ((s.get source).amount.negative = true ∧ (s.get source).amount.magnitude = 0) := by
  simp only [← Tally.unsignedZero_eq_self_iff]
  constructor
  · intro same source
    rcases source
    · exact congrArg PerSource.main same
    · exact congrArg PerSource.fallback same
  · intro each
    have main : s.main.unsignedZero = s.main := each .main
    have fallback : s.fallback.unsignedZero = s.fallback := each .fallback
    rw [PerSource.map, main, fallback]

theorem length_write_le (s : Summary) : s.write.length ≤ 300 := by
  have main := s.main.length_write_le
  have fallback := s.fallback.length_write_le
  have names : (utf8 "\x7b\"default\":").length = 11 ∧
      (utf8 ",\"fallback\":").length = 12 ∧ (utf8 "\x7d").length = 1 := by decide
  simp only [write, List.length_append, names]
  omega

end Summary

namespace Peer

open Edge (Reply Session)

/-- The reply of an instance that is asked for its summary. -/
def reply (s : Summary) (keepAlive : Bool) : Reply := ⟨200, keepAlive, some s.write⟩

theorem length_head_reply_le (s : Summary) (keepAlive : Bool) :
    (Response.head 200 keepAlive (some "application/json") s.write.length).length
      ≤ responseTerms.capacity := by
  have short := s.length_write_le
  have type : (utf8 "application/json").length ≤ 16 := by decide
  have small : s.write.length < Numeral.limit64 := Nat.lt_of_le_of_lt short (by decide)
  exact Nat.le_trans (Response.length_head_le (by decide) small (by simpa using type)) (by decide)

theorem tells_reply (s : Summary) (keepAlive : Bool) (more : Bytes) :
    Tells ((reply s keepAlive).write ++ more) (s.map Tally.unsignedZero) := by
  have small : s.write.length < Numeral.limit64 :=
    Nat.lt_of_le_of_lt s.length_write_le (by decide)
  have type : Header.IsLine (utf8 "application/json") := by decide
  have whole : Exchange.Whole responseTerms.capacity
      (Response.write 200 keepAlive (some "application/json") s.write ++ more) 200 s.write :=
    Response.whole_write s.write more (by decide) (by decide) (by simpa using type) small
      (length_head_reply_le s keepAlive)
  exact ⟨s.write, whole, s.read_write⟩

/-- **A summary survives the wire.** An instance that is asked for its summary replies with status
200, keeping the connection or not, and the head of its reply fits the buffer of the sibling. If
what the sibling receives begins with that reply, in whatever pieces it comes, then the sibling
finds in it the very same counts and amounts, scales included. Only a zero with a minus sign has
lost that. -/
theorem summary_survives (s : Summary) (keepAlive : Bool) {events : List Inquiry.Event}
    {octets : Bytes} (came : Inquiry.reply? events = some octets)
    (starts : (reply s keepAlive).write <+: octets) :
    (∀ terms rest,
        (Session.answer terms (.summary keepAlive rest) (Gateway.tidings (.ok s))).2.head?
          = some (.respond (reply s keepAlive))) ∧
      (Response.head 200 keepAlive (some "application/json") s.write.length).length
        ≤ responseTerms.capacity ∧
      (Inquiry.asking.run events).result? = some (.ok (s.map Tally.unsignedZero)) ∧
      (s.map Tally.unsignedZero = s ↔ ∀ source,
        ¬ ((s.get source).amount.negative = true ∧ (s.get source).amount.magnitude = 0)) := by
  obtain ⟨more, rfl⟩ := starts
  refine ⟨fun terms rest ↦ rfl, length_head_reply_le s keepAlive, ?_,
    Summary.map_unsignedZero_eq_self_iff⟩
  exact (Inquiry.result?_run_asking events).mpr ⟨_, came, tells_reply s keepAlive more⟩

/-- The greatest count and an amount with a zero at its end arrive in three pieces. -/
theorem summary_survives_in_three_pieces :
    let s : Summary := ⟨.upTo (Numeral.limit64 - 1) ⟨false, 1990, 2, by decide, by decide⟩, .zero⟩
    let octets := (reply s false).write
    let events : List Inquiry.Event := [.sent none, .deliver (octets.take 10),
      .deliver ((octets.drop 10).take 100), .deliver (octets.drop 110), .hangUp]
    Inquiry.reply? events = some octets ∧
      (Inquiry.asking.run events).result? = some (.ok s) := by
  intro s octets events
  have came : Inquiry.reply? events = some octets := by
    have back : octets.drop 110 = (octets.drop 10).drop 100 := by rw [List.drop_drop]
    have pieces : octets.take 10 ++ ((octets.drop 10).take 100 ++ (octets.drop 110 ++ []))
        = octets := by
      rw [List.append_nil, back, List.take_append_drop, List.take_append_drop]
    exact congrArg some pieces
  obtain ⟨-, -, found, same⟩ := summary_survives s false came (List.prefix_refl _)
  refine ⟨came, ?_⟩
  rw [found, same.mpr (by rintro (_ | _) <;> decide)]

end Peer

end PaymentRelay
