import PaymentRelay.Bytes.Basic

/-!
# A stream as a list of reads

What a socket delivers arrives in pieces, and where the pieces end is an accident of the network.
A stream is therefore the list of its pieces; after the last comes the end of the stream. One read
takes octets of one piece only, never more than it asks for, and leaves the rest of that piece for
the next read. Empty pieces are nothing at all and are passed over.

`Reads.flat` forgets the cuts. What a reader makes of a stream should depend on that alone.
-/

namespace PaymentRelay

/-- The pieces in which a stream arrives, before its end. -/
abbrev Reads := List Bytes

namespace Reads

/-- The octets of the stream, without the cuts. -/
def flat (rs : Reads) : Bytes := rs.flatten

/-- Reads at most `room` octets: those of the first piece, or nothing at the end of the stream or
where there is no room. -/
def read (room : Nat) : Reads → Bytes × Reads
  | [] => ([], [])
  | piece :: rest =>
    if room = 0 then ([], piece :: rest)
    else if piece.isEmpty then read room rest
    else
      let left := piece.drop room
      (piece.take room, if left.isEmpty then rest else left :: rest)

theorem read_append_flat (room : Nat) (rs : Reads) :
    (rs.read room).1 ++ (rs.read room).2.flat = rs.flat := by
  induction rs with
  | nil => simp [read, flat]
  | cons piece rest ih =>
    unfold read
    split
    · simp [flat]
    split
    · next h => rw [ih]; simp_all [flat]
    have cut : piece.take room ++ piece.drop room = piece := List.take_append_drop room piece
    simp only [flat, List.flatten_cons]
    split
    · next h =>
      rw [List.isEmpty_iff.mp h, List.append_nil] at cut
      rw [cut]
    · rw [List.flatten_cons, ← List.append_assoc, cut]

theorem read_shortens {room : Nat} {rs rest : Reads} {b : UInt8} {bs : Bytes}
    (h : rs.read room = (b :: bs, rest)) : rest.flat.length < rs.flat.length := by
  rw [← read_append_flat room rs, h]
  simp only [List.cons_append, List.length_cons, List.length_append]
  omega

end Reads

end PaymentRelay
