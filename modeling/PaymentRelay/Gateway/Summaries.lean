import PaymentRelay.Gateway.Step
import PaymentRelay.Peer.Client

/-!
# Summaries of the gateway

A summary is of this gateway's ledger alone, or of this one's and the sibling's together. A sibling
that asks wants nothing recorded while it adds up, so being asked holds main to be down until it
recovers. The public's question does the opposite: before and after it main is held to be up, so
that a question never leaves payments waiting.

The local half of a merged summary is taken before the sibling is asked. If the sibling's half
cannot be had there is no merged summary: half a total is not passed off as the whole.
-/

namespace PaymentRelay.Gateway

variable {α : Type}

/-- The summary of this gateway's ledger, in whole milliseconds. -/
def localSummary (g : Gateway α) (w : Window) : Summary :=
  g.ledger.summary w.start.toMillis w.stop.toMillis

/-- The sibling asks: main goes down. -/
def lockSummary [Parcel α] (g : Gateway α) (w : Window) (now : Ticks) : Gateway α × Summary :=
  ((g.step (.markDown .main now)).1, g.localSummary w)

/-- The public asks: main goes up, and the local half is taken. -/
def beginMerged [Parcel α] (g : Gateway α) (w : Window) : Gateway α × Summary :=
  let g := (g.step (.markUp .main)).1
  (g, g.localSummary w)

/-- The halves of a merged summary together, where there is a sibling. -/
def mergeHalves (localHalf : Summary) :
    Option (Except PeerFault Summary) → Except PeerFault Summary
  | none => .ok localHalf
  | some remote => remote.map localHalf.merge

/-- The sibling has answered, or there is none: main goes up once more, and the halves are put
together. -/
def endMerged [Parcel α] (g : Gateway α) (localHalf : Summary)
    (remote : Option (Except PeerFault Summary)) : Gateway α × Except PeerFault Summary :=
  ((g.step (.markUp .main)).1, mergeHalves localHalf remote)

/-- What a session is told of a merged summary: its JSON text, or why there is none. -/
def tidings (result : Except PeerFault Summary) : Except RequestFault Bytes :=
  (result.map Summary.write).mapError .peer

end PaymentRelay.Gateway
