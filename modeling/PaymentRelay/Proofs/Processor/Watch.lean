import PaymentRelay.Proofs.Http.Framed
import PaymentRelay.Proofs.Processor.Links

/-!
# Watching a processor's connections

The calls to a processor, and beside them an onlooker who writes down what has arrived on each
connection and where each call has posted its request. The onlooker changes nothing.

The processor answers each request that it has received on a connection with one response, in order,
and writes nothing else: what it writes on a connection is a `Script`, and at any time no more of
the script has arrived than there were requests. It may write its responses in any pieces, at any
time, and it may hang up. Which response it gives to which request is its own affair, so the script
is arbitrary.
-/

namespace PaymentRelay.Processor

open Exchange (statusOf?)

/-- The responses of a processor, by connection and by the number of the request there. -/
abbrev Script := Nat → Nat → Bytes

namespace Script

/-- The first `n` responses on a connection. -/
def upTo (script : Script) (i n : Nat) : Bytes := (List.range n).flatMap (script i)

theorem upTo_succ (script : Script) (i n : Nat) :
    script.upTo i (n + 1) = script.upTo i n ++ script i n := by
  rw [upTo, List.range_succ, List.flatMap_append, List.flatMap_singleton]
  rfl

theorem upTo_prefix (script : Script) (i : Nat) {m n : Nat} (h : m ≤ n) :
    script.upTo i m <+: script.upTo i n := by
  induction n with
  | zero =>
    rewrite [Nat.le_zero.mp h]
    exact List.prefix_refl _
  | succ n ih =>
    rcases Nat.lt_or_eq_of_le h with less | rfl
    · rw [upTo_succ]
      exact (ih (Nat.le_of_lt_succ less)).trans (List.prefix_append _ _)
    · exact List.prefix_refl _

end Script

/-- The calls to a processor and its connections, and what an onlooker has written down. -/
structure Watched where
  client : Client
  /-- What has arrived on a connection. -/
  arrived : Nat → Bytes
  /-- Where a call has posted its request: on which connection, after how many others. -/
  posted : Nat → Option (Nat × Nat)

/-- A connection on which something may still arrive. -/
def Client.hears (c : Client) (i : Nat) : Bool := (c.links[i]?).any (·.ending.isNone)

/-- Where a call would post its request now. -/
def Client.place? (c : Client) (a : Nat) : Option (Nat × Nat) :=
  match c.calls[a]? with
  | some ⟨_, _, .leased i⟩ => (c.links[i]?).map fun l ↦ (i, l.sent.length)
  | _ => none

namespace Watched

def new (terms : Terms) (size : Nat) : Watched := ⟨.new terms size, fun _ ↦ [], fun _ ↦ none⟩

/-- What has arrived after a step. -/
def hear (w : Watched) : Client.Event → Nat → Bytes
  | .deliver i octets => fun j ↦
    if j = i ∧ w.client.hears i then w.arrived j ++ octets else w.arrived j
  | _ => w.arrived

/-- Where requests have been posted after a step. -/
def post (w : Watched) : Client.Event → Nat → Option (Nat × Nat)
  | .write a none => fun b ↦ if b = a then w.client.place? a <|> w.posted b else w.posted b
  | _ => w.posted

def step (w : Watched) (event : Client.Event) : Watched :=
  ⟨w.client.step event, w.hear event, w.post event⟩

def run (w : Watched) (events : List Client.Event) : Watched := events.foldl step w

/-- The onlooker changes nothing. -/
theorem run_client (w : Watched) (events : List Client.Event) :
    (w.run events).client = w.client.run events := by
  induction events generalizing w with
  | nil => rfl
  | cons event events ih => exact ih (w.step event)

/-- What arrives in a step belongs to the responses to requests that have been written. -/
def Answering (script : Script) (w : Watched) : Client.Event → Prop
  | .deliver i octets => ∀ l, w.client.links[i]? = some l → l.ending = none →
    w.arrived i ++ octets <+: script.upTo i l.sent.length
  | _ => True

/-- In all steps of a run the processor writes nothing but its responses. -/
def Lockstep (script : Script) (w : Watched) : List Client.Event → Prop
  | [] => True
  | event :: events => w.Answering script event ∧ (w.step event).Lockstep script events

instance decidableAnswering (script : Script) (w : Watched) :
    (event : Client.Event) → Decidable (w.Answering script event)
  | .deliver i octets =>
    inferInstanceAs (Decidable (∀ l ∈ w.client.links[i]?, l.ending = none →
      w.arrived i ++ octets <+: script.upTo i l.sent.length))
  | .call .. | .warmed | .lease | .expire _ | .dialed .. | .replaced _ | .write .. | .hangUp ..
  | .read _ | .abandon _ => isTrue trivial

instance decidableLockstep (script : Script) (w : Watched) :
    (events : List Client.Event) → Decidable (w.Lockstep script events)
  | [] => isTrue trivial
  | event :: events =>
    have := decidableLockstep script (w.step event) events
    inferInstanceAs (Decidable (w.Answering script event ∧ (w.step event).Lockstep script events))

/-- The response to a request has arrived completely. -/
def Received (script : Script) (w : Watched) (i k : Nat) : Prop :=
  script.upTo i (k + 1) <+: w.arrived i

end Watched

end PaymentRelay.Processor
