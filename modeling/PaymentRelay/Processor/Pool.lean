/-!
# A pool of connections

Connections that are not in use, by their numbers. They are handed out in the order in which they
came back. The pool has a bound; a connection that comes back to a full pool is surplus.
-/

namespace PaymentRelay

/-- Connections that are not in use. -/
structure Pool where
  /-- How many connections are kept, if at least one. -/
  size : Nat
  /-- Their numbers, the one that has waited longest in front. -/
  idle : List Nat
deriving DecidableEq, Repr

namespace Pool

def new (size : Nat) : Pool := ⟨size, []⟩

/-- How many connections are kept at most: there is always room for one. -/
def capacity (p : Pool) : Nat := max p.size 1

def hasRoom (p : Pool) : Bool := p.idle.length < p.capacity

/-- Keeps a connection, if there is room. -/
def put (p : Pool) (connection : Nat) : Pool :=
  if p.hasRoom then { p with idle := p.idle ++ [connection] } else p

end Pool

end PaymentRelay
