import PaymentRelay.Bytes.Basic

/-!
# Pooled buffers

Buffers are used by one task at a time and then by another. A lease is the exclusive use of a
buffer; when it ends the buffer is emptied and kept for the next, unless enough are kept already.
A buffer that has grown far beyond its size is cut back before it is kept.

Memory is modelled as far as it can be asked about. A buffer has contents, and a capacity that is
never less than they need. It is one and the same buffer wherever it is named: the pool and the
leases hold numbers of buffers, so what is written by one holder is there for every other holder of
the same number.
-/

namespace PaymentRelay

/-- A growing run of octets in memory set aside for it. -/
structure Buffer where
  contents : Bytes
  /-- How many octets it can hold without growing. -/
  capacity : Nat
deriving DecidableEq, Repr

namespace Buffer

def empty (capacity : Nat) : Buffer := ⟨[], capacity⟩

/-- Empties the buffer, which keeps its memory. -/
def clear (b : Buffer) : Buffer := { b with contents := [] }

/-- Writes at the end. The buffer grows to what it must hold. -/
def append (b : Buffer) (octets : Bytes) : Buffer :=
  let contents := b.contents ++ octets
  ⟨contents, max b.capacity contents.length⟩

end Buffer

/-- How much memory is set aside when a buffer is made, must grow, or is cut back: at least what is
asked for, and perhaps more. -/
structure Memory where
  /-- The capacity of a new buffer that is to hold so many octets. -/
  fresh : Nat → Nat
  /-- The capacity of a buffer that grows from a capacity to hold so many octets. -/
  grown : Nat → Nat → Nat
  /-- The capacity of a buffer that is cut back from a capacity but is still to hold so many
  octets. -/
  cutBack : Nat → Nat → Nat
  le_fresh : ∀ needed, needed ≤ fresh needed
  le_grown : ∀ capacity needed, needed ≤ grown capacity needed
  le_cutBack : ∀ capacity needed, needed ≤ capacity → needed ≤ cutBack capacity needed

def Memory.exact : Memory where
  fresh needed := needed
  grown _ needed := needed
  cutBack _ needed := needed
  le_fresh _ := Nat.le_refl _
  le_grown _ _ := Nat.le_refl _
  le_cutBack _ _ _ := Nat.le_refl _

/-- The capacity of a buffer that comes to hold so many octets: it grows only if it must. -/
def Memory.enough (memory : Memory) (capacity needed : Nat) : Nat :=
  if needed ≤ capacity then capacity else memory.grown capacity needed

namespace Buffer

/-- Makes room for more octets. -/
def reserve (memory : Memory) (room : Nat) (b : Buffer) : Buffer :=
  { b with capacity := memory.enough b.capacity (b.contents.length + room) }

/-- Changes the contents. The buffer grows to what it must hold. -/
def edit (memory : Memory) (change : Bytes → Bytes) (b : Buffer) : Buffer :=
  let contents := change b.contents
  ⟨contents, memory.enough b.capacity contents.length⟩

/-- Gives back memory beyond what the buffer holds and what it is to hold. -/
def cutBack (memory : Memory) (needed : Nat) (b : Buffer) : Buffer :=
  { b with capacity := memory.cutBack b.capacity (max needed b.contents.length) }

end Buffer

/-- A stock of buffers that nobody uses. -/
structure BufferPool where
  /-- How memory is set aside. -/
  memory : Memory
  /-- The capacity that a buffer starts with. -/
  size : Nat
  /-- How many unused buffers are kept at most. -/
  maxIdle : Nat
  /-- The numbers of the unused buffers, the one given back last in front. -/
  idle : List Nat

namespace BufferPool

/-- How far past its size a buffer may grow and still be kept as it is. -/
def slack : Nat := 4

/-- The buffer as it is kept: empty, and cut back if it has grown too far. -/
def recycled (pool : BufferPool) (buffer : Buffer) : Buffer :=
  let buffer := buffer.clear
  if buffer.capacity > pool.size * slack then buffer.cutBack pool.memory pool.size else buffer

/-- A buffer is kept, unless enough are. -/
def keep (pool : BufferPool) (number : Nat) : BufferPool :=
  if pool.idle.length < pool.maxIdle then { pool with idle := number :: pool.idle } else pool

end BufferPool

/-! ## Leases -/

/-- What the holder of a lease does with it. -/
inductive LeaseAct where
  /-- The contents are changed: something is written at their end, taken from their front, or
  whatever else. -/
  | write (change : Bytes → Bytes)
  /-- Room is made for more octets. -/
  | reserve (room : Nat)
  /-- The lease ends. -/
  | drop

/-- A pool and the leases of its buffers. A buffer that is not kept keeps its number, and nobody
names it any more. -/
structure BufferLeases where
  pool : BufferPool
  /-- All buffers that were ever made, by their numbers. -/
  buffers : Array Buffer
  /-- The numbers of the leased buffers. A lease that has ended is `none`; it keeps its place. -/
  leases : Array (Option Nat)

namespace BufferLeases

def newIn (memory : Memory) (size maxIdle : Nat) : BufferLeases :=
  ⟨⟨memory, size, maxIdle, []⟩, #[], #[]⟩

/-- No buffers and no leases yet, in memory that is set aside exactly. -/
def new (size maxIdle : Nat) : BufferLeases := newIn .exact size maxIdle

/-- Leases a buffer, one that was given back or a new one. The lease gets the next place. -/
def checkout (s : BufferLeases) : BufferLeases :=
  match s.pool.idle with
  | [] =>
    { s with
      buffers := s.buffers.push (.empty (s.pool.memory.fresh s.pool.size))
      leases := s.leases.push (some s.buffers.size) }
  | number :: idle =>
    { s with pool := { s.pool with idle }, leases := s.leases.push (some number) }

/-- The number of the buffer that a live lease is of. -/
def number? (s : BufferLeases) (lease : Nat) : Option Nat := (s.leases[lease]?).join

/-- The buffer of a live lease. -/
def buffer? (s : BufferLeases) (lease : Nat) : Option Buffer :=
  (s.number? lease).bind (s.buffers[·]?)

/-- Something is done to the buffer of a lease. A lease that has ended does nothing. -/
def use (s : BufferLeases) (lease : Nat) (f : Buffer → Buffer) : BufferLeases :=
  match s.number? lease with
  | none => s
  | some number => { s with buffers := s.buffers.modify number f }

/-- Changes the contents of the buffer of a lease. -/
def edit (s : BufferLeases) (lease : Nat) (change : Bytes → Bytes) : BufferLeases :=
  s.use lease (.edit s.pool.memory change)

def write (s : BufferLeases) (lease : Nat) (octets : Bytes) : BufferLeases :=
  s.edit lease (· ++ octets)

def drop (s : BufferLeases) (lease : Nat) : BufferLeases :=
  match s.number? lease with
  | none => s
  | some number =>
    ⟨s.pool.keep number, s.buffers.modify number s.pool.recycled,
      s.leases.setIfInBounds lease none⟩

/-- The holder of a lease does something with it. -/
def act (s : BufferLeases) (lease : Nat) : LeaseAct → BufferLeases
  | .write change => s.edit lease change
  | .reserve room => s.use lease (.reserve s.pool.memory room)
  | .drop => s.drop lease

/-- Something happens. -/
inductive Event where
  /-- A buffer is leased. -/
  | checkout
  /-- The holder of a lease does something with it. -/
  | act (lease : Nat) (a : LeaseAct)

def step (s : BufferLeases) : Event → BufferLeases
  | .checkout => s.checkout
  | .act lease a => s.act lease a

/-- What the buffers have become after some events. -/
def run (s : BufferLeases) (events : List Event) : BufferLeases := events.foldl step s

end BufferLeases

end PaymentRelay
