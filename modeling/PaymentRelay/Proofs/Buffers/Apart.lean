import PaymentRelay.BufferPool

/-!
# Leases keep apart

A buffer goes from lease to lease, so what stands between two of its holders is only that each
buffer has one holder at a time, and that it is empty when it has none. `Sound` says this, and that
no buffer has shrunk below the size of the pool; whatever is done to the buffers keeps it. What one
event does to the octets that a lease reads then depends on nothing but the event, and so does what
a whole history does to them.
-/

namespace PaymentRelay

/-! ## Memory -/

theorem Memory.le_enough (memory : Memory) (capacity needed : Nat) :
    capacity ≤ memory.enough capacity needed ∧ needed ≤ memory.enough capacity needed := by
  rw [enough]
  split
  · next fits => exact ⟨Nat.le_refl _, fits⟩
  · next exceeds =>
    have grown := memory.le_grown capacity needed
    omega

namespace Buffer

variable {size : Nat} {b : Buffer}

/-- The buffer has at least the memory that buffers start with, and enough for its contents. -/
structure Holds (size : Nat) (b : Buffer) : Prop where
  size_le : size ≤ b.capacity
  fits : b.contents.length ≤ b.capacity

theorem Holds.reserve (h : b.Holds size) (memory : Memory) (room : Nat) :
    (b.reserve memory room).Holds size := by
  obtain ⟨keeps, -⟩ := memory.le_enough b.capacity (b.contents.length + room)
  exact ⟨Nat.le_trans h.size_le keeps, Nat.le_trans h.fits keeps⟩

theorem Holds.edit (h : b.Holds size) (memory : Memory) (change : Bytes → Bytes) :
    (b.edit memory change).Holds size := by
  obtain ⟨keeps, fits⟩ := memory.le_enough b.capacity (change b.contents).length
  exact ⟨Nat.le_trans h.size_le keeps, fits⟩

/-- A buffer that is ready for a lease: empty, with the memory that buffers start with. -/
structure Ready (size : Nat) (b : Buffer) : Prop where
  empty : b.contents = []
  size_le : size ≤ b.capacity

theorem Ready.holds (h : b.Ready size) : b.Holds size :=
  ⟨h.size_le, by simp [h.empty]⟩

theorem ready_fresh (memory : Memory) (size : Nat) :
    (Buffer.empty (memory.fresh size)).Ready size :=
  ⟨rfl, memory.le_fresh size⟩

theorem Holds.recycled {pool : BufferPool} (h : b.Holds pool.size) :
    (pool.recycled b).Ready pool.size := by
  rw [BufferPool.recycled]
  split
  · refine ⟨rfl, ?_⟩
    simpa [cutBack, clear] using pool.memory.le_cutBack b.capacity pool.size h.size_le
  · exact ⟨rfl, h.size_le⟩

end Buffer

/-! ## The pool -/

namespace BufferPool

variable {pool : BufferPool} {number other : Nat}

@[simp] theorem size_keep : (pool.keep number).size = pool.size := by
  rw [keep]
  split <;> rfl

@[simp] theorem maxIdle_keep : (pool.keep number).maxIdle = pool.maxIdle := by
  rw [keep]
  split <;> rfl

theorem mem_idle_keep (h : other ∈ (pool.keep number).idle) :
    other = number ∨ other ∈ pool.idle := by
  rw [keep] at h
  split at h
  · exact List.mem_cons.mp h
  · exact Or.inr h

theorem nodup_idle_keep (nodup : pool.idle.Nodup) (other : number ∉ pool.idle) :
    (pool.keep number).idle.Nodup := by
  rw [keep]
  split
  · exact List.nodup_cons.mpr ⟨other, nodup⟩
  · exact nodup

theorem length_idle_keep (few : pool.idle.length ≤ pool.maxIdle) :
    (pool.keep number).idle.length ≤ pool.maxIdle := by
  rw [keep]
  split
  · next room => exact room
  · exact few

end BufferPool

namespace BufferLeases

variable {s : BufferLeases} {lease other number : Nat} {b : Buffer} {f : Buffer → Buffer}

/-! ## What each operation changes -/

theorem number?_lt (h : s.number? lease = some number) : lease < s.leases.size := by
  refine Nat.lt_of_not_le fun beyond ↦ ?_
  rw [number?, Array.getElem?_eq_none beyond] at h
  cases h

theorem buffer?_eq (h : s.number? lease = some number) : s.buffer? lease = s.buffers[number]? := by
  rw [buffer?, h, Option.bind_some]

@[simp] theorem pool_use : (s.use lease f).pool = s.pool := by
  rw [use]
  split <;> rfl

@[simp] theorem number?_use : (s.use lease f).number? other = s.number? other := by
  rw [use]
  split <;> rfl

theorem getElem?_buffers_use : (s.use lease f).buffers[number]? =
    if s.number? lease = some number then (s.buffers[number]?).map f else s.buffers[number]? := by
  rw [use]
  split
  · next ended => rw [ended, if_neg (by simp)]
  · next n live => simp only [live, Option.some.injEq, Array.getElem?_modify]

@[simp] theorem pool_checkout :
    s.checkout.pool = { s.pool with idle := s.pool.idle.tail } := by
  rw [checkout]
  split
  · next none_ =>
    have same : s.pool.idle.tail = s.pool.idle := by rw [none_, List.tail_nil]
    rw [same]
  · next some_ => rw [some_, List.tail_cons]

/-- The number of the buffer that is leased next: the one given back last, or a new one. -/
def next (s : BufferLeases) : Nat := s.pool.idle.headD s.buffers.size

theorem number?_checkout : s.checkout.number? other =
    if other = s.leases.size then some s.next else s.number? other := by
  rw [checkout, next]
  split
  · next none_ =>
    simp only [number?, Array.getElem?_push, none_, List.headD_nil]
    split <;> rfl
  · next some_ =>
    simp only [number?, Array.getElem?_push, some_, List.headD_cons]
    split <;> rfl

theorem getElem?_buffers_checkout : s.checkout.buffers[number]? =
    if s.pool.idle = [] ∧ number = s.buffers.size then
      some (.empty (s.pool.memory.fresh s.pool.size))
    else s.buffers[number]? := by
  rw [checkout]
  split
  · next none_ => simp only [none_, true_and, Array.getElem?_push]
  · next some_ => simp [some_]

theorem getElem?_buffers_checkout_of_some (h : s.buffers[number]? = some b) :
    s.checkout.buffers[number]? = some b := by
  obtain ⟨within, -⟩ := Array.getElem?_eq_some_iff.mp h
  rw [getElem?_buffers_checkout, if_neg (by omega), h]

theorem drop_of_ended (ended : s.number? lease = none) : s.drop lease = s := by
  rw [drop, ended]

theorem pool_drop (live : s.number? lease = some number) :
    (s.drop lease).pool = s.pool.keep number := by
  rw [drop, live]

theorem buffers_drop : (s.drop lease).buffers = (s.use lease s.pool.recycled).buffers := by
  rw [drop, use]
  split <;> rfl

theorem number?_drop :
    (s.drop lease).number? other = if other = lease then none else s.number? other := by
  cases live : s.number? lease with
  | none =>
    rw [drop_of_ended live]
    split
    · next same => rw [same, live]
    · rfl
  | some n =>
    rw [drop, live]
    simp only [number?, Array.getElem?_setIfInBounds, number?_lt live, if_true, eq_comm]
    split <;> rfl

/-! ## One holder for each buffer -/

/-- **Each buffer has one holder**, the pool or a lease, and is ready while the pool holds it. -/
structure Sound (s : BufferLeases) : Prop where
  /-- The pool does not hold a buffer twice. -/
  nodup : s.pool.idle.Nodup
  /-- The pool does not hold a leased buffer. -/
  apart : ∀ lease number, s.number? lease = some number → number ∉ s.pool.idle
  /-- No two leases are of the same buffer. -/
  sole : ∀ lease other number, s.number? lease = some number → s.number? other = some number →
    lease = other
  ready : ∀ number ∈ s.pool.idle, ∃ b, s.buffers[number]? = some b ∧ b.Ready s.pool.size
  holds : ∀ lease number, s.number? lease = some number →
    ∃ b, s.buffers[number]? = some b ∧ b.Holds s.pool.size
  few : s.pool.idle.length ≤ s.pool.maxIdle

theorem sound_newIn (memory : Memory) (size maxIdle : Nat) : (newIn memory size maxIdle).Sound where
  nodup := List.nodup_nil
  apart := by simp [newIn]
  sole := by simp [newIn, number?]
  ready := by simp [newIn]
  holds := by simp [newIn, number?]
  few := Nat.zero_le _

theorem Sound.use (h : s.Sound) (lease : Nat)
    (keeps : ∀ b : Buffer, b.Holds s.pool.size → (f b).Holds s.pool.size) :
    (s.use lease f).Sound where
  nodup := by simpa using h.nodup
  apart := by simpa using h.apart
  sole := by simpa using h.sole
  ready := by
    intro number idle
    rw [pool_use] at idle ⊢
    have other : s.number? lease ≠ some number := fun live ↦ h.apart lease number live idle
    rw [getElem?_buffers_use, if_neg other]
    exact h.ready number idle
  holds := by
    intro other number live
    rw [number?_use] at live
    obtain ⟨b, there, holds⟩ := h.holds other number live
    rw [getElem?_buffers_use, pool_use, there]
    split
    · exact ⟨f b, rfl, keeps b holds⟩
    · exact ⟨b, rfl, holds⟩
  few := by simpa using h.few

theorem Sound.ne_next (h : s.Sound) (live : s.number? lease = some number) : number ≠ s.next := by
  intro same
  rw [next] at same
  cases idle : s.pool.idle with
  | nil =>
    obtain ⟨b, there, -⟩ := h.holds lease number live
    rw [idle, List.headD_nil] at same
    simp [same] at there
  | cons first rest =>
    rw [idle, List.headD_cons] at same
    exact h.apart lease number live (by simp [idle, same])

theorem Sound.next_not_mem_tail (h : s.Sound) : s.next ∉ s.pool.idle.tail := by
  have nodup := h.nodup
  rw [next]
  cases idle : s.pool.idle with
  | nil => simp
  | cons first rest =>
    rw [idle] at nodup
    exact (List.nodup_cons.mp nodup).1

theorem Sound.ready_next (h : s.Sound) :
    ∃ b, s.checkout.buffers[s.next]? = some b ∧ b.Ready s.pool.size := by
  cases idle : s.pool.idle with
  | nil =>
    refine ⟨_, ?_, Buffer.ready_fresh s.pool.memory s.pool.size⟩
    rw [getElem?_buffers_checkout, if_pos ⟨idle, by rw [next, idle, List.headD_nil]⟩]
  | cons first rest =>
    have first_ : s.next = first := by rw [next, idle, List.headD_cons]
    obtain ⟨b, there, ready⟩ := h.ready first (by simp [idle])
    exact ⟨b, first_ ▸ getElem?_buffers_checkout_of_some there, ready⟩

theorem Sound.checkout (h : s.Sound) : s.checkout.Sound where
  nodup := by
    rw [pool_checkout]
    exact h.nodup.tail
  apart := by
    intro lease number live
    rw [number?_checkout] at live
    rw [pool_checkout]
    split at live
    · cases live
      exact h.next_not_mem_tail
    · exact fun idle ↦ h.apart lease number live (List.mem_of_mem_tail idle)
  sole := by
    intro lease other number live also
    rw [number?_checkout] at live also
    -- only the new lease is of the next buffer
    split at live
    · next new =>
      cases live
      split at also
      · next new' => rw [new, new']
      · exact absurd rfl (h.ne_next also)
    · split at also
      · cases also
        exact absurd rfl (h.ne_next live)
      · exact h.sole lease other number live also
  ready := by
    intro number idle
    rw [pool_checkout] at idle ⊢
    obtain ⟨b, there, ready⟩ := h.ready number (List.mem_of_mem_tail idle)
    exact ⟨b, getElem?_buffers_checkout_of_some there, ready⟩
  holds := by
    intro lease number live
    rw [number?_checkout] at live
    rw [pool_checkout]
    split at live
    · cases live
      obtain ⟨b, there, ready⟩ := h.ready_next
      exact ⟨b, there, ready.holds⟩
    · obtain ⟨b, there, holds⟩ := h.holds lease number live
      exact ⟨b, getElem?_buffers_checkout_of_some there, holds⟩
  few := by
    have few := h.few
    simp only [pool_checkout, List.length_tail]
    omega

theorem Sound.live_of_drop (h : s.Sound) (live : s.number? lease = some number) {n : Nat}
    (left_ : (s.drop lease).number? other = some n) : s.number? other = some n ∧ n ≠ number := by
  rw [number?_drop] at left_
  split at left_
  · cases left_
  · next distinct =>
    refine ⟨left_, ?_⟩
    rintro rfl
    exact distinct (h.sole other lease n left_ live)

theorem getElem?_buffers_drop_of_ne (live : s.number? lease = some number) {n : Nat}
    (distinct : n ≠ number) : (s.drop lease).buffers[n]? = s.buffers[n]? := by
  rw [buffers_drop, getElem?_buffers_use, if_neg (by simp [live, distinct.symm])]

theorem Sound.drop_live (h : s.Sound) (live : s.number? lease = some number) :
    (s.drop lease).Sound where
  nodup := by
    rw [pool_drop live]
    exact BufferPool.nodup_idle_keep h.nodup (h.apart lease number live)
  apart := by
    intro other n left_ idle
    obtain ⟨was, distinct⟩ := h.live_of_drop live left_
    rw [pool_drop live] at idle
    exact (BufferPool.mem_idle_keep idle).elim distinct (h.apart other n was)
  sole := by
    intro other other' n left_ also
    exact h.sole other other' n (h.live_of_drop live left_).1 (h.live_of_drop live also).1
  ready := by
    intro n idle
    rw [pool_drop live] at idle ⊢
    rw [BufferPool.size_keep]
    -- the buffer that was given back has been emptied, and the others are as they were
    rcases BufferPool.mem_idle_keep idle with rfl | was
    · obtain ⟨b, there, holds⟩ := h.holds lease n live
      refine ⟨s.pool.recycled b, ?_, holds.recycled⟩
      rw [buffers_drop, getElem?_buffers_use, if_pos live, there, Option.map_some]
    · have distinct : n ≠ number := by
        rintro rfl
        exact h.apart lease n live was
      rw [getElem?_buffers_drop_of_ne live distinct]
      exact h.ready n was
  holds := by
    intro other n left_
    obtain ⟨was, distinct⟩ := h.live_of_drop live left_
    rw [pool_drop live, BufferPool.size_keep, getElem?_buffers_drop_of_ne live distinct]
    exact h.holds other n was
  few := by
    rw [pool_drop live, BufferPool.maxIdle_keep]
    exact BufferPool.length_idle_keep h.few

theorem Sound.drop (h : s.Sound) (lease : Nat) : (s.drop lease).Sound := by
  cases live : s.number? lease with
  | none => rwa [drop_of_ended live]
  | some number => exact h.drop_live live

theorem Sound.act (h : s.Sound) (lease : Nat) (a : LeaseAct) : (s.act lease a).Sound := by
  cases a with
  | write change => exact h.use lease fun _ holds ↦ holds.edit s.pool.memory change
  | reserve room => exact h.use lease fun _ holds ↦ holds.reserve s.pool.memory room
  | drop => exact h.drop lease

theorem Sound.step (h : s.Sound) (e : Event) : (s.step e).Sound := by
  cases e with
  | checkout => exact h.checkout
  | act lease a => exact h.act lease a

/-- **Each buffer has one holder** at all times. -/
theorem Sound.run (h : s.Sound) (events : List Event) : (s.run events).Sound := by
  induction events generalizing s with
  | nil => exact h
  | cons e events ih => exact ih (h.step e)

/-! ## What becomes of one buffer -/

theorem buffer?_use_self : (s.use lease f).buffer? lease = (s.buffer? lease).map f := by
  cases live : s.number? lease with
  | none => rw [buffer?, number?_use, buffer?, live, Option.bind_none, Option.bind_none,
      Option.map_none]
  | some number =>
    rw [buffer?_eq (number?_use.trans live), buffer?_eq live, getElem?_buffers_use, if_pos live]

theorem Sound.buffer?_use_of_ne (h : s.Sound) (distinct : other ≠ lease) :
    (s.use lease f).buffer? other = s.buffer? other := by
  cases live : s.number? other with
  | none => rw [buffer?, number?_use, buffer?, live, Option.bind_none, Option.bind_none]
  | some number =>
    have apart : s.number? lease ≠ some number :=
      fun same ↦ distinct (h.sole other lease number live same)
    rw [buffer?_eq (number?_use.trans live), buffer?_eq live, getElem?_buffers_use, if_neg apart]

theorem buffer?_drop_self : (s.drop lease).buffer? lease = none := by
  rw [buffer?, number?_drop, if_pos rfl, Option.bind_none]

theorem Sound.buffer?_drop_of_ne (h : s.Sound) (distinct : other ≠ lease) :
    (s.drop lease).buffer? other = s.buffer? other := by
  rw [buffer?, number?_drop, if_neg distinct, buffers_drop, ← h.buffer?_use_of_ne distinct, buffer?,
    number?_use]

theorem Sound.buffer?_checkout_new (h : s.Sound) :
    ∃ b, s.checkout.buffer? s.leases.size = some b ∧ b.Ready s.pool.size := by
  obtain ⟨b, there, ready⟩ := h.ready_next
  exact ⟨b, by rw [buffer?, number?_checkout, if_pos rfl, Option.bind_some, there], ready⟩

theorem Sound.buffer?_checkout_of_lt (h : s.Sound) (placed : lease < s.leases.size) :
    s.checkout.buffer? lease = s.buffer? lease := by
  rw [buffer?, buffer?, number?_checkout, if_neg (Nat.ne_of_lt placed)]
  cases live : s.number? lease with
  | none => rfl
  | some number =>
    obtain ⟨b, there, -⟩ := h.holds lease number live
    rw [Option.bind_some, Option.bind_some, there, getElem?_buffers_checkout_of_some there]

end BufferLeases

/-! ## What a lease reads -/

/-- What an act through a lease makes of the octets that are read through it. -/
def LeaseAct.on (seen : Option Bytes) : LeaseAct → Option Bytes
  | .write change => seen.map change
  | .reserve _ => seen
  | .drop => none

namespace BufferLeases

variable {s : BufferLeases} {lease other : Nat}

/-- The octets that are read through a lease. -/
def read? (s : BufferLeases) (lease : Nat) : Option Bytes := (s.buffer? lease).map Buffer.contents

/-- What an event is to a lease: an act through it, or no concern of it. -/
def Event.through? (lease : Nat) : Event → Option LeaseAct
  | .checkout => none
  | .act l a => if l = lease then some a else none

/-- The acts through a lease among some events, in order. -/
def through (lease : Nat) (events : List Event) : List LeaseAct :=
  events.filterMap (Event.through? lease)

theorem Sound.read?_act_of_ne (h : s.Sound) (distinct : other ≠ lease) (a : LeaseAct) :
    (s.act lease a).read? other = s.read? other := by
  rw [read?, read?]
  congr 1
  cases a with
  | write change => exact h.buffer?_use_of_ne distinct
  | reserve room => exact h.buffer?_use_of_ne distinct
  | drop => exact h.buffer?_drop_of_ne distinct

theorem read?_act_self (a : LeaseAct) : (s.act lease a).read? lease = a.on (s.read? lease) := by
  cases a with
  | write change =>
    rw [act, edit, read?, read?, buffer?_use_self, LeaseAct.on, Option.map_map, Option.map_map]
    rfl
  | reserve room =>
    rw [act, read?, read?, buffer?_use_self, LeaseAct.on, Option.map_map]
    rfl
  | drop => rw [act, read?, buffer?_drop_self, LeaseAct.on, Option.map_none]

/-- **What one event does to the octets that a lease reads** is what is done through the lease. -/
theorem Sound.read?_step (h : s.Sound) (placed : lease < s.leases.size) (e : Event) :
    (s.step e).read? lease = (e.through? lease).elim (s.read? lease) (·.on (s.read? lease)) := by
  cases e with
  | checkout =>
    rw [BufferLeases.step, read?, h.buffer?_checkout_of_lt placed]
    rfl
  | act l a =>
    rw [BufferLeases.step, Event.through?]
    split
    · next same => rw [same, read?_act_self, Option.elim_some]
    · next distinct => rw [h.read?_act_of_ne (Ne.symm distinct), Option.elim_none]

theorem size_leases_use {f : Buffer → Buffer} :
    (s.use lease f).leases.size = s.leases.size := by
  rw [use]
  split <;> rfl

theorem size_leases_drop : (s.drop lease).leases.size = s.leases.size := by
  rw [drop]
  split
  · rfl
  · exact Array.size_setIfInBounds

theorem size_leases_checkout : s.checkout.leases.size = s.leases.size + 1 := by
  rw [checkout]
  split
  · exact Array.size_push _
  · exact Array.size_push _

theorem le_size_leases_step (s : BufferLeases) (e : Event) :
    s.leases.size ≤ (s.step e).leases.size := by
  cases e with
  | checkout =>
    rw [step, size_leases_checkout]
    exact Nat.le_succ _
  | act l a =>
    cases a with
    | write change => exact Nat.le_of_eq size_leases_use.symm
    | reserve room => exact Nat.le_of_eq size_leases_use.symm
    | drop => exact Nat.le_of_eq size_leases_drop.symm

/-- **What a history does to the octets that a lease reads** is what is done through the lease. -/
theorem Sound.read?_run (h : s.Sound) (placed : lease < s.leases.size) (events : List Event) :
    (s.run events).read? lease = (through lease events).foldl LeaseAct.on (s.read? lease) := by
  induction events generalizing s with
  | nil => rfl
  | cons e events ih =>
    have still := Nat.lt_of_lt_of_le placed (le_size_leases_step s e)
    rw [BufferLeases.run, List.foldl_cons, ← BufferLeases.run, ih (h.step e) still,
      h.read?_step placed, through, through, List.filterMap_cons]
    cases e.through? lease with
    | none => rfl
    | some a => rfl

/-- What is read through a new lease after some acts through it. -/
def view (acts : List LeaseAct) : Option Bytes := acts.foldl LeaseAct.on (some [])

/-- A new lease reads what the acts through it have made of no octets. -/
theorem Sound.read?_run_checkout (h : s.Sound) (after : List Event) :
    (s.checkout.run after).read? s.leases.size = view (through s.leases.size after) := by
  obtain ⟨b, there, ready⟩ := h.buffer?_checkout_new
  have placed : s.leases.size < s.checkout.leases.size := by
    rw [size_leases_checkout]
    exact Nat.lt_succ_self _
  have empty : s.checkout.read? s.leases.size = some [] := by
    rw [read?, there, Option.map_some, ready.empty]
  rw [h.checkout.read?_run placed, empty, view]

theorem limits_step (s : BufferLeases) (e : Event) :
    (s.step e).pool.size = s.pool.size ∧ (s.step e).pool.maxIdle = s.pool.maxIdle := by
  cases e with
  | checkout =>
    rw [step, pool_checkout]
    exact ⟨rfl, rfl⟩
  | act lease a =>
    cases a with
    | write change =>
      rw [step, act, edit, pool_use]
      exact ⟨rfl, rfl⟩
    | reserve room =>
      rw [step, act, pool_use]
      exact ⟨rfl, rfl⟩
    | drop =>
      cases live : s.number? lease with
      | none =>
        rw [step, act, drop_of_ended live]
        exact ⟨rfl, rfl⟩
      | some number =>
        rw [step, act, pool_drop live]
        exact ⟨BufferPool.size_keep, BufferPool.maxIdle_keep⟩

theorem limits_run (s : BufferLeases) (events : List Event) :
    (s.run events).pool.size = s.pool.size ∧ (s.run events).pool.maxIdle = s.pool.maxIdle := by
  induction events generalizing s with
  | nil => exact ⟨rfl, rfl⟩
  | cons e events ih =>
    obtain ⟨size, maxIdle⟩ := ih (s.step e)
    obtain ⟨size', maxIdle'⟩ := limits_step s e
    exact ⟨size.trans size', maxIdle.trans maxIdle'⟩

/-- **Nothing passes from one lease to another.** Whatever has happened to a pool of buffers: no
more buffers are kept than are wanted; a lease starts with an empty buffer of the size of the pool
or more; what is written through one lease changes nothing for another; and whatever happens later,
a lease reads what the acts through it since its start have made of no octets. So two leases with
the same acts read the same, in pools of different sizes, with memory set aside differently, after
and between whatever happens to other leases. -/
theorem nothing_passes_between_leases (memory : Memory) (size maxIdle : Nat)
    (before : List Event) :
    let s := (newIn memory size maxIdle).run before
    s.pool.idle.length ≤ maxIdle ∧
    (∃ b, s.checkout.buffer? s.leases.size = some b ∧ b.contents = [] ∧ size ≤ b.capacity) ∧
    (∀ writer reader change, reader ≠ writer →
      (s.edit writer change).read? reader = s.read? reader) ∧
    (∀ after, (s.checkout.run after).read? s.leases.size =
      view (through s.leases.size after)) ∧
    ∀ (memory' : Memory) (size' maxIdle' : Nat) (before' after after' : List Event),
      let s' := (newIn memory' size' maxIdle').run before'
      through s'.leases.size after' = through s.leases.size after →
      (s'.checkout.run after').read? s'.leases.size =
        (s.checkout.run after).read? s.leases.size := by
  intro s
  have sound (memory : Memory) (size maxIdle : Nat) (events : List Event) :
      ((newIn memory size maxIdle).run events).Sound :=
    (sound_newIn memory size maxIdle).run events
  have h := sound memory size maxIdle before
  obtain ⟨size_, maxIdle_⟩ := limits_run (newIn memory size maxIdle) before
  refine ⟨?_, ?_, ?_, ?_, ?_⟩
  · exact Nat.le_trans h.few (Nat.le_of_eq maxIdle_)
  · obtain ⟨b, there, ready⟩ := h.buffer?_checkout_new
    exact ⟨b, there, ready.empty, Nat.le_trans (Nat.le_of_eq size_.symm) ready.size_le⟩
  · intro writer reader change distinct
    exact h.read?_act_of_ne distinct (.write change)
  · exact h.read?_run_checkout
  · intro memory' size' maxIdle' before' after after' s' same
    rw [(sound memory' size' maxIdle' before').read?_run_checkout, h.read?_run_checkout, same]

/-- The second lease is of the buffer that the first has written to and given back. -/
example :
    let s := (((new 4 1).checkout.write 0 [1, 2]).drop 0).checkout
    s.number? 1 = some 0 ∧ s.read? 0 = none ∧ s.read? 1 = some [] := by decide +kernel

end BufferLeases

end PaymentRelay
