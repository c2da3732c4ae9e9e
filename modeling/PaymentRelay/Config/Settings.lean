import PaymentRelay.Config.Path
import PaymentRelay.Text.Blank
import PaymentRelay.Transport.Endpoint

/-!
# Settings

What the environment may say about how the program runs. Each setting has a default; a variable sets
the setting that its name refers to. Variables of other names mean nothing here. One value that
cannot be turned into what its setting wants makes the whole environment unusable.
-/

namespace PaymentRelay

/-- How the program runs. -/
structure Settings where
  /-- The path of the public socket. -/
  socket : String := "/tmp/rinha.sock"
  /-- The address to listen at instead of the socket, unless blank. -/
  bindAddress : Option String := none
  /-- Where the sibling instance listens, unless blank. -/
  peerSocket : Option String := none
  mainHost : String := "localhost"
  mainPort : Nat := 8001
  fallbackHost : String := "localhost"
  fallbackPort : Nat := 8002
  /-- Connections kept to each processor. -/
  poolSize : Nat := 256
  /-- Payments dispatched at a time. -/
  maxInFlight : Nat := 1024
  /-- Entries of the retry queue. -/
  queueCapacity : Nat := 7000
  /-- Workers on the retry queue. -/
  workers : Nat := 1
  /-- Payments may go to the fallback processor. -/
  failover : Bool := false
  /-- Milliseconds between two polls of a processor's health. -/
  pollInterval : Nat := 5000
  /-- Milliseconds that a processor stays down of its own accord. -/
  recoveryDelay : Nat := 5040
deriving DecidableEq, Repr

namespace Settings

open Config (Value Reference)

def names : List String :=
  ["socket", "bind_address", "peer_socket", "main_processor_host", "main_processor_port",
    "fallback_processor_host", "fallback_processor_port", "processor_pool_size", "max_in_flight",
    "rinha_dlq_buffer_size", "rinha_dlq_worker_num", "fallback_enabled",
    "health_check_interval_ms", "health_recovery_delay_ms"]

/-- Sets one setting. A name that is no setting's changes nothing; `none` if the value does not
do. -/
def set (s : Settings) (name : String) (v : Value) : Option Settings :=
  match name with
  | "socket" => some { s with socket := v.toText }
  | "bind_address" => some { s with bindAddress := some v.toText }
  | "peer_socket" => some { s with peerSocket := some v.toText }
  | "main_processor_host" => some { s with mainHost := v.toText }
  | "main_processor_port" => v.toPort?.map fun n ↦ { s with mainPort := n }
  | "fallback_processor_host" => some { s with fallbackHost := v.toText }
  | "fallback_processor_port" => v.toPort?.map fun n ↦ { s with fallbackPort := n }
  | "processor_pool_size" => v.toCount?.map fun n ↦ { s with poolSize := n }
  | "max_in_flight" => v.toCount?.map fun n ↦ { s with maxInFlight := n }
  | "rinha_dlq_buffer_size" => v.toCount?.map fun n ↦ { s with queueCapacity := n }
  | "rinha_dlq_worker_num" => v.toCount?.map fun n ↦ { s with workers := n }
  | "fallback_enabled" => v.toTruth?.map fun b ↦ { s with failover := b }
  | "health_check_interval_ms" => v.toCount?.map fun n ↦ { s with pollInterval := n }
  | "health_recovery_delay_ms" => v.toCount?.map fun n ↦ { s with recoveryDelay := n }
  | _ => some s

/-- Sets what a variable's name refers to. A setting has no parts: a value for one does not do. -/
def assign (s : Settings) (reference : Reference) (v : Value) : Option Settings :=
  match reference with
  | .whole name => s.set name v
  | .part name => if names.contains name then none else some s

/-- The value that counts for each reference: the last. -/
def latest : List (Reference × String) → List (Reference × String)
  | [] => []
  | (reference, text) :: rest =>
    if rest.any (·.1 = reference) then latest rest else (reference, text) :: latest rest

/-- The settings that an environment gives. -/
def ofEnvironment (environment : List (String × String)) : Option Settings :=
  (latest (environment.map fun (name, text) ↦ (Reference.ofName name, text))).foldlM
    (fun s (reference, text) ↦ s.assign reference (.ofText text)) {}

/-! ## Addresses -/

/-- A text that is not blank, without the blanks around it. -/
def present (s : Option String) : Option String :=
  (s.map Text.trim).filter (· ≠ "")

def listenEndpoint (s : Settings) : Transport.Endpoint :=
  match present s.bindAddress with
  | some address => .tcp address
  | none => .unix s.socket

/-- Where the sibling listens: at a host and port if there is a colon and no slash in front. -/
def peerEndpoint (s : Settings) : Option Transport.Endpoint :=
  (present s.peerSocket).map fun peer ↦
    if peer.toList.head? ≠ some '/' ∧ peer.toList.contains ':' then .tcp peer else .unix peer

def address (host : String) (port : Nat) : String := host ++ ":" ++ toString port

def mainAddress (s : Settings) : String := address s.mainHost s.mainPort

def fallbackAddress (s : Settings) : String := address s.fallbackHost s.fallbackPort

end Settings

end PaymentRelay
