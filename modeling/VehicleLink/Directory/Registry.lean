import VehicleLink.Notice
import VehicleLink.Table

/-!
# Registered clients

Everyone who sends a well-formed datagram to the relay becomes a client, except for the primary
controller, which has a fixed address and is served apart. A client that has been silent for longer
than the timeout is removed at the next purge.
-/

namespace VehicleLink

/-- What is remembered of a client. -/
structure Client where
  /-- Where the client sends from and is sent to. -/
  address : SocketAddress
  lastSeen : Nat
  created : Nat
deriving DecidableEq, Repr

/-- Whether the client has been silent for longer than `timeout`. -/
def Client.isExpired (c : Client) (timeout : Nat) (now : Nat) : Bool :=
  timeout < Duration.between c.lastSeen now

/-- The clients, with what decides who is one. -/
structure Registry where
  primary : SocketAddress
  timeout : Nat
  clients : Table SocketAddress Client := ∅
deriving DecidableEq

namespace Registry

/-- The addresses of all clients, in the order in which they came. -/
def addresses (r : Registry) : List SocketAddress := r.clients.keys

/-- The address under which a sender is a client; the primary controller is none. -/
def admit? (r : Registry) (sender : SocketAddress) : Option SocketAddress :=
  if sender = r.primary then none else some sender

/-- Registers a sender that is no client yet. -/
def register (r : Registry) (sender : SocketAddress) (now : Nat) : Registry :=
  match r.admit? sender with
  | none => r
  | some a =>
    { r with clients := r.clients.insertIfNew a { address := a, lastSeen := now, created := now } }

/-- What `register` reports. -/
def registerNotices (r : Registry) (sender : SocketAddress) : List Notice :=
  match r.admit? sender with
  | none => []
  | some a => if r.clients.contains a then [] else [.clientRegistered a]

/-- Notes that a client was heard. -/
def touch (r : Registry) (client : SocketAddress) (now : Nat) : Registry :=
  { r with clients := r.clients.modify client fun c => { c with lastSeen := now } }

/-- Registers a sender, or notes that it was heard again. -/
def contact (r : Registry) (sender : SocketAddress) (now : Nat) : Registry :=
  match r.admit? sender with
  | none => r
  -- For a new client the second step changes nothing.
  | some a => (r.register a now).touch a now

/-- The clients that have been silent for too long. -/
def expired (r : Registry) (now : Nat) : List Client :=
  r.clients.values.filter fun c => c.isExpired r.timeout now

/-- Removes the clients that have been silent for too long, by the addresses that they tell. -/
def purge (r : Registry) (now : Nat) : Registry :=
  { r with clients := r.clients.filter fun a _ => !((r.expired now).map Client.address).contains a }

/-- What `purge` reports. -/
def purgeNotices (r : Registry) (now : Nat) : List Notice :=
  (r.expired now).map fun c =>
    .clientTimedOut c.address (Duration.between c.lastSeen now) (Duration.between c.created now)

/-- Forgets all clients. -/
def clear (r : Registry) : Registry := { r with clients := ∅ }

end Registry

end VehicleLink
