import VehicleLink.Directory.Registry
import VehicleLink.Directory.Routes

/-!
# Who is out there

The directory joins the registered clients with the routes to them. Its operations keep the two in
step: a sender is registered before its route is learned, and a client that is removed loses its
routes. Each operation is made of two steps, one on the clients and one on the routes, between which
other threads may look at the directory: `Directory.Operation` lists the whole operations and
`Directory.Step` the steps.
-/

namespace VehicleLink

/-- The clients and the routes to them. -/
structure Directory where
  registry : Registry
  routes : Routes := ∅
deriving DecidableEq

namespace Directory

/-- The directory of a relay that has heard nobody. -/
def empty (primary : SocketAddress) (timeout : Nat) : Directory where
  registry := { primary, timeout }

/-- Learns from a sender: registers it or notes that it was heard, and learns its route. -/
def registerSource (d : Directory) (sender : SocketAddress) (system component : UInt8)
    (now : Nat) : Directory where
  registry := d.registry.contact sender now
  routes := match d.registry.admit? sender with
    | none => d.routes
    | some client => d.routes.learn system component client

/-- Removes the clients that have been silent for too long, with their routes. -/
def purge (d : Directory) (now : Nat) : Directory where
  registry := d.registry.purge now
  routes := d.routes.purgeAll ((d.registry.expired now).map Client.address)

/-- Forgets everyone. -/
def clear (d : Directory) : Directory where
  registry := d.registry.clear
  routes := ∅

/-- The registered clients, in the order in which they came. -/
def clients (d : Directory) : List SocketAddress := d.registry.addresses

/-- The clients that a message goes to. -/
def recipients (d : Directory) (targets : Option Targets) : List SocketAddress :=
  d.routes.recipients d.clients targets

/-- What is done to the directory as a whole. -/
inductive Operation where
  | registerSource (sender : SocketAddress) (system component : UInt8) (now : Nat)
  /-- The clients that have been silent for too long are removed. -/
  | purge (now : Nat)
  | clear
deriving DecidableEq, Repr

/-- Does one operation. -/
def perform (d : Directory) : Operation → Directory
  | .registerSource sender system component now => d.registerSource sender system component now
  | .purge now => d.purge now
  | .clear => d.clear

/-- Does the operations in order, with nobody else coming between them. -/
def performAll (d : Directory) (operations : List Operation) : Directory :=
  operations.foldl perform d

/-- What is done to one half of the directory while nobody looks at it. -/
inductive Step where
  /-- A sender is registered, or noted to have been heard. -/
  | contact (sender : SocketAddress) (now : Nat)
  | learn (system component : UInt8) (client : SocketAddress)
  | expire (now : Nat)
  | forget (clients : List SocketAddress)
  | clearClients
  | clearRoutes
deriving DecidableEq, Repr

/-- Takes one step. -/
def apply (d : Directory) : Step → Directory
  | .contact sender now => { d with registry := d.registry.contact sender now }
  | .learn system component client => { d with routes := d.routes.learn system component client }
  | .expire now => { d with registry := d.registry.purge now }
  | .forget clients => { d with routes := d.routes.purgeAll clients }
  | .clearClients => { d with registry := d.registry.clear }
  | .clearRoutes => { d with routes := ∅ }

/-- The directory after some steps, whoever took them. -/
def after (d : Directory) (steps : List Step) : Directory := steps.foldl apply d

end Directory

end VehicleLink
