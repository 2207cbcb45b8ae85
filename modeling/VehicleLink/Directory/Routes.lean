import VehicleLink.Address.Basic
import VehicleLink.Message.Targets
import VehicleLink.Table

/-!
# Routes to clients

Which client speaks for which component of which system. Whoever first sends as a component owns
that route, and the first of a system also owns the route of component zero, to which messages for
unknown components of that system go. System zero means everyone and has no route. A system without
routes is forgotten.
-/

namespace VehicleLink

/-- The owners of the components of one system. -/
abbrev ComponentRoutes := Table UInt8 SocketAddress

/-- The owners of routes, by system and component. -/
structure Routes where
  systems : Table UInt8 ComponentRoutes := ∅
deriving DecidableEq

namespace Routes

instance : EmptyCollection Routes where
  emptyCollection := {}

/-- The owners of the components of a system, none for an unknown one. -/
def components (r : Routes) (system : UInt8) : ComponentRoutes :=
  (r.systems.get? system).getD ∅

/-- Whether anyone speaks for the system. -/
def knowsSystem (r : Routes) (system : UInt8) : Bool := r.systems.contains system

/-- The client that speaks for a component. -/
def owner? (r : Routes) (system component : UInt8) : Option SocketAddress :=
  (r.components system).get? component

/-- Whether `learn` gives the component an owner. -/
def isNew (r : Routes) (system component : UInt8) : Bool :=
  system != 0 && (r.owner? system component).isNone

/-- Makes the client the owner of the component, and of component zero of its system, where these
have no owner yet. -/
def learn (r : Routes) (system component : UInt8) (client : SocketAddress) : Routes :=
  -- System zero means everyone, so nobody can speak for it.
  if system = 0 then r
  else
    { systems := (r.systems.insertIfNew system ∅).modify system fun components =>
        (components.insertIfNew component client).insertIfNew 0 client }

/-- Removes all routes of the client, and systems that have no route left. -/
def purge (r : Routes) (client : SocketAddress) : Routes where
  systems := (r.systems.map fun _ components => components.filter fun _ a => a != client).filter
    fun _ components => !components.isEmpty

/-- How many routes `purge` removes. -/
def purgedCount (r : Routes) (client : SocketAddress) : Nat :=
  r.systems.values.foldl (fun removed components =>
    removed + (components.size - (components.filter fun _ a => a != client).size)) 0

/-- The number of routes. -/
def size (r : Routes) : Nat := (r.systems.values.flatMap Table.values).length

/-- Whether there is no route at all. As systems without routes are forgotten, looking for systems
is enough. -/
def isEmpty (r : Routes) : Bool := r.systems.isEmpty

/-- Removes the routes of several clients, one after the other. -/
def purgeAll (r : Routes) (clients : List SocketAddress) : Routes :=
  clients.foldl purge r

/-- The client that a message for the component goes to: the owner of its route, or else the owner
of component zero. -/
def resolve? (r : Routes) (system component : UInt8) : Option SocketAddress :=
  (r.owner? system component).or (r.owner? system 0)

/-- Whether a message goes to the client. A message for everyone does, one for a whole system goes
to every owner of a route of it, and one for a component to the client it resolves to. -/
def reaches (r : Routes) (client : SocketAddress) (targets : Option Targets) : Bool :=
  match targets with
  | none => true
  | some t =>
    if t.system = 0 then true
    else match t.component with
      | none => (r.components t.system).values.contains client
      | some 0 => (r.components t.system).values.contains client
      | some component => r.resolve? t.system component == some client

/-- Those of the clients that a message goes to, in their order. -/
def recipients (r : Routes) (clients : List SocketAddress) (targets : Option Targets) :
    List SocketAddress :=
  clients.filter fun client => r.reaches client targets

end Routes

end VehicleLink
