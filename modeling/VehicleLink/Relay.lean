import VehicleLink.Downlink.Run
import VehicleLink.Uplink.Run

/-!
# Both workers together

The workers take turns on one shared state: what one learns about clients, routes, streams and
counters, the other sees in its next turn. An error of either worker ends the relay.
-/

namespace VehicleLink

/-- A running relay. -/
structure Relay where
  /-- From the network to the vehicle. -/
  uplink : Uplink
  /-- From the vehicle to the network. -/
  downlink : Downlink
  /-- Both work on the same state. -/
  shared : uplink.state = downlink.state

namespace Relay

/-- What both workers see. -/
def state (r : Relay) : State := r.uplink.state

/-- Both workers on a fresh state. If the first one cannot be started, there is no relay. -/
def start (c : Config) (now : Nat) : Except RelayError Relay :=
  let state := State.empty c.primaryAddress c.clientTimeout
  match Uplink.start c state now with
  | .error error => .error error
  | .ok uplink =>
    .ok { uplink, downlink := Downlink.start c uplink.state now, shared := rfl }

/-- A turn of the uplink worker, with all that it did. -/
def receive (r : Relay) (i : Uplink.Iteration) : Relay × Uplink.Ran :=
  let ran := r.uplink.iterate i
  let downlink := { r.downlink with state := ran.worker.state }
  -- The other worker keeps what is its own and sees the new state.
  ({ uplink := ran.worker, downlink, shared := rfl }, ran)

/-- A turn of the downlink worker, and the error that ends the relay with it, if there is one. -/
def transmit (net : Network) (r : Relay) (i : Downlink.Iteration) : Relay × Option RelayError :=
  let (downlink, error) := r.downlink.iterate net i
  ({ uplink := { r.uplink with state := downlink.state }, downlink, shared := rfl }, error)

/-- The end of the relay: the waiting frames are sent, the counters made public and all clients
removed. -/
def stop (net : Network) (r : Relay) : Relay :=
  let downlink := (r.downlink.flush net).publish
  let state := { downlink.state with directory := downlink.state.directory.clear }
  { uplink := { r.uplink with state }, downlink := { downlink with state }, shared := rfl }

end Relay

end VehicleLink
