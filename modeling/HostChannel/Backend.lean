import HostChannel.Host
import HostChannel.Simulator.Execution

/-!
# Backends

A host is opened by probing backends in order: those that the preference allows, up to the
first that has a device. A backend that has none, or fails, does not end the search.
-/

namespace HostChannel

/-- A kind of device that may be present. -/
structure Probe (δ : Type) where
  /-- The name of the backend. -/
  name : String
  /-- Looks for a device; none if there is none of this kind. -/
  find : Configuration → Except Error (Option δ)

/-- How a search for a device went. -/
structure Search (δ : Type) where
  /-- The backends that were probed, in order. -/
  tried : List (Probe δ)
  /-- The host on the device found, or that there is none. -/
  opened : Except Error (Host δ)

/-- The names of the backends that were probed, in order. -/
def Search.probed {δ : Type} (search : Search δ) : List String :=
  search.tried.map Probe.name

namespace Backend

variable {δ : Type}

/-- Probes the allowed backends in order, up to the first that has a device, and opens it
under the configuration. -/
def search (configuration : Configuration) : List (Probe δ) → Search δ
  | [] => ⟨[], .error .noBackend⟩
  | probe :: rest =>
    if configuration.backend.allows probe.name then
      match probe.find configuration with
      | .ok (some device) => ⟨[probe], .ok (.ofDevice configuration device)⟩
      | _ =>
        let later := search configuration rest
        ⟨probe :: later.tried, later.opened⟩
    else search configuration rest

/-- The backend that simulates a device; it always has one. -/
def simulator : Probe Simulator where
  name := "dummy"
  find configuration := .ok (some (.initial configuration.simulator))

/-- The backends that are probed when nothing else is said. -/
def standard : List (Probe Simulator) :=
  [simulator]

end Backend

end HostChannel
