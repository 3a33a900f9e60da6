import Diameter.Daemon.Basic

/-!
# The life of a daemon

A daemon offers its metrics first, if it should, and runs until a signal comes or something
fails. Whatever ends it, the shutdown is raised in the end.
-/

namespace Diameter.Daemon

/-- How the life of a daemon ends. -/
structure Ending where
  /-- Whether it failed. -/
  result : Except DaemonError Unit
  /-- Why the shutdown was raised first, if it was. -/
  reason : Option ShutdownReason

/-- Offers metrics at the address that is set, if they are to be offered. -/
def openMetrics (network : Network) (settings : ObservabilitySettings) :
    Except DaemonError Unit :=
  if settings.metricsEnabled = false then .ok ()
  else
    match SocketAddress.ofText? settings.metricsAddress with
    | none => .error (.metrics .address)
    | some address =>
      (network.exportMetrics address).mapError fun text => .metrics (.exporter text)

/-- The life of a daemon that gets this signal once it is ready. Without a signal a daemon
that could start goes on, and nothing is returned. -/
def run (machine : Machine) (settings : Settings) (signal : Option String) : Option Ending :=
  match openMetrics machine.network settings.observability with
  | .error e => some ⟨.error e, none⟩
  | .ok _ =>
    match start machine settings .new with
    | (.error e, r) =>
      some ⟨.error e, (r.trigger .requested).2.surroundings.shutdown.reason⟩
    | (.ok d, _) =>
      signal.map fun name =>
        let (result, d) := (d.trigger (.signal name)).2.wait
        ⟨result, (d.trigger .requested).2.registry.surroundings.shutdown.reason⟩

end Diameter.Daemon
