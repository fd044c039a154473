import CapkReconciler.Basic
import CapkReconciler.Conditions
import CapkReconciler.Store
import CapkReconciler.BootstrapSecret
import CapkReconciler.Reconciler
import CapkReconciler.Effects
import CapkReconciler.Finalizer
import CapkReconciler.Status
import CapkReconciler.Watches
import CapkReconciler.Stall
import CapkReconciler.Base64
import CapkReconciler.UserData
import CapkReconciler.Replay
import CapkReconciler.Ownership
import CapkReconciler.Tooling
import CapkReconciler.Progress
import CapkReconciler.Independence
import CapkReconciler.Errexit
import CapkReconciler.Requests
import CapkReconciler.VirtualMachines
import CapkReconciler.OwnedConditions
import CapkReconciler.Failures
import CapkReconciler.TransitionTimes
import CapkReconciler.BackedStatus
import CapkReconciler.BootstrapPhase
import CapkReconciler.BootstrapFeedback
import CapkReconciler.Deletion
