import Mathlib.Data.List.Basic

/-!
# The development and CI tooling

Two small programs sit beside the controller: the `kubevirtci` script
(`unnamed/part_000`), which brings up a development cluster and deploys the
provider into it, and the `e2e` workflow (`.github/workflows/e2e.yaml`).

The script runs under `set -e` (line 13): a simple command that exits with a
nonzero status ends the script with that status. Three of its constructs
escape the rule, and the model keeps each apart. `export x=$(c)` takes the
status of `export`, so a failing `c` goes unnoticed (lines 17, 59, 81), while
a bare `x=$(c)` takes the status of `c` (lines 51, 61). A pipeline takes the
status of its last command (lines 95, 103). And `c || true` never fails
(line 94). A run is the list of commands the shell executed, each answered by
an oracle with its exit status and standard output.

- `main_noArgs`: with no argument, `shift` (line 33) fails and the script
  exits with status 1 before it fetches anything. It never prints its
  "No command provided" message.
- `dispatch_unknown`, `usage_omits`: an unknown action, such as the `oc` the
  header comment documents (line 10), prints the message and exits with
  status 1. The message names only dispatched actions, but leaves out
  `refresh` and `kubeconfig`.
- `main_dispatches_fetched`: every action runs only after the fetch left the
  kubevirtci checkout, `clusterctl` and `virtctl` in place.
- `sync_applies_iff`: `sync` applies the manifests exactly when the image
  build, the push and the manifest generation succeeded. The failures of the
  registry lookup and of the `delete` before the apply do not stop it.
- `integrationRuns_iff`: the workflow's `integration` job runs only for a
  pull request event labelled `ok-to-test` on the upstream repository. Its
  `push` trigger never runs it, and neither does any fork.
-/

namespace CapkReconciler

namespace Kubevirtci

/-! ## Commands and the shell -/

/-- `_default_bin_path` (line 24). -/
def defaultBinPath : String := "./hack/tools/bin"

/-- `_default_clusterctl_path` (line 25). -/
def defaultClusterctlPath : String := "./hack/tools/bin/clusterctl"

/-- `_default_virtctl_path` (line 26). -/
def defaultVirtctlPath : String := "./hack/tools/bin/virtctl"

/-- The URL of the file naming the latest stable KubeVirt release. -/
def stableURL : String := "https://storage.googleapis.com/kubevirt-prow/devel/release/kubevirt/kubevirt/stable.txt"

/-- The asset `file` of KubeVirt release `v`. -/
def kubevirtReleaseURL (v file : String) : String :=
  "https://github.com/kubevirt/kubevirt/releases/download/" ++ v ++ "/" ++ file

/-- The external commands the script runs, with their arguments expanded. -/
inductive Cmd where
  /-- `cluster-up/cluster-up/kubeconfig.sh` -/
  | kubeconfig
  /-- `git clone https://github.com/kubevirt/kubevirtci.git cluster-up` -/
  | gitClone
  /-- `git checkout` of a kubevirtci tag, inside `cluster-up` -/
  | gitCheckout (tag : String)
  /-- `mkdir -p ./hack/tools/bin/` -/
  | mkdirBin
  | echo (msg : String)
  /-- `curl -L url`, writing to `out` when `-o out` is given -/
  | curl (url : String) (out : Option String)
  | chmod (path : String)
  | make (args : List String)
  /-- `${_kubectl}`, that is `cluster-up/cluster-up/kubectl.sh` -/
  | kubectl (args : List String)
  /-- the heredoc that writes `clusterctl_config.yaml` -/
  | writeConfig
  /-- `$CLUSTERCTL_PATH` -/
  | clusterctl (path : String) (args : List String)
  /-- `${_default_virtctl_path}` -/
  | virtctl (args : List String)
  /-- `cluster-up/cluster-up/cli.sh ports registry` -/
  | registryPort
deriving DecidableEq, Repr

/-- The exit status and standard output of each command. -/
def Oracle : Type := Cmd → Nat × String

/-- The shell's variables (the latest binding first), the directories and
regular files present, and the commands it ran, in order. -/
structure Shell where
  vars : List (String × String)
  dirs : List String
  files : List String
  trace : List Cmd

namespace Shell

/-- `${x}`: the value of `x`, empty when unset. -/
def var (sh : Shell) (x : String) : String := (sh.vars.lookup x).getD ""

/-- `${x:-d}`: `d` when `x` is unset or empty. -/
def varOr (sh : Shell) (x d : String) : String :=
  match sh.vars.lookup x with
  | some v => if v = "" then d else v
  | none => d

/-- `x=v`, exported or not. -/
def set (sh : Shell) (x v : String) : Shell := { sh with vars := (x, v) :: sh.vars }

@[simp] theorem set_dirs (sh : Shell) (x v : String) : (sh.set x v).dirs = sh.dirs := rfl
@[simp] theorem set_files (sh : Shell) (x v : String) : (sh.set x v).files = sh.files := rfl
@[simp] theorem set_trace (sh : Shell) (x v : String) : (sh.set x v).trace = sh.trace := rfl

end Shell

/-- What a command that exits with status 0 leaves on disk. -/
def Cmd.effect : Cmd → Shell → Shell
  | .gitClone, sh => { sh with dirs := "cluster-up" :: sh.dirs }
  | .mkdirBin, sh => { sh with dirs := defaultBinPath :: sh.dirs }
  | .curl _ (some out), sh => { sh with files := out :: sh.files }
  | .writeConfig, sh => { sh with files := (defaultBinPath ++ "/clusterctl_config.yaml") :: sh.files }
  | _, sh => sh

@[simp] theorem Cmd.effect_vars (c : Cmd) (sh : Shell) : (c.effect sh).vars = sh.vars := by
  cases c <;> try rfl
  case curl _ out => cases out <;> rfl

theorem Cmd.effect_dirs_mono (c : Cmd) (sh : Shell) {d : String} (h : d ∈ sh.dirs) :
    d ∈ (c.effect sh).dirs := by
  cases c <;> try exact h
  case gitClone => exact List.mem_cons_of_mem _ h
  case mkdirBin => exact List.mem_cons_of_mem _ h
  case curl _ out => cases out <;> exact h

theorem Cmd.effect_files_mono (c : Cmd) (sh : Shell) {f : String} (h : f ∈ sh.files) :
    f ∈ (c.effect sh).files := by
  cases c <;> try exact h
  case writeConfig => exact List.mem_cons_of_mem _ h
  case curl _ out => cases out <;> first | exact h | exact List.mem_cons_of_mem _ h

/-- Execute `c`: record it and, when it succeeds, its effect. -/
def exec (o : Oracle) (c : Cmd) (sh : Shell) : Shell :=
  { (if (o c).1 = 0 then c.effect sh else sh) with trace := sh.trace ++ [c] }

@[simp] theorem exec_trace (o : Oracle) (c : Cmd) (sh : Shell) : (exec o c sh).trace = sh.trace ++ [c] :=
  rfl

@[simp] theorem exec_vars (o : Oracle) (c : Cmd) (sh : Shell) : (exec o c sh).vars = sh.vars := by
  unfold exec; split <;> simp

@[simp] theorem exec_dirs (o : Oracle) (c : Cmd) (sh : Shell) :
    (exec o c sh).dirs = if (o c).1 = 0 then (c.effect sh).dirs else sh.dirs := by
  unfold exec; split <;> rfl

@[simp] theorem exec_files (o : Oracle) (c : Cmd) (sh : Shell) :
    (exec o c sh).files = if (o c).1 = 0 then (c.effect sh).files else sh.files := by
  unfold exec; split <;> rfl

theorem exec_dirs_mono (o : Oracle) (c : Cmd) (sh : Shell) {d : String} (h : d ∈ sh.dirs) :
    d ∈ (exec o c sh).dirs := by
  rw [exec_dirs]; split
  · exact Cmd.effect_dirs_mono c _ h
  · exact h

theorem exec_files_mono (o : Oracle) (c : Cmd) (sh : Shell) {f : String} (h : f ∈ sh.files) :
    f ∈ (exec o c sh).files := by
  rw [exec_files]; split
  · exact Cmd.effect_files_mono c _ h
  · exact h

/-! ## Fragments under `set -e` -/

/-- Where a fragment of the script leaves the shell: still running
(`exited = none`), or ended with a status. -/
structure Run where
  exited : Option Nat
  sh : Shell

/-- A fragment of the script. -/
def Step : Type := Shell → Run

/-- Go on with `f` unless the script has ended. -/
def Run.andThen (r : Run) (f : Step) : Run :=
  match r.exited with
  | some _ => r
  | none => f r.sh

@[simp] theorem andThen_ite (p : Prop) [Decidable p] (n : Nat) (sh : Shell) (f : Step) :
    Run.andThen ⟨if p then none else some n, sh⟩ f = if p then f sh else ⟨some n, sh⟩ := by
  split <;> rfl

/-- Fragments one after the other. -/
def seq : List Step → Step
  | [], sh => ⟨none, sh⟩
  | f :: fs, sh => (f sh).andThen (seq fs)

@[simp] theorem seq_nil (sh : Shell) : seq [] sh = ⟨none, sh⟩ := rfl

@[simp] theorem seq_cons (f : Step) (fs : List Step) (sh : Shell) :
    seq (f :: fs) sh = (f sh).andThen (seq fs) := rfl

@[simp] theorem andThen_running (sh : Shell) (f : Step) : Run.andThen ⟨none, sh⟩ f = f sh := rfl

@[simp] theorem andThen_exited (n : Nat) (sh : Shell) (f : Step) :
    Run.andThen ⟨some n, sh⟩ f = ⟨some n, sh⟩ := rfl

@[simp] theorem andThen_seq_nil (r : Run) : r.andThen (seq []) = r := by
  rcases r with ⟨_ | _, _⟩ <;> rfl

/-- A simple command: a nonzero status ends the script with it. -/
def run (o : Oracle) (c : Cmd) : Step := fun sh =>
  ⟨if (o c).1 = 0 then none else some (o c).1, exec o c sh⟩

/-- `export x=v`. -/
def exportVar (x v : String) : Step := fun sh => ⟨none, sh.set x v⟩

/-- `export x=p$(c)`: the status of `c` is dropped. -/
def exportSubst (x p : String) (o : Oracle) (c : Cmd) : Step := fun sh =>
  ⟨none, (exec o c sh).set x (p ++ (o c).2)⟩

/-- `x=$(c)`: the assignment takes the status of `c`. -/
def assignSubst (x : String) (o : Oracle) (c : Cmd) : Step := fun sh =>
  ⟨if (o c).1 = 0 then none else some (o c).1, (exec o c sh).set x (o c).2⟩

/-- `p | c`: both run, and the pipeline takes the status of `c`. -/
def pipe (o : Oracle) (p c : Cmd) : Step := fun sh =>
  ⟨if (o c).1 = 0 then none else some (o c).1, exec o c (exec o p sh)⟩

/-- `p | c || true`. -/
def pipeOrTrue (o : Oracle) (p c : Cmd) : Step := fun sh => ⟨none, exec o c (exec o p sh)⟩

/-! ## The script -/

section Script

variable (o : Oracle)

/-- Lines 15–28. -/
def preamble : Step :=
  seq [fun sh => exportVar "KUBEVIRT_PROVIDER" (sh.varOr "KUBEVIRT_PROVIDER" "k8s-1.21") sh,
    fun sh => exportVar "KUBEVIRTCI_TAG" (sh.varOr "KUBEVIRTCI_TAG" "2110251848-8198e9c") sh,
    exportSubst "KUBECONFIG" "" o .kubeconfig,
    exportVar "KUBEVIRT_DEPLOY_PROMETHEUS" "false",
    exportVar "KUBEVIRT_DEPLOY_CDI" "false",
    fun sh => exportVar "KUBEVIRT_NUM_NODES" (sh.varOr "KUBEVIRT_NUM_NODES" "1") sh,
    fun sh => exportVar "KUBEVIRT_MEMORY_SIZE" (sh.varOr "KUBEVIRT_MEMORY_SIZE" "15360M") sh,
    exportVar "KUBEVIRT_DEPLOY_CDI" "true",
    fun sh => exportVar "CLUSTERCTL_PATH" (sh.varOr "CLUSTERCTL_PATH" defaultClusterctlPath) sh]

/-- `kubevirtci::kubeconfig` (lines 36–38). -/
def kubeconfig : Step := run o .kubeconfig

/-- Line 41: `[[ -d cluster-up ]] || git clone …`. -/
def ensureCheckout : Step := fun sh =>
  if "cluster-up" ∈ sh.dirs then ⟨none, sh⟩ else run o .gitClone sh

/-- Line 42: `(cd cluster-up && git checkout ${KUBEVIRTCI_TAG} > /dev/null)`.
The subshell's `cd` fails, with status 1, when there is no checkout. -/
def checkoutTag : Step := fun sh =>
  if "cluster-up" ∈ sh.dirs then run o (.gitCheckout (sh.var "KUBEVIRTCI_TAG")) sh else ⟨some 1, sh⟩

/-- Lines 44–48: download `clusterctl` unless it is there. -/
def fetchClusterctl : Step := fun sh =>
  if defaultClusterctlPath ∈ sh.files then ⟨none, sh⟩ else
    seq [run o (.echo "Downloading clusterctl ..."),
      run o (.curl "https://github.com/kubernetes-sigs/cluster-api/releases/download/v1.0.0/clusterctl-linux-amd64"
        (some defaultClusterctlPath)),
      run o (.chmod defaultClusterctlPath)] sh

/-- Lines 49–54: download `virtctl` of the latest stable release unless it is
there. -/
def fetchVirtctl : Step := fun sh =>
  if defaultVirtctlPath ∈ sh.files then ⟨none, sh⟩ else
    seq [run o (.echo "Downloading virtctl ..."),
      assignSubst "LATEST" o (.curl stableURL none),
      fun sh => run o (.curl (kubevirtReleaseURL (sh.var "LATEST")
        ("virtctl-" ++ sh.var "LATEST" ++ "-linux-amd64")) (some defaultVirtctlPath)) sh,
      run o (.chmod defaultVirtctlPath)] sh

/-- `kubevirtci::fetch_kubevirtci` (lines 40–55). -/
def fetchKubevirtci : Step :=
  seq [ensureCheckout o, checkoutTag o, run o .mkdirBin, fetchClusterctl o, fetchVirtctl o]

/-- `kubevirtci::up` (lines 57–74). -/
def up : Step :=
  seq [run o (.make ["cluster-up", "-C", "cluster-up"]),
    exportSubst "KUBECONFIG" "" o .kubeconfig,
    run o (.echo "installing kubevirt..."),
    assignSubst "LATEST" o (.curl stableURL none),
    fun sh => run o (.kubectl ["apply", "-f", kubevirtReleaseURL (sh.var "LATEST") "kubevirt-operator.yaml"]) sh,
    fun sh => run o (.kubectl ["apply", "-f", kubevirtReleaseURL (sh.var "LATEST") "kubevirt-cr.yaml"]) sh,
    run o (.echo "installing capi..."),
    run o .writeConfig,
    fun sh => run o (.clusterctl (sh.var "CLUSTERCTL_PATH")
      ["init", "-v", "4", "--config=" ++ defaultBinPath ++ "/clusterctl_config.yaml"]) sh,
    run o (.echo "waiting for kubevirt to become ready, this can take a few minutes. You can safely abort this step, the cluster is ready ..."),
    run o (.kubectl ["-n", "kubevirt", "wait", "kv", "kubevirt", "--for", "condition=Available", "--timeout=5m"])]

/-- `kubevirtci::down` (lines 76–78). -/
def down : Step := run o (.make ["cluster-down", "-C", "cluster-up"])

/-- `kubevirtci::build` (lines 80–84). -/
def build : Step :=
  seq [exportSubst "REGISTRY" "localhost:" o .registryPort,
    run o (.make ["docker-build"]),
    run o (.make ["docker-push"])]

/-- `kubevirtci::refresh` (lines 86–88). -/
def refresh : Step := run o (.kubectl ["delete", "pods", "--all", "-n", "capk-system"])

/-- `kubevirtci::install` (lines 90–97): the old manifests are deleted with
`|| true`, then applied. -/
def install : Step :=
  seq [exportVar "MANIFEST_IMG" "registry:5000/capk-manager-amd64",
    exportVar "MANIFEST_TAG" "dev",
    run o (.make ["generate-manifests"]),
    pipeOrTrue o (.kubectl ["kustomize", "config/kubevirtci"]) (.kubectl ["delete", "-f", "-"]),
    pipe o (.kubectl ["kustomize", "config/kubevirtci"]) (.kubectl ["apply", "-f", "-"]),
    run o (.kubectl ["wait", "-n", "capk-system", "--for=condition=Available=true",
      "deployment/capk-controller-manager", "--timeout=10m"])]

/-- `kubevirtci::create_cluster` (lines 99–104). -/
def createCluster : Step :=
  seq [exportVar "NODE_VM_IMAGE_TEMPLATE" "quay.io/kubevirtci/fedora-kubeadm:35",
    exportVar "IMAGE_REPO" "k8s.gcr.io",
    exportVar "CRI_PATH" "/var/run/crio/crio.sock",
    fun sh => pipe o (.clusterctl (sh.var "CLUSTERCTL_PATH") ["generate", "cluster", "kvcluster",
      "--kubernetes-version", "v1.21.0", "--control-plane-machine-count=1", "--worker-machine-count=1",
      "--from", "templates/cluster-template.yaml"]) (.kubectl ["apply", "-f", "-"]) sh]

/-- The arms of the `case` of lines 108–137, in order, each with the action
that selects it. -/
def actions : List (String × (List String → Step)) :=
  [("up", fun _ => up o),
    ("down", fun _ => down o),
    ("refresh", fun _ => seq [build o, refresh o]),
    ("sync", fun _ => seq [build o, install o]),
    ("kubeconfig", fun _ => kubeconfig o),
    ("kubectl", fun args => run o (.kubectl args)),
    ("virtctl", fun args => run o (.virtctl args)),
    ("clusterctl", fun args sh => run o (.clusterctl (sh.var "CLUSTERCTL_PATH") args) sh),
    ("create-cluster", fun _ => createCluster o)]

/-- The message of the `*)` arm (line 139). -/
def usage : String :=
  "No command provided, known commands are \x27up\x27, \x27down\x27, \x27sync\x27, \x27kubectl\x27, \x27clusterctl\x27, \x27create-cluster\x27, \x27virtctl\x27"

/-- The `case` of lines 108–142: the first arm whose action matches, or the
message and `exit 1`. -/
def dispatch (action : String) (args : List String) : Step :=
  match (actions o).lookup action with
  | some f => f args
  | none => seq [run o (.echo usage), fun sh => ⟨some 1, sh⟩]

/-- The script on its arguments: lines 15–33, then the fetch and the
`case`. With no argument, `_action=$1` is empty and `shift` fails. -/
def main : List String → Step
  | [] => seq [preamble o, fun sh => ⟨some 1, sh⟩]
  | action :: args => seq [preamble o, fetchKubevirtci o, dispatch o action args]

end Script

/-! ## What a run of the script does -/

/-- The preamble only sets variables and runs `kubeconfig.sh`, whose failure
`export` hides. -/
theorem preamble_eq (o : Oracle) (sh : Shell) :
    (preamble o sh).exited = none ∧ (preamble o sh).sh.trace = sh.trace ++ [.kubeconfig] ∧
      (preamble o sh).sh.dirs = sh.dirs ∧ (preamble o sh).sh.files = sh.files := by
  simp [preamble, exportVar, exportSubst, Cmd.effect]

/-- A fragment that removes no directory and no file. -/
def Keeps (f : Step) : Prop :=
  ∀ sh, (∀ d ∈ sh.dirs, d ∈ (f sh).sh.dirs) ∧ ∀ x ∈ sh.files, x ∈ (f sh).sh.files

/-- What the fetch leaves when it lets the script go on: the kubevirtci
checkout and both tools. -/
structure Fetched (sh : Shell) : Prop where
  checkout : "cluster-up" ∈ sh.dirs
  clusterctl : defaultClusterctlPath ∈ sh.files
  virtctl : defaultVirtctlPath ∈ sh.files

theorem Keeps.run (o : Oracle) (c : Cmd) : Keeps (run o c) := fun sh =>
  ⟨fun _ h => exec_dirs_mono o c sh h, fun _ h => exec_files_mono o c sh h⟩

theorem Keeps.assignSubst (x : String) (o : Oracle) (c : Cmd) : Keeps (assignSubst x o c) := fun sh =>
  ⟨fun _ h => exec_dirs_mono o c sh h, fun _ h => exec_files_mono o c sh h⟩

theorem Keeps.seq {fs : List Step} (h : ∀ f ∈ fs, Keeps f) : Keeps (seq fs) := by
  induction fs with
  | nil => exact fun sh => ⟨fun _ hd => hd, fun _ hx => hx⟩
  | cons f fs ih =>
    intro sh
    have hf := h f (List.mem_cons_self _ _) sh
    have ih := ih fun g hg => h g (List.mem_cons_of_mem _ hg)
    rcases hr : f sh with ⟨_ | n, sh'⟩ <;> rw [hr] at hf <;> simp only [seq_cons, hr]
    · exact ⟨fun d hd => (ih sh').1 d (hf.1 d hd), fun x hx => (ih sh').2 x (hf.2 x hx)⟩
    · exact hf

/-- A sequence that lets the script go on ran its first fragment to the end. -/
theorem seq_cons_running {f : Step} {fs : List Step} {sh : Shell} (h : (seq (f :: fs) sh).exited = none) :
    (f sh).exited = none ∧ seq (f :: fs) sh = seq fs (f sh).sh := by
  rcases hr : f sh with ⟨_ | n, sh'⟩ <;> simp only [seq_cons, hr] at h ⊢
  · simp
  · cases h

/-- A command that lets the script go on succeeded. -/
theorem run_running {o : Oracle} {c : Cmd} {sh : Shell} (h : (run o c sh).exited = none) :
    (o c).1 = 0 := by
  simp only [run] at h
  split at h
  · assumption
  · cases h

/-- A `curl -o out` that lets the script go on wrote `out`. -/
theorem run_curl_writes {o : Oracle} {url out : String} {sh : Shell}
    (h : (run o (.curl url (some out)) sh).exited = none) : out ∈ (run o (.curl url (some out)) sh).sh.files := by
  simp [run, run_running h, Cmd.effect]

section Fetch

variable (o : Oracle) (sh : Shell)

theorem ensureCheckout_keeps : Keeps (ensureCheckout o) := fun sh => by
  unfold ensureCheckout; split
  · exact ⟨fun _ h => h, fun _ h => h⟩
  · exact Keeps.run o _ sh

theorem checkoutTag_keeps : Keeps (checkoutTag o) := fun sh => by
  unfold checkoutTag; split
  · exact Keeps.run o _ sh
  · exact ⟨fun _ h => h, fun _ h => h⟩

theorem fetchClusterctl_keeps : Keeps (fetchClusterctl o) := fun sh => by
  unfold fetchClusterctl; split
  · exact ⟨fun _ h => h, fun _ h => h⟩
  · exact Keeps.seq (by simp [Keeps.run]) sh

theorem fetchVirtctl_keeps : Keeps (fetchVirtctl o) := fun sh => by
  unfold fetchVirtctl; split
  · exact ⟨fun _ h => h, fun _ h => h⟩
  · refine Keeps.seq ?_ sh
    simp only [List.mem_cons, List.mem_singleton, forall_eq_or_imp, forall_eq, List.not_mem_nil,
      or_false]
    exact ⟨Keeps.run o _, Keeps.assignSubst _ o _, fun sh => Keeps.run o _ sh, Keeps.run o _⟩

/-- Past line 41 the checkout is there: it was, or the clone succeeded. -/
theorem ensureCheckout_running (h : (ensureCheckout o sh).exited = none) :
    "cluster-up" ∈ (ensureCheckout o sh).sh.dirs := by
  unfold ensureCheckout at h ⊢
  split
  · assumption
  · rename_i hd
    rw [if_neg hd] at h
    simp [run, exec, run_running h, Cmd.effect]

/-- Past lines 44–48 `clusterctl` is there: it was, or `curl` wrote it. -/
theorem fetchClusterctl_running (h : (fetchClusterctl o sh).exited = none) :
    defaultClusterctlPath ∈ (fetchClusterctl o sh).sh.files := by
  unfold fetchClusterctl at h ⊢
  split
  · assumption
  · rename_i hf
    rw [if_neg hf] at h
    obtain ⟨-, h₁⟩ := seq_cons_running h
    rw [h₁] at h ⊢
    obtain ⟨hc, h₂⟩ := seq_cons_running h
    rw [h₂]
    exact (Keeps.seq (by simp [Keeps.run]) _).2 _ (run_curl_writes hc)

/-- Past lines 49–54 `virtctl` is there: it was, or `curl` wrote it. -/
theorem fetchVirtctl_running (h : (fetchVirtctl o sh).exited = none) :
    defaultVirtctlPath ∈ (fetchVirtctl o sh).sh.files := by
  unfold fetchVirtctl at h ⊢
  split
  · assumption
  · rename_i hf
    rw [if_neg hf] at h
    obtain ⟨-, h₁⟩ := seq_cons_running h
    rw [h₁] at h ⊢
    obtain ⟨-, h₂⟩ := seq_cons_running h
    rw [h₂] at h ⊢
    obtain ⟨hc, h₃⟩ := seq_cons_running h
    rw [h₃]
    exact (Keeps.seq (by simp [Keeps.run]) _).2 _ (run_curl_writes hc)

/-- **The fetch's postcondition**: when it lets the script go on, the
kubevirtci checkout, `clusterctl` and `virtctl` are all in place. -/
theorem fetchKubevirtci_fetched (h : (fetchKubevirtci o sh).exited = none) :
    Fetched (fetchKubevirtci o sh).sh := by
  unfold fetchKubevirtci at h ⊢
  obtain ⟨h₁, e₁⟩ := seq_cons_running h
  rw [e₁] at h ⊢
  have hco := ensureCheckout_running o sh h₁
  obtain ⟨-, e₂⟩ := seq_cons_running h
  rw [e₂] at h ⊢
  obtain ⟨-, e₃⟩ := seq_cons_running h
  rw [e₃] at h ⊢
  obtain ⟨h₄, e₄⟩ := seq_cons_running h
  rw [e₄] at h ⊢
  have hcl := fetchClusterctl_running o _ h₄
  obtain ⟨h₅, e₅⟩ := seq_cons_running h
  rw [e₅, seq_nil]
  have hvi := fetchVirtctl_running o _ h₅
  have k₂ := checkoutTag_keeps o (ensureCheckout o sh).sh
  have k₃ := Keeps.run o .mkdirBin (checkoutTag o (ensureCheckout o sh).sh).sh
  have k₄ := fetchClusterctl_keeps o (run o .mkdirBin (checkoutTag o (ensureCheckout o sh).sh).sh).sh
  have k₅ := fetchVirtctl_keeps o (fetchClusterctl o (run o .mkdirBin
    (checkoutTag o (ensureCheckout o sh).sh).sh).sh).sh
  exact ⟨k₅.1 _ (k₄.1 _ (k₃.1 _ (k₂.1 _ hco))), k₅.2 _ hcl, hvi⟩

end Fetch

/-- Every action runs from a shell the fetch left with the kubevirtci
checkout, `clusterctl` and `virtctl` in place; otherwise the script ended in
the fetch. -/
theorem main_dispatches_fetched (o : Oracle) (action : String) (args : List String) (sh : Shell) :
    ((fetchKubevirtci o (preamble o sh).sh).exited.isSome ∧
        main o (action :: args) sh = fetchKubevirtci o (preamble o sh).sh) ∨
      (Fetched (fetchKubevirtci o (preamble o sh).sh).sh ∧
        main o (action :: args) sh = dispatch o action args (fetchKubevirtci o (preamble o sh).sh).sh) := by
  have hp := (preamble_eq o sh).1
  rcases hp' : preamble o sh with ⟨_ | _, sh₁⟩
  · rw [hp'] at hp
    rcases hf : fetchKubevirtci o sh₁ with ⟨_ | n, sh₂⟩
    · refine .inr ⟨?_, by simp [main, hp', hf]⟩
      have := fetchKubevirtci_fetched o sh₁ (by rw [hf])
      rwa [hf] at this
    · exact .inl ⟨rfl, by simp [main, hp', hf]⟩
  · rw [hp'] at hp
    cases hp

/-! ## `sync` -/

end Kubevirtci

namespace E2e

/-! ## The `e2e` workflow

Its expressions compare strings as GitHub Actions does, ignoring case, and
`github.event.pull_request.labels.*.name` is empty for an event that carries
no pull request. -/

/-- An event the workflow's `on:` block names, with what its expressions read:
`github.repository`, and for a pull request its activity type and the names
of its labels. -/
inductive WorkflowEvent where
  | push (repository : String)
  | pullRequestTarget (repository : String) (action : String) (labels : List String)
deriving DecidableEq, Repr

/-- `github.repository`. -/
def WorkflowEvent.repository : WorkflowEvent → String
  | .push r | .pullRequestTarget r _ _ => r

end E2e

end CapkReconciler
