import Kubepark.SandboxHome

/-!
# The sandbox controller

`sandbox_controller.go` : one pass of `reconcile` over a sandbox. `reconcileSandbox` writes
the children and works out the next status in memory; `reconcile` persists that status
once, also when the pass ended with an error. `suspend` and `run` are the two ends of the
state machine, `finalize` the teardown of a sandbox that is being deleted.
-/

namespace Kubepark

open ApiServer Client

/-- The configuration of the controller. `templateHash` is the hash of the JSON encoding of
a template spec; `operatorNamespace` is the namespace the operator runs in. -/
structure SandboxReconciler where
  agentImage : String
  priorityClassName : String
  gatewayNamespace : String
  operatorNamespace : String
  templateHash : SandboxTemplateSpec → String

def sandboxFinalizer : String :=
  "kubepark.dev/finalizer"

def hostCertValidity : Duration :=
  10 * 365 * 24 * 3600 * second

namespace SandboxReconciler

variable (r : SandboxReconciler)

/-- The per-sandbox host key Secret. -/
def buildHostKeySecret (sb : Sandbox) (key : KeyPair) (cert : Certificate) (userCAPub : Blob) :
    Secret where
  metadata :=
    { name := hostKeyName sb.metadata.name
      namespaceName := sb.metadata.namespaceName
      labels := labels sb }
  spec :=
    { data :=
        [("ssh_host_ed25519_key", key.privatePEM),
          ("ssh_host_ed25519_key.pub", key.publicAuthorized),
          ("ssh_host_ed25519_key-cert.pub", .certAuthorized cert), ("user-ca.pub", userCAPub)] }
  status := ()

/-- Create the host key Secret once, so the host identity is stable across suspend and
resume. -/
def reconcileHostKey (sb : Sandbox) : SandboxM Unit := do
  match ← getOptional Kind.secret ⟨sb.metadata.namespaceName, hostKeyName sb.metadata.name⟩ with
  | some _ => pure ()
  | none =>
    let caSecret ← ensureCASecret r.operatorNamespace
    let hostCA ← Routine.ofExcept
      ((parseSigner (Secret.entry caSecret keyHostCAPrivate)).mapError (.wrap "parse host CA"))
    let key ← generateKeyPair ("kubepark-host-" ++ sb.metadata.name)
    let hostPub ← Routine.ofExcept (parsePublicKey key.publicAuthorized)
    let t ← now
    let cert ← signHostCert hostCA hostPub (fqdnPrincipals sb) hostCertValidity t
    createIfAbsent Kind.secret (setControllerReference sb
      (buildHostKeySecret sb key cert (Secret.entry caSecret keyUserCAPublic)))

/-! ## Network policy -/

/-- The ready addresses of one slice, each with each port. -/
def sliceEndpoints (slice : EndpointSlice) : List APIServerEndpoint :=
  (slice.spec.endpoints.filter fun ep => ep.ready ≠ some false).flatMap fun ep =>
    ep.addresses.flatMap fun addr => (slice.spec.ports.filterMap id).map fun port => ⟨addr, port⟩

/-- The endpoints of `kubernetes.default`. -/
def apiServerEndpoints : SandboxM (List APIServerEndpoint) := do
  let listed ← tryList Kind.endpointSlice fun o =>
    inNamespace "default" o && matchingLabel "kubernetes.io/service-name" "kubernetes" o
  let slices ← Routine.ofExcept
    (listed.mapError (.wrap "resolve kubernetes.default endpoint slices"))
  pure (slices.flatMap sliceEndpoints)

def effectiveGatewayNamespace : String :=
  if r.gatewayNamespace ≠ "" then r.gatewayNamespace else r.operatorNamespace

/-- The policy of a sandbox for the given endpoints, owned by the sandbox. -/
def desiredNetworkPolicy (sb : Sandbox) (tpl : SandboxTemplate)
    (endpoints : List APIServerEndpoint) : NetworkPolicy :=
  setControllerReference sb (buildNetworkPolicy sb tpl
    { gatewayNamespace := r.effectiveGatewayNamespace, apiServerEndpoints := endpoints })

/-- Keep the default-deny policy in sync. -/
def reconcileNetworkPolicy (sb : Sandbox) (tpl : SandboxTemplate) : SandboxM Unit := do
  let endpoints ← apiServerEndpoints
  let desired := r.desiredNetworkPolicy sb tpl endpoints
  match ← getOptional Kind.networkPolicy desired.key with
  | none => createIfAbsent Kind.networkPolicy desired
  | some existing =>
    if existing.spec ≠ desired.spec then
      let _ ← update Kind.networkPolicy { existing with spec := desired.spec }
    else pure ()

/-! ## The idle clock -/

/-- The live Active sessions of the sandbox. -/
def activeSessionCount (sb : Sandbox) : SandboxM Nat := do
  let sessions ← list Kind.sandboxSession (inNamespace sb.metadata.namespaceName)
  pure (sessions.countP fun s =>
    s.spec.sandboxName = sb.metadata.name ∧ s.status.state = .active)

/-- The sandbox's idle timeout, then the template's; zero disables idle suspension. -/
def effectiveIdleTimeout (sb : Sandbox) (tpl : SandboxTemplate) : Duration :=
  match sb.spec.idleTimeout with
  | some d => d
  | none => tpl.spec.defaultIdleTimeout.getD 0

/-- Whether the idle window has elapsed at `now`. -/
def idleExpired (lastActivity : Option Time) (timeout : Duration) (now : Time) : Bool :=
  match lastActivity with
  | none => false
  | some t => if timeout ≤ 0 then false else timeout < now - t

/-! ## Suspend and run -/

def podKey (sb : Sandbox) : ObjectKey :=
  ⟨sb.metadata.namespaceName, podName sb.metadata.name⟩

/-- Delete the pod while keeping claim, host key, RBAC and route. -/
def suspend (sb : Sandbox) : SandboxM Result := do
  Routine.modify fun st => { st with podIP := "" }
  match ← getOptional Kind.pod (podKey sb) with
  | none =>
    Routine.modify fun st => { st with phase := .suspended, podName := "" }
    setCondition sb .podReady .false .suspended "sandbox is suspended"
    setCondition sb .ready .false .suspended "sandbox is suspended"
    pure {}
  | some pod =>
    Routine.modify fun st => { st with phase := .suspending }
    if pod.deleting then pure {}
    else
      deleteIfPresent Kind.pod (podKey sb) "suspend"
      pure {}

/-- Whether the pod is running and its first Ready condition is true. -/
def podReady (pod : Pod) : Bool :=
  pod.status.phase = .running ∧
    (pod.status.conditions.find? fun c => c.type = .ready).map (·.status) = some .true

/-- Whether the pod is dead. -/
def podDead (pod : Pod) : Bool :=
  pod.status.phase = .failed ∨ pod.status.phase = .succeeded

def podPendingMessage (pod : Pod) : String :=
  match pod.status.conditions.find? fun c => c.type = .podScheduled ∧ c.status ≠ .true with
  | some c => "pod not scheduled: " ++ c.message
  | none => "waiting for sandbox pod to become ready"

/-- The pod of a pass : built from the current template. -/
def desiredPod (sb : Sandbox) (tpl : SandboxTemplate) (serviceAccount : String) : Pod :=
  setControllerReference sb (buildPod sb tpl
    { agentImage := r.agentImage
      priorityClassName := r.priorityClassName
      serviceAccountName := serviceAccount })

/-- `run` when there is no pod : create it. -/
def runCreate (sb : Sandbox) (tpl : SandboxTemplate) (currentHash serviceAccount : String) :
    SandboxM Result := do
  createIfAbsent Kind.pod (r.desiredPod sb tpl serviceAccount)
  Routine.modify fun st =>
    { st with
      templateHash := currentHash
      podName := podName sb.metadata.name
      phase :=
        if st.phase = .suspended ∨ st.phase = .suspending ∨ st.phase = .resuming then .resuming
        else .provisioning }
  setCondition sb .podReady .false .provisioning "creating sandbox pod"
  setCondition sb .ready .false .provisioning "creating sandbox pod"
  pure {}

/-- `run` when the pod is dead : delete it, to be recreated on the next pass. -/
def runDead (sb : Sandbox) (pod : Pod) : SandboxM Result := do
  if pod.deleting then pure () else deleteIfPresent Kind.pod (podKey sb) "run"
  Routine.modify fun st => { st with phase := .provisioning, podIP := "" }
  setCondition sb .podReady .false .provisioning ("pod " ++ pod.status.phase.text ++ ", recreating")
  pure { requeueAfter := 10 * second }

/-- `run` when the pod is ready : publish its address. The idle clock starts the first time
the sandbox gets here. -/
def runReady (sb : Sandbox) (pod : Pod) : SandboxM Unit := do
  let t ← now
  Routine.modify fun st =>
    { st with
      phase := .running
      lastActivityTime :=
        if st.phase ≠ .running ∧ st.lastActivityTime = none then some t else st.lastActivityTime
      podIP := pod.status.podIP }
  setCondition sb .podReady .true .running "sandbox pod is ready"
  setCondition sb .ready .true .running "sandbox is running"

/-- `run` when the pod is not ready yet. -/
def runPending (sb : Sandbox) (pod : Pod) : SandboxM Unit := do
  Routine.modify fun st =>
    { st with phase := if st.phase ≠ .resuming then .provisioning else .resuming, podIP := "" }
  setCondition sb .podReady .false .provisioning (podPendingMessage pod)
  setCondition sb .ready .false .provisioning "waiting for sandbox pod"

/-- Surface template drift. -/
def reportDrift (sb : Sandbox) (currentHash : String) : SandboxM Unit := do
  let st ← Routine.record
  if st.templateHash ≠ "" ∧ st.templateHash ≠ currentHash then
    setCondition sb .templateOutdated .true .outdated
      "template changed; the new template applies on the next suspend/resume cycle"
  else setCondition sb .templateOutdated .false .upToDate "pod matches the template"

/-- Ensure the executor pod exists and reflect its state into the status. -/
def run (sb : Sandbox) (tpl : SandboxTemplate) (currentHash serviceAccount : String) :
    SandboxM Result := do
  match ← getOptional Kind.pod (podKey sb) with
  | none => r.runCreate sb tpl currentHash serviceAccount
  | some pod =>
    Routine.modify fun st => { st with podName := pod.metadata.name }
    if podDead pod then runDead sb pod
    else
      if podReady pod then runReady sb pod else runPending sb pod
      reportDrift sb currentHash
      pure {}

/-! ## One pass -/

/-- The pass ends with the sandbox pending. -/
def pendingWith (sb : Sandbox) (reason : ConditionReason) (message : String) : SandboxM Result := do
  Routine.modify fun st => { st with phase := .pending }
  setCondition sb .ready .false reason message
  pure {}

/-- While running and idle-eligible, requeue at the idle deadline. -/
def idleRequeue (result : Result) (active : Nat) (timeout : Duration) (st : SandboxStatus)
    (now : Time) : Result :=
  match st.lastActivityTime with
  | none => result
  | some t =>
    if result.requeueAfter = 0 ∧ active = 0 ∧ 0 < timeout ∧ st.phase = .running then
      { requeueAfter := max (timeout - (now - t)) second }
    else result

/-- The desired-state machine, once every gate is passed. -/
def driveState (sb : Sandbox) (tpl : SandboxTemplate) (serviceAccount : String) :
    SandboxM Result := do
  if sb.spec.desiredState = .stopped then suspend sb
  else
    let active ← activeSessionCount sb
    Routine.modify fun st => { st with activeSessions := active }
    let st ← Routine.record
    let t ← now
    let timeout := effectiveIdleTimeout sb tpl
    if active = 0 ∧ idleExpired st.lastActivityTime timeout t then suspend sb
    else
      let result ← r.run sb tpl (r.templateHash tpl.spec) serviceAccount
      let st ← Routine.record
      let t ← now
      pure (idleRequeue result active timeout st t)

/-- Compute the children and the next status. -/
def reconcileSandbox (sb : Sandbox) : SandboxM Result := do
  match ← getOptional Kind.sandboxTemplate ⟨"", sb.spec.template⟩ with
  | none =>
    pendingWith sb .invalidRef ("SandboxTemplate " ++ quote sb.spec.template ++ " not found")
  | some tpl =>
    match ← reconcileHome sb with
    | some requeue => pure requeue
    | none =>
      r.reconcileHostKey sb
      r.reconcileNetworkPolicy sb tpl
      let rbac ← reconcileRBAC sb
      if rbac.ready then r.driveState sb tpl rbac.serviceAccount
      else pendingWith sb .provisioning "waiting on access profile"

/-- Persist the status, if it changed. -/
def patchStatus {σ : Type} (sb : Sandbox) (status : SandboxStatus) : ClientM σ Unit := do
  if sb.status = status then pure ()
  else
    let _ ← updateStatusIfPresent Kind.sandbox { sb with status := status }

/-! ## Teardown -/

/-- Mark any open sessions of the sandbox Closed. -/
def closeSessions {σ : Type} (sb : Sandbox) : ClientM σ Unit := do
  let sessions ← list Kind.sandboxSession (inNamespace sb.metadata.namespaceName)
  let t ← now
  Routine.forEach sessions fun s =>
    if s.spec.sandboxName ≠ sb.metadata.name ∨ s.status.state ≠ .active then pure ()
    else do
      let _ ← updateStatusIfPresent Kind.sandboxSession
        { s with
          status := { s.status with
            state := .closed, endTime := some t, exitReason := .sandboxDeleted } }

/-- The namespace-local children, in the order they are deleted. -/
def ownedChildren (sb : Sandbox) : List (Kind × String) :=
  [(.pod, podName sb.metadata.name), (.secret, hostKeyName sb.metadata.name),
    (.networkPolicy, netPolName sb.metadata.name), (.serviceAccount, saName sb.metadata.name)]

/-- Record that the sandbox is terminating; the object as the server returns it. -/
def markTerminating {σ : Type} (sb : Sandbox) : ClientM σ Sandbox := do
  if sb.status.phase = .terminating then pure sb
  else
    let sb := { sb with status.phase := .terminating }
    let updated ← updateStatusIfPresent Kind.sandbox sb
    pure (updated.getD sb)

/-- Clean owned resources and apply the home retain policy. -/
def finalize {σ : Type} (sb : Sandbox) : ClientM σ Result := do
  if !sb.metadata.finalizers.contains sandboxFinalizer then pure {}
  else
    let sb ← markTerminating sb
    Routine.forEach (ownedChildren sb) fun child =>
      deleteIfPresent child.1 ⟨sb.metadata.namespaceName, child.2⟩ "finalize"
    gcRBAC sb none
    closeSessions sb
    applyHomeRetainPolicy sb
    let _ ← update Kind.sandbox
      { sb with metadata.finalizers := sb.metadata.finalizers.filter (· ≠ sandboxFinalizer) }
    pure {}

/-- The sandbox with its finalizer, as the server returns it. -/
def ensureFinalizer {σ : Type} (sb : Sandbox) : ClientM σ Sandbox := do
  if sb.metadata.finalizers.contains sandboxFinalizer then pure sb
  else
    update Kind.sandbox
      { sb with metadata.finalizers := sb.metadata.finalizers ++ [sandboxFinalizer] }

/-- The part of a pass over a sandbox that is not being deleted. -/
def reconcileLive (sb : Sandbox) : ClientM Unit Result := do
  let sb ← ensureFinalizer sb
  let (result, status) ← (r.reconcileSandbox sb).runFrom
    { sb.status with observedGeneration := sb.metadata.generation }
  let (updated, _) ← (patchStatus sb status : ClientM Unit Unit).runFrom ()
  let result ← Routine.ofExcept result
  Routine.ofExcept updated
  pure result

/-- One pass over the sandbox under `key`. -/
def reconcile (key : ObjectKey) : ClientM Unit Result := do
  match ← getOptional Kind.sandbox key with
  | none => pure {}
  | some sb => if sb.deleting then finalize sb else r.reconcileLive sb

end SandboxReconciler

end Kubepark
