import Kubepark.Cluster

/-!
# The objects of a sandbox

`internal/controller/podspec` and the names of `rbacnames.go` : the names of the objects a
sandbox owns, its labels, and the pod, home claim and network policy rendered from the
sandbox and its template. All of it is pure.

Each name is a fixed text followed by the sandbox's name, so different sandboxes of a
namespace have different objects of each kind (`podName_inj` and its siblings).
-/

namespace Kubepark

/-! ## Names and labels -/

/-- Holds the sandbox name on all owned resources. -/
def labelSandbox : String :=
  "kubepark.dev/sandbox"

/-- Holds the sandbox UID for cross-namespace garbage collection. -/
def labelSandboxUID : String :=
  "kubepark.dev/sandbox-uid"

/-- Marks kubepark-managed pods. -/
def labelComponent : String :=
  "kubepark.dev/component"

/-- The standard managed-by label. -/
def labelManagedBy : String :=
  "app.kubernetes.io/managed-by"

/-- Marks Roles and RoleBindings produced from an AccessProfile. -/
def labelProfile : String :=
  "kubepark.dev/profile"

/-- The `labelManagedBy` value on all kubepark-created objects. -/
def managedByValue : String :=
  "kubepark"

def componentSandbox : String :=
  "sandbox"

def componentGateway : String :=
  "gateway"

/-- The in-pod SSH port served by the agent. -/
def agentPort : Nat :=
  2222

def homeMountPath : String :=
  "/home/sandbox"

def agentDir : String :=
  "/opt/kubepark"

def annotationSafeToEvict : String :=
  "cluster-autoscaler.kubernetes.io/safe-to-evict"

def volumeHome : String :=
  "home"

def volumeAgent : String :=
  "kubepark-bin"

def volumeHostKey : String :=
  "kubepark-host"

def hostKeyMountPath : String :=
  "/etc/kubepark/host"

def podName (sandbox : String) : String :=
  "kubepark-sb-" ++ sandbox

def pvcName (sandbox : String) : String :=
  "kubepark-home-" ++ sandbox

def hostKeyName (sandbox : String) : String :=
  "kubepark-hostkey-" ++ sandbox

def netPolName (sandbox : String) : String :=
  "kubepark-sb-" ++ sandbox

def saName (sandbox : String) : String :=
  "kubepark-sb-" ++ sandbox

/-- The shared Role a profile has in each of its grant namespaces. -/
def profileRoleName (profile : String) : String :=
  "kubepark-ap-" ++ profile

/-- The RoleBinding of a sandbox in each grant namespace. -/
def roleBindingName (sandbox : String) : String :=
  "kubepark-sb-" ++ sandbox

theorem podName_inj {a b : String} : podName a = podName b ↔ a = b :=
  String.append_right_inj _

theorem netPolName_inj {a b : String} : netPolName a = netPolName b ↔ a = b :=
  String.append_right_inj _

theorem saName_inj {a b : String} : saName a = saName b ↔ a = b :=
  String.append_right_inj _

theorem roleBindingName_inj {a b : String} : roleBindingName a = roleBindingName b ↔ a = b :=
  String.append_right_inj _

theorem profileRoleName_inj {a b : String} : profileRoleName a = profileRoleName b ↔ a = b :=
  String.append_right_inj _

/-- The labels of everything a sandbox owns. -/
def labels (sb : Sandbox) : List (String × String) :=
  [(labelSandbox, sb.metadata.name), (labelSandboxUID, sb.metadata.uid),
    (labelComponent, componentSandbox), (labelManagedBy, "kubepark")]

/-- The names a sandbox's host certificate is issued for. -/
def fqdnPrincipals (sb : Sandbox) : List String :=
  [sb.metadata.name ++ "." ++ sb.metadata.namespaceName]

/-- The claim a sandbox's pod mounts as its home. -/
def homeClaim (sb : Sandbox) : String :=
  match sb.spec.home with
  | some home => if home.existingClaim ≠ "" then home.existingClaim else pvcName sb.metadata.name
  | none => pvcName sb.metadata.name

/-! ## The pod and the home claim -/

/-- The inputs of `buildPod` beyond the sandbox and its template. -/
structure PodOptions where
  agentImage : String
  priorityClassName : String
  /-- Carries AccessProfile grants. When empty the pod runs without a mounted token. -/
  serviceAccountName : String

/-- The executor pod. -/
def buildPod (sb : Sandbox) (tpl : SandboxTemplate) (opts : PodOptions) : Pod :=
  let runAsUser := tpl.spec.runAsUser.getD 1000
  let containerSecurity : SecurityContext :=
    { allowPrivilegeEscalation := false, dropCapabilities := ["ALL"] }
  { metadata :=
      { name := podName sb.metadata.name
        namespaceName := sb.metadata.namespaceName
        labels := labels sb
        annotations := [(annotationSafeToEvict, "false")] }
    spec :=
      { restartPolicy := "Always"
        hostname := sb.metadata.name
        serviceAccountName := opts.serviceAccountName
        automountServiceAccountToken := opts.serviceAccountName ≠ ""
        terminationGracePeriodSeconds := 30
        securityContext :=
          { runAsNonRoot := true
            runAsUser := runAsUser
            fsGroup := runAsUser
            seccompProfile := "RuntimeDefault" }
        initContainers :=
          [{ name := "agent-install"
             image := opts.agentImage
             args := ["agent", "install", agentDir]
             securityContext := containerSecurity
             volumeMounts := [{ name := volumeAgent, mountPath := agentDir }] }]
        containers :=
          [{ name := "sandbox"
             image := tpl.spec.image
             command := [agentDir ++ "/agent"]
             args := if tpl.spec.command.isEmpty then [] else "--" :: tpl.spec.command
             env :=
               [{ name := "HOME", value := homeMountPath },
                 { name := "KUBEPARK_SANDBOX", value := sb.metadata.name },
                 { name := "KUBEPARK_NAMESPACE", value := sb.metadata.namespaceName },
                 { name := "KUBEPARK_OWNER", value := sb.spec.owner.name }] ++ tpl.spec.env
             ports := ⟨"ssh", agentPort, .tcp⟩ ::
               sb.spec.exposedPorts.map fun p => ⟨p.name, p.port, .tcp⟩
             resources := tpl.spec.resources
             securityContext := containerSecurity
             volumeMounts :=
               [{ name := volumeHome, mountPath := homeMountPath },
                 { name := volumeAgent, mountPath := agentDir, readOnly := true },
                 { name := volumeHostKey, mountPath := hostKeyMountPath, readOnly := true }] }]
        volumes :=
          [⟨volumeHome, .persistentVolumeClaim (homeClaim sb)⟩, ⟨volumeAgent, .emptyDir⟩,
            ⟨volumeHostKey, .secret (hostKeyName sb.metadata.name) 0o400⟩]
        priorityClassName := opts.priorityClassName
        runtimeClassName :=
          if tpl.spec.isolationLevel = .strong then tpl.spec.runtimeClassName else none }
    status := {} }

/-- The home claim of a sandbox without `existingClaim`. -/
def buildPVC (sb : Sandbox) (tpl : SandboxTemplate) : PersistentVolumeClaim where
  metadata :=
    { name := pvcName sb.metadata.name
      namespaceName := sb.metadata.namespaceName
      labels := labels sb }
  spec :=
    { accessModes := ["ReadWriteOnce"]
      storageClassName := (sb.spec.home.bind (·.storageClassName)).or tpl.spec.storageClassName
      storage := (sb.spec.home.bind (·.size)).getD tpl.spec.homeSize }
  status := ()

/-- The claim a pod mounts as its home. -/
def Pod.homeClaim (pod : Pod) : Option String :=
  (pod.spec.volumes.find? fun v => v.name = volumeHome).bind fun v =>
    match v.source with
    | .persistentVolumeClaim claimName => some claimName
    | _ => none

@[simp] theorem homeClaim_buildPod (sb : Sandbox) (tpl : SandboxTemplate) (opts : PodOptions) :
    Pod.homeClaim (buildPod sb tpl opts) = some (homeClaim sb) := by
  simp [Pod.homeClaim, buildPod, volumeHome]

@[simp] theorem key_buildPod (sb : Sandbox) (tpl : SandboxTemplate) (opts : PodOptions) :
    (buildPod sb tpl opts).key = ⟨sb.metadata.namespaceName, podName sb.metadata.name⟩ :=
  rfl

/-! ## The network policy -/

/-- One resolved API-server address. -/
structure APIServerEndpoint where
  ip : String
  port : Nat
  deriving DecidableEq

structure NetPolOptions where
  /-- Where gateway pods run. -/
  gatewayNamespace : String
  /-- The resolved `kubernetes.default` endpoints. -/
  apiServerEndpoints : List APIServerEndpoint

/-- `corev1.LabelMetadataName`. -/
def labelMetadataName : String :=
  "kubernetes.io/metadata.name"

/-- The default-deny policy : ingress from gateway pods only, egress to DNS, the API server
and what the template adds. -/
def buildNetworkPolicy (sb : Sandbox) (tpl : SandboxTemplate) (opts : NetPolOptions) :
    NetworkPolicy where
  metadata :=
    { name := netPolName sb.metadata.name
      namespaceName := sb.metadata.namespaceName
      labels := labels sb }
  spec :=
    { podSelector := ⟨[(labelSandboxUID, sb.metadata.uid)]⟩
      policyTypes := [.ingress, .egress]
      ingress :=
        [{ peers :=
             [{ namespaceSelector := some ⟨[(labelMetadataName, opts.gatewayNamespace)]⟩
                podSelector := some ⟨[(labelComponent, componentGateway)]⟩ }]
           ports := { protocol := some .tcp, port := some (.int agentPort) } ::
             sb.spec.exposedPorts.map fun p =>
               { protocol := some .tcp, port := some (.int p.port) } }]
      egress :=
        { peers :=
            [{ namespaceSelector := some ⟨[(labelMetadataName, "kube-system")]⟩
               podSelector := some ⟨[("k8s-app", "kube-dns")]⟩ }]
          ports :=
            [{ protocol := some .udp, port := some (.int 53) },
              { protocol := some .tcp, port := some (.int 53) }] } ::
        (opts.apiServerEndpoints.map fun ep =>
          { peers := [{ ipBlock := some { cidr := ep.ip ++ "/32" } }]
            ports := [{ protocol := some .tcp, port := some (.int ep.port) }] }) ++
        tpl.spec.egress }
  status := ()

@[simp] theorem key_buildNetworkPolicy (sb : Sandbox) (tpl : SandboxTemplate)
    (opts : NetPolOptions) : (buildNetworkPolicy sb tpl opts).key =
      ⟨sb.metadata.namespaceName, netPolName sb.metadata.name⟩ :=
  rfl

/-- The policy denies by default in both directions. -/
def NetworkPolicySpec.defaultDeny (p : NetworkPolicySpec) : Bool :=
  p.policyTypes.contains .ingress && p.policyTypes.contains .egress

end Kubepark
