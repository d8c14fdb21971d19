import Kubepark.ApiServer

/-!
# The API types

The custom resources of `api/v1alpha1` and, of the Kubernetes types, what the controllers
read and write. A string type with an enumeration marker is an inductive type; the zero
value of such a string, where it can occur, is `unset`. A map of strings is an association
list. Durations and instants are in nanoseconds, `resource.Quantity` is its value.

Private keys, public keys and certificates are symbolic (`Blob`) : a key is the number it
was generated from, and its encodings parse to it and to nothing else.
-/

namespace Kubepark

/-- `time.Duration`. -/
abbrev Duration := Int

/-- `time.Second`. -/
def second : Duration :=
  1000000000

/-- `resource.Quantity`. -/
abbrev Quantity := Nat

/-! ## Sandbox -/

inductive DesiredState
  | running
  | stopped
  deriving DecidableEq, Repr, Inhabited

inductive AuthMode
  | oidc
  | none
  deriving DecidableEq, Repr

inductive RetainPolicy
  | retain
  | delete
  deriving DecidableEq, Repr, Inhabited

/-- The human owner; `name` must be the principal of the SSH certificate. -/
structure OwnerSpec where
  name : String
  groups : List String := []
  deriving DecidableEq, Repr

structure ExposedPort where
  name : String
  port : Nat
  auth : AuthMode
  allowedUsers : List String := []
  allowedGroups : List String := []
  deriving DecidableEq, Repr

structure HomeSpec where
  size : Option Quantity := none
  storageClassName : Option String := none
  existingClaim : String := ""
  retainPolicy : RetainPolicy := .retain
  deriving DecidableEq, Repr

structure SandboxSpec where
  template : String
  accessProfile : String := ""
  owner : OwnerSpec
  desiredState : DesiredState := .running
  idleTimeout : Option Duration := none
  exposedPorts : List ExposedPort := []
  home : Option HomeSpec := none
  deriving DecidableEq, Repr

inductive SandboxPhase
  | unset
  | pending
  | provisioning
  | running
  | suspending
  | suspended
  | resuming
  | failed
  | terminating
  deriving DecidableEq, Repr, Inhabited

inductive ConditionType
  | ready
  | podReady
  | homeReady
  | rbacReady
  | templateOutdated
  | valid
  deriving DecidableEq, Repr

inductive ConditionStatus
  | true
  | false
  | unknown
  deriving DecidableEq, Repr

inductive ConditionReason
  | invalidRef
  | claimInUse
  | profileNotPermitted
  | profileDeleted
  | provisioning
  | suspended
  | running
  | upToDate
  | outdated
  | valid
  | missingNamespace
  deriving DecidableEq, Repr

/-- `metav1.Condition`. The transition time is left out : it moves only with `status`. -/
structure Condition where
  type : ConditionType
  status : ConditionStatus
  reason : ConditionReason
  message : String
  observedGeneration : Nat
  deriving DecidableEq, Repr

/-- `meta.SetStatusCondition` : one condition per type, overwritten in place. -/
def setStatusCondition (new : Condition) : List Condition → List Condition
  | [] => [new]
  | c :: l => if c.type = new.type then new :: l else c :: setStatusCondition new l

structure SandboxStatus where
  phase : SandboxPhase := .unset
  conditions : List Condition := []
  podName : String := ""
  pvcName : String := ""
  serviceAccountName : String := ""
  /-- The routing target for the gateway. -/
  podIP : String := ""
  templateHash : String := ""
  /-- Drives idle suspension. -/
  lastActivityTime : Option Time := none
  activeSessions : Nat := 0
  observedGeneration : Nat := 0
  deriving DecidableEq, Repr, Inhabited

/-! ## NetworkPolicy -/

inductive Protocol
  | tcp
  | udp
  | sctp
  deriving DecidableEq, Repr

/-- `intstr.IntOrString`. -/
inductive IntOrString
  | int (port : Nat)
  | str (name : String)
  deriving DecidableEq, Repr

/-- `metav1.LabelSelector` with `matchLabels` only. -/
structure LabelSelector where
  matchLabels : List (String × String) := []
  deriving DecidableEq, Repr

/-- Whether a selector picks an object with these labels. -/
def LabelSelector.selects (s : LabelSelector) (labels : List (String × String)) : Bool :=
  s.matchLabels.all fun l => labels.lookup l.1 = some l.2

structure IPBlock where
  cidr : String
  except : List String := []
  deriving DecidableEq, Repr

structure NetworkPolicyPeer where
  podSelector : Option LabelSelector := none
  namespaceSelector : Option LabelSelector := none
  ipBlock : Option IPBlock := none
  deriving DecidableEq, Repr

structure NetworkPolicyPort where
  protocol : Option Protocol := none
  port : Option IntOrString := none
  endPort : Option Nat := none
  deriving DecidableEq, Repr

structure NetworkPolicyRule where
  peers : List NetworkPolicyPeer := []
  ports : List NetworkPolicyPort := []
  deriving DecidableEq, Repr

inductive PolicyType
  | ingress
  | egress
  deriving DecidableEq, Repr

structure NetworkPolicySpec where
  podSelector : LabelSelector
  policyTypes : List PolicyType
  ingress : List NetworkPolicyRule
  egress : List NetworkPolicyRule
  deriving DecidableEq, Repr

/-! ## SandboxTemplate -/

/-- Where the value of a variable is taken from. -/
inductive EnvVarSource
  | fieldRef (fieldPath : String)
  | resourceFieldRef (containerName resource : String)
  | configMapKeyRef (name key : String) (optional : Bool)
  | secretKeyRef (name key : String) (optional : Bool)
  | fileKeyRef (volumeName path key : String) (optional : Bool)
  deriving DecidableEq, Repr

structure EnvVar where
  name : String
  value : String := ""
  valueFrom : Option EnvVarSource := none
  deriving DecidableEq, Repr

inductive IsolationLevel
  | standard
  | strong
  deriving DecidableEq, Repr, Inhabited

structure ResourceRequirements where
  limits : List (String × Quantity) := []
  requests : List (String × Quantity) := []
  deriving DecidableEq, Repr

structure SandboxTemplateSpec where
  image : String
  command : List String := []
  env : List EnvVar := []
  resources : ResourceRequirements := {}
  isolationLevel : IsolationLevel := .standard
  runtimeClassName : Option String := none
  homeSize : Quantity
  storageClassName : Option String := none
  /-- Rendered into the sandbox's network policy, on top of the built-in allowances. -/
  egress : List NetworkPolicyRule := []
  defaultIdleTimeout : Option Duration := none
  runAsUser : Option Int := none
  deriving DecidableEq, Repr

/-! ## AccessProfile -/

/-- `rbacv1.PolicyRule`. -/
structure PolicyRule where
  verbs : List String
  apiGroups : List String := []
  resources : List String := []
  resourceNames : List String := []
  nonResourceURLs : List String := []
  deriving DecidableEq, Repr

structure NamespacedGrant where
  namespaces : List String
  rules : List PolicyRule
  deriving DecidableEq, Repr

structure AccessProfileSpec where
  grants : List NamespacedGrant
  /-- The namespaces whose sandboxes may reference the profile. -/
  allowedNamespaces : List String := []
  deriving DecidableEq, Repr

structure AccessProfileStatus where
  conditions : List Condition := []
  observedGeneration : Nat := 0
  deriving DecidableEq, Repr, Inhabited

/-! ## SandboxSession -/

inductive SessionKind
  | ssh
  | http
  deriving DecidableEq, Repr

inductive SessionState
  | unset
  | active
  | closed
  deriving DecidableEq, Repr, Inhabited

inductive ExitReason
  | unset
  | disconnected
  | staleHeartbeat
  | sandboxDeleted
  deriving DecidableEq, Repr, Inhabited

structure SandboxSessionSpec where
  sandboxName : String
  user : String
  clientAddr : String := ""
  kind : SessionKind
  certSerial : String := ""
  heartbeatInterval : Option Duration := none
  deriving DecidableEq, Repr

structure SandboxSessionStatus where
  state : SessionState := .unset
  startTime : Option Time := none
  lastActivityTime : Option Time := none
  endTime : Option Time := none
  exitReason : ExitReason := .unset
  deriving DecidableEq, Repr, Inhabited

/-! ## Pod and PersistentVolumeClaim -/

structure ContainerPort where
  name : String
  containerPort : Nat
  protocol : Protocol
  deriving DecidableEq, Repr

structure VolumeMount where
  name : String
  mountPath : String
  readOnly : Bool := false
  deriving DecidableEq, Repr

/-- The security context of a container. -/
structure SecurityContext where
  allowPrivilegeEscalation : Bool
  dropCapabilities : List String
  deriving DecidableEq, Repr

structure Container where
  name : String
  image : String
  command : List String := []
  args : List String := []
  env : List EnvVar := []
  ports : List ContainerPort := []
  resources : ResourceRequirements := {}
  securityContext : SecurityContext
  volumeMounts : List VolumeMount
  deriving DecidableEq, Repr

inductive VolumeSource
  | persistentVolumeClaim (claimName : String)
  | emptyDir
  | secret (secretName : String) (defaultMode : Nat)
  deriving DecidableEq, Repr

structure Volume where
  name : String
  source : VolumeSource
  deriving DecidableEq, Repr

structure PodSecurityContext where
  runAsNonRoot : Bool
  runAsUser : Int
  fsGroup : Int
  seccompProfile : String
  deriving DecidableEq, Repr

structure PodSpec where
  restartPolicy : String
  hostname : String
  serviceAccountName : String
  automountServiceAccountToken : Bool
  terminationGracePeriodSeconds : Nat
  securityContext : PodSecurityContext
  initContainers : List Container
  containers : List Container
  volumes : List Volume
  priorityClassName : String := ""
  runtimeClassName : Option String := none
  deriving DecidableEq, Repr

inductive PodPhase
  | pending
  | running
  | succeeded
  | failed
  | unknown
  deriving DecidableEq, Repr, Inhabited

/-- How a `PodPhase` prints. -/
def PodPhase.text : PodPhase → String
  | pending => "Pending"
  | running => "Running"
  | succeeded => "Succeeded"
  | failed => "Failed"
  | unknown => "Unknown"

inductive PodConditionType
  | podScheduled
  | initialized
  | containersReady
  | ready
  deriving DecidableEq, Repr

structure PodCondition where
  type : PodConditionType
  status : ConditionStatus
  message : String := ""
  deriving DecidableEq, Repr

structure PodStatus where
  phase : PodPhase := .pending
  podIP : String := ""
  conditions : List PodCondition := []
  deriving DecidableEq, Repr, Inhabited

structure PersistentVolumeClaimSpec where
  accessModes : List String
  storageClassName : Option String
  /-- `resources.requests.storage`. -/
  storage : Quantity
  deriving DecidableEq, Repr

/-! ## Secrets, RBAC and endpoints -/

inductive CertType
  | user
  | host
  deriving DecidableEq, Repr

/-- `ssh.Certificate`. A key is the number it was generated from. -/
structure Certificate where
  key : Nat
  serial : Nat
  certType : CertType
  keyId : String
  validPrincipals : List String
  validAfter : Nat
  validBefore : Nat
  extensions : List String := []
  signatureKey : Nat
  deriving DecidableEq, Repr

/-- The byte strings that are stored in Secrets. -/
inductive Blob
  | privatePEM (key : Nat) (comment : String)
  | publicAuthorized (key : Nat)
  | certAuthorized (cert : Certificate)
  /-- Random bytes. -/
  | random (seed : Nat)
  | raw (text : String)
  deriving DecidableEq, Repr

structure SecretSpec where
  data : List (String × Blob)
  deriving DecidableEq, Repr

structure RoleRef where
  apiGroup : String
  kind : String
  name : String
  deriving DecidableEq, Repr

structure Subject where
  kind : String
  name : String
  namespaceName : String
  deriving DecidableEq, Repr

structure RoleBindingSpec where
  roleRef : RoleRef
  subjects : List Subject
  deriving DecidableEq, Repr

structure RoleSpec where
  rules : List PolicyRule
  deriving DecidableEq, Repr

structure Endpoint where
  addresses : List String
  /-- `conditions.ready`. -/
  ready : Option Bool := none
  deriving DecidableEq, Repr

structure EndpointSliceSpec where
  endpoints : List Endpoint
  ports : List (Option Nat)
  deriving DecidableEq, Repr

end Kubepark
