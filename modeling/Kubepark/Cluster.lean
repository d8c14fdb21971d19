import Kubepark.ApiClient
import Kubepark.Types

/-!
# The cluster

The kinds of objects the controllers and the gateway work on, as an instance of the API
server. Pods are deleted gracefully : they stay, with a deletion timestamp, until the
kubelet is done with them. `SandboxTemplate`, `AccessProfile` and `Namespace` are
cluster-scoped.
-/

namespace Kubepark

inductive Kind
  | sandbox
  | sandboxTemplate
  | accessProfile
  | sandboxSession
  | pod
  | persistentVolumeClaim
  | secret
  | networkPolicy
  | serviceAccount
  | roleBinding
  | role
  | namespace
  | endpointSlice
  deriving DecidableEq, Repr

/-- What an object of a kind asks for. Kinds without a `spec` field have their data here. -/
@[reducible] def Spec : Kind → Type
  | .sandbox => SandboxSpec
  | .sandboxTemplate => SandboxTemplateSpec
  | .accessProfile => AccessProfileSpec
  | .sandboxSession => SandboxSessionSpec
  | .pod => PodSpec
  | .persistentVolumeClaim => PersistentVolumeClaimSpec
  | .secret => SecretSpec
  | .networkPolicy => NetworkPolicySpec
  | .serviceAccount => Unit
  | .roleBinding => RoleBindingSpec
  | .role => RoleSpec
  | .namespace => Unit
  | .endpointSlice => EndpointSliceSpec

/-- What is observed of an object of a kind. -/
@[reducible] def Status : Kind → Type
  | .sandbox => SandboxStatus
  | .sandboxTemplate => Unit
  | .accessProfile => AccessProfileStatus
  | .sandboxSession => SandboxSessionStatus
  | .pod => PodStatus
  | .persistentVolumeClaim => Unit
  | .secret => Unit
  | .networkPolicy => Unit
  | .serviceAccount => Unit
  | .roleBinding => Unit
  | .role => Unit
  | .namespace => Unit
  | .endpointSlice => Unit

instance : ∀ k, DecidableEq (Spec k)
  | .sandbox => inferInstanceAs (DecidableEq SandboxSpec)
  | .sandboxTemplate => inferInstanceAs (DecidableEq SandboxTemplateSpec)
  | .accessProfile => inferInstanceAs (DecidableEq AccessProfileSpec)
  | .sandboxSession => inferInstanceAs (DecidableEq SandboxSessionSpec)
  | .pod => inferInstanceAs (DecidableEq PodSpec)
  | .persistentVolumeClaim => inferInstanceAs (DecidableEq PersistentVolumeClaimSpec)
  | .secret => inferInstanceAs (DecidableEq SecretSpec)
  | .networkPolicy => inferInstanceAs (DecidableEq NetworkPolicySpec)
  | .serviceAccount => inferInstanceAs (DecidableEq Unit)
  | .roleBinding => inferInstanceAs (DecidableEq RoleBindingSpec)
  | .role => inferInstanceAs (DecidableEq RoleSpec)
  | .namespace => inferInstanceAs (DecidableEq Unit)
  | .endpointSlice => inferInstanceAs (DecidableEq EndpointSliceSpec)

instance : ∀ k, Inhabited (Status k)
  | .sandbox => ⟨({} : SandboxStatus)⟩
  | .sandboxTemplate => ⟨()⟩
  | .accessProfile => ⟨({} : AccessProfileStatus)⟩
  | .sandboxSession => ⟨({} : SandboxSessionStatus)⟩
  | .pod => ⟨({} : PodStatus)⟩
  | .persistentVolumeClaim => ⟨()⟩
  | .secret => ⟨()⟩
  | .networkPolicy => ⟨()⟩
  | .serviceAccount => ⟨()⟩
  | .roleBinding => ⟨()⟩
  | .role => ⟨()⟩
  | .namespace => ⟨()⟩
  | .endpointSlice => ⟨()⟩

instance : KindInfo Kind where
  graceful k := k = .pod
  namespaced k := k ≠ .sandboxTemplate ∧ k ≠ .accessProfile ∧ k ≠ .namespace
  namespaceKind := .namespace

/-- An object of kind `k`. -/
abbrev Obj (k : Kind) := Object Spec Status k

abbrev Sandbox := Obj .sandbox
abbrev SandboxTemplate := Obj .sandboxTemplate
abbrev AccessProfile := Obj .accessProfile
abbrev SandboxSession := Obj .sandboxSession
abbrev Pod := Obj .pod
abbrev PersistentVolumeClaim := Obj .persistentVolumeClaim
abbrev Secret := Obj .secret
abbrev NetworkPolicy := Obj .networkPolicy
abbrev ServiceAccount := Obj .serviceAccount
abbrev RoleBinding := Obj .roleBinding
abbrev Role := Obj .role
abbrev EndpointSlice := Obj .endpointSlice

/-- The state of the API server. -/
abbrev Cluster := ApiServer Spec Status

/-- The calls of the API server. -/
abbrev Call := ApiServer.Op Spec Status

/-- A routine over the API server with local record `σ`. -/
abbrev ClientM (σ α : Type) := ApiServer.Client Spec Status σ α

/-- The cluster with nothing stored. -/
def Cluster.empty : Cluster where
  store _ := KeyedStore.empty

/-- The cluster that stores the given objects. -/
def Cluster.ofObjects (objs : (k : Kind) → List (Obj k)) (clock : Time) : Cluster where
  store k := KeyedStore.ofList (objs k)
  clock := clock

/-- `client.InNamespace`. -/
def inNamespace {k : Kind} (ns : String) (o : Obj k) : Bool :=
  o.metadata.namespaceName = ns

/-- `client.MatchingLabels` with one label. -/
def matchingLabel {k : Kind} (label value : String) (o : Obj k) : Bool :=
  o.metadata.labels.lookup label = some value

/-- How `%q` prints a name. -/
def quote (s : String) : String :=
  "\"" ++ s ++ "\""

end Kubepark
