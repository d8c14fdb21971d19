import Kubepark.Sshca

/-!
# Access profiles into RBAC

`sandbox_rbac.go`. `reconcileRBAC` gives a sandbox with a permitted profile a
ServiceAccount and, in each grant namespace, a RoleBinding to the profile's Role; without
one it removes the RoleBindings it finds. RoleBindings are written under a name made of
the sandbox's name (`applyRoleBinding`) and collected by a label that holds the sandbox's
UID (`gcRBAC`).
-/

namespace Kubepark

open ApiServer Client

/-- A routine of the sandbox controller. Its record is the status to be persisted. -/
abbrev SandboxM := ClientM SandboxStatus

/-- Set a condition of the status to be persisted. -/
def setCondition (sb : Sandbox) (type : ConditionType) (status : ConditionStatus)
    (reason : ConditionReason) (message : String) : SandboxM Unit :=
  Routine.modify fun st =>
    { st with
      conditions := setStatusCondition
        ⟨type, status, reason, message, sb.metadata.generation⟩ st.conditions }

/-- `controllerutil.SetControllerReference`. -/
def setControllerReference {k : Kind} (sb : Sandbox) (o : Obj k) : Obj k :=
  { o with metadata.ownerReferences := [sb.metadata.uid] }

/-- The outcome of RBAC reconciliation. -/
structure RBACResult where
  /-- The ServiceAccount of the pod, empty without a profile. -/
  serviceAccount : String := ""
  /-- False when the profile is missing or not permitted. -/
  ready : Bool := false

/-- The namespaces of `ns` that are not in `seen`, each once, in order. -/
def dedup (seen : List String) : List String → List String
  | [] => []
  | ns :: l => if ns ∈ seen then dedup seen l else ns :: dedup (ns :: seen) l

/-- The namespaces a profile grants into, each once. -/
def grantNamespaces (profile : AccessProfile) : List String :=
  dedup [] (profile.spec.grants.flatMap (·.namespaces))

/-- The ServiceAccount of a sandbox under a profile. -/
def buildServiceAccount (sb : Sandbox) (profile : AccessProfile) : ServiceAccount where
  metadata :=
    { name := saName sb.metadata.name
      namespaceName := sb.metadata.namespaceName
      labels := labels sb
      annotations :=
        [("kubepark.dev/owner", sb.spec.owner.name),
          ("kubepark.dev/access-profile", profile.metadata.name)] }
  spec := ()
  status := ()

/-- The subject that stands for the ServiceAccount of `sb`. -/
def saSubject (sb : Sandbox) : Subject :=
  ⟨"ServiceAccount", saName sb.metadata.name, sb.metadata.namespaceName⟩

/-- The RoleBinding of a sandbox under a profile in the namespace `ns`. -/
def buildRoleBinding (sb : Sandbox) (profile : AccessProfile) (ns : String) : RoleBinding where
  metadata :=
    { name := roleBindingName sb.metadata.name
      namespaceName := ns
      labels :=
        [(labelSandboxUID, sb.metadata.uid), (labelProfile, profile.metadata.name),
          (labelManagedBy, managedByValue)] }
  spec :=
    { roleRef := ⟨"rbac.authorization.k8s.io", "Role", profileRoleName profile.metadata.name⟩
      subjects := [saSubject sb] }
  status := ()

/-- Create a namespace-local object owned by the sandbox, if it is not there. -/
def ensureOwned {k : Kind} (sb : Sandbox) (o : Obj k) : SandboxM Unit :=
  createIfAbsent k (setControllerReference sb o)

/-- Create the RoleBinding, or bring the one that is there in line. A RoleRef is immutable,
so a change of it means delete and recreate. -/
def applyRoleBinding (desired : RoleBinding) : SandboxM Unit := do
  match ← getOptional Kind.roleBinding desired.key with
  | none => createIfAbsent Kind.roleBinding desired
  | some existing =>
    if existing.spec.roleRef ≠ desired.spec.roleRef then
      deleteIfPresent Kind.roleBinding existing.key "applyRoleBinding"
      createIfAbsent Kind.roleBinding desired
    else if existing.spec.subjects ≠ desired.spec.subjects then
      let _ ← update Kind.roleBinding { existing with spec.subjects := desired.spec.subjects }
    else pure ()

/-- Delete the RoleBindings labelled with the sandbox's UID outside the namespaces of
`keep`; without `keep`, all of them. -/
def gcRBAC {σ : Type} (sb : Sandbox) (keep : Option (List String)) : ClientM σ Unit := do
  let bindings ← list Kind.roleBinding (matchingLabel labelSandboxUID sb.metadata.uid)
  Routine.forEach bindings fun rb =>
    if (keep.getD []).contains rb.metadata.namespaceName then pure ()
    else deleteIfPresent Kind.roleBinding rb.key "gcRBAC"

/-- Collect every RoleBinding and report why there are no credentials. -/
def withoutCredentials (sb : Sandbox) (status : ConditionStatus) (reason : ConditionReason)
    (message : String) (ready : Bool) : SandboxM RBACResult := do
  gcRBAC sb none
  Routine.modify fun st => { st with serviceAccountName := "" }
  setCondition sb .rbacReady status reason message
  pure { ready := ready }

/-- Translate the referenced AccessProfile into a ServiceAccount and RoleBindings. -/
def reconcileRBAC (sb : Sandbox) : SandboxM RBACResult := do
  if sb.spec.accessProfile = "" then
    withoutCredentials sb .true .running "no access profile; sandbox has no cluster credentials"
      true
  else
    match ← getOptional Kind.accessProfile ⟨"", sb.spec.accessProfile⟩ with
    | none =>
      withoutCredentials sb .false .profileDeleted
        ("AccessProfile " ++ quote sb.spec.accessProfile ++ " not found") false
    | some profile =>
      if sb.metadata.namespaceName ∉ profile.spec.allowedNamespaces then
        withoutCredentials sb .false .profileNotPermitted
          ("namespace " ++ quote sb.metadata.namespaceName ++ " is not in AccessProfile " ++
            quote profile.metadata.name ++ " allowedNamespaces") false
      else
        ensureOwned sb (buildServiceAccount sb profile)
        Routine.forEach (grantNamespaces profile) fun ns =>
          applyRoleBinding (buildRoleBinding sb profile ns)
        gcRBAC sb (some (grantNamespaces profile))
        Routine.modify fun st => { st with serviceAccountName := saName sb.metadata.name }
        setCondition sb .rbacReady .true .running
          ("bound to AccessProfile " ++ quote profile.metadata.name ++ " in " ++
            toString (grantNamespaces profile).length ++ " namespace(s)")
        pure { serviceAccount := saName sb.metadata.name, ready := true }

end Kubepark
