import Kubepark.SandboxRbac

/-!
# The home volume

The home part of `sandbox_controller.go` : the guard that keeps two sandboxes off one
claim (`claimConflict`), the home claim of a pass (`reconcileHome`), and what becomes of
it when the sandbox is deleted (`applyHomeRetainPolicy`).
-/

namespace Kubepark

open ApiServer Client

/-- Marks retained home claims whose sandbox is gone. -/
def labelOrphanedHome : String :=
  "kubepark.dev/orphaned-home"

/-- `ctrl.Result`. A `requeueAfter` of zero means no requeue. -/
structure Result where
  requeueAfter : Duration := 0
  deriving DecidableEq, Repr

/-- The claim named by `home.existingClaim`. -/
def existingClaim (sb : Sandbox) : Option String :=
  match sb.spec.home with
  | some home => if home.existingClaim ≠ "" then some home.existingClaim else none
  | none => none

/-- Whether `a` beats `b` in the claim tie-break : older creation wins, the UID breaks
exact ties. -/
def wins (a b : Sandbox) : Bool :=
  if a.metadata.creationTimestamp ≠ b.metadata.creationTimestamp then
    a.metadata.creationTimestamp < b.metadata.creationTimestamp
  else a.metadata.uid < b.metadata.uid

/-- The sandbox a generated claim name belongs to. -/
def ownerOfGeneratedClaim (claim : String) : Option String :=
  let generated := "kubepark-home-".toList
  if generated.length < claim.toList.length ∧ claim.toList.take generated.length = generated then
    some (String.ofList (claim.toList.drop generated.length))
  else none

/-- Whether the guard of `sb` yields the claim to the candidate `other`. -/
def blocks (sb other : Sandbox) : Bool :=
  if other.metadata.uid = sb.metadata.uid || other.deleting then false
  else if other.spec.desiredState = .stopped ∧ other.status.phase = .suspended then false
  else wins other sb

/-- A generated claim may be owned by a sandbox that does not name it : that sandbox, if it
is there and not `sb` itself. -/
def generatedClaimOwner (sb : Sandbox) (claim : String) : SandboxM (List Sandbox) := do
  match ownerOfGeneratedClaim claim with
  | some owner =>
    if owner ≠ sb.metadata.name then
      let ownerSb ← getOptional Kind.sandbox ⟨sb.metadata.namespaceName, owner⟩
      pure ownerSb.toList
    else pure []
  | none => pure []

/-- The name of another sandbox that uses the same claim and wins the tie-break; empty when
there is none. -/
def claimConflict (sb : Sandbox) (claim : String) : SandboxM String := do
  let others ← list Kind.sandbox fun o =>
    inNamespace sb.metadata.namespaceName o && existingClaim o = some claim
  let owner ← generatedClaimOwner sb claim
  pure (((others ++ owner).find? (blocks sb)).elim "" (·.metadata.name))

/-- The home claim is there : record it. -/
def homeReady (sb : Sandbox) (claim : String) : SandboxM (Option Result) := do
  Routine.modify fun st => { st with pvcName := claim }
  setCondition sb .homeReady .true .provisioning "home volume ready"
  pure none

/-- The home claim cannot be used : the pass ends here. -/
def homeBlocked (sb : Sandbox) (reason : ConditionReason) (message : String) (result : Result) :
    SandboxM (Option Result) := do
  Routine.modify fun st => { st with phase := .pending }
  setCondition sb .homeReady .false reason message
  pure (some result)

/-- Ensure the home claim. A result means that the pass stops with it. -/
def reconcileHome (sb : Sandbox) : SandboxM (Option Result) := do
  match existingClaim sb with
  | some claim =>
    let conflict ← claimConflict sb claim
    if conflict ≠ "" then
      homeBlocked sb .claimInUse
        ("claim " ++ quote claim ++ " is in use by sandbox " ++ quote conflict)
        { requeueAfter := 30 * second }
    else
      match ← getOptional Kind.persistentVolumeClaim ⟨sb.metadata.namespaceName, claim⟩ with
      | none => homeBlocked sb .invalidRef ("existing claim " ++ quote claim ++ " not found") {}
      | some _ => homeReady sb claim
  | none =>
    let tpl ← Client.get Kind.sandboxTemplate ⟨"", sb.spec.template⟩
    match ← getOptional Kind.persistentVolumeClaim
        ⟨sb.metadata.namespaceName, pvcName sb.metadata.name⟩ with
    | none =>
      createIfAbsent Kind.persistentVolumeClaim (buildPVC sb tpl)
      homeReady sb (pvcName sb.metadata.name)
    | some _ => homeReady sb (pvcName sb.metadata.name)

/-- What becomes of the home claim when the sandbox is deleted. A claim of
`existingClaim` is never touched. -/
def applyHomeRetainPolicy {σ : Type} (sb : Sandbox) : ClientM σ Unit := do
  match existingClaim sb with
  | some _ => pure ()
  | none =>
    match ← getOptional Kind.persistentVolumeClaim
        ⟨sb.metadata.namespaceName, pvcName sb.metadata.name⟩ with
    | none => pure ()
    | some pvc =>
      if (sb.spec.home.map (·.retainPolicy)) = some .delete then
        deleteIfPresent Kind.persistentVolumeClaim pvc.key "applyHomeRetainPolicy"
      else
        let labels := (labelOrphanedHome, "true") ::
          pvc.metadata.labels.filter fun l => l.1 ≠ labelOrphanedHome
        updateIfPresent Kind.persistentVolumeClaim { pvc with metadata.labels := labels }

end Kubepark
