import Kubepark.IdleDeadline

/-!
# Waking a blocked sandbox

A pass that a gate stops leaves the sandbox Pending. Something has to bring the controller
back to it once the gate would open : the requeue the pass asks for, or one of the watches
that `SetupWithManager` registers. `requests` is what the watches make of an object that
has changed, and `Woken` that the sandbox is looked at again.

The gates read four kinds of objects. Templates and profiles are watched and mapped to the
sandboxes that name them; a claim that another sandbox holds is polled (`stoppedResult`).
A claim that does not exist yet is neither watched nor polled, and this is the only way
to miss a wake (`blocked_woken_iff`).
-/

namespace Kubepark

open ApiServer Client SandboxReconciler Routine

/-! ## The watches -/

def toRequests (items : List Sandbox) : List ObjectKey :=
  items.map Object.key

/-- The values of the index on `spec.template`. -/
def indexSandboxTemplate (sb : Sandbox) : List String :=
  [sb.spec.template]

/-- The values of the index on `spec.accessProfile`. -/
def indexSandboxAccessProfile (sb : Sandbox) : List String :=
  if sb.spec.accessProfile = "" then [] else [sb.spec.accessProfile]

/-- `client.MatchingFields` with one indexed field. -/
def matchingField (index : Sandbox → List String) (value : String) (sb : Sandbox) : Bool :=
  value ∈ index sb

/-- The requests for the sandboxes that `selector` picks, none where they cannot be listed. -/
def sandboxesWhere (selector : Sandbox → Bool) : ClientM Unit (List ObjectKey) := do
  match ← tryList Kind.sandbox selector with
  | .error _ => pure []
  | .ok sandboxes => pure (toRequests sandboxes)

/-- Re-queue every sandbox referencing a changed template. -/
def sandboxesForTemplate (obj : SandboxTemplate) : ClientM Unit (List ObjectKey) :=
  sandboxesWhere (matchingField indexSandboxTemplate obj.metadata.name)

/-- Re-queue every sandbox referencing a changed or deleted profile. -/
def sandboxesForAccessProfile (obj : AccessProfile) : ClientM Unit (List ObjectKey) :=
  sandboxesWhere (matchingField indexSandboxAccessProfile obj.metadata.name)

/-- Wake or idle the sandbox of a changed session. -/
def sandboxForSession (session : SandboxSession) : List ObjectKey :=
  if session.spec.sandboxName = "" then []
  else [⟨session.metadata.namespaceName, session.spec.sandboxName⟩]

/-- Re-render every network policy when the API server addresses move. -/
def sandboxesForAPIServerEndpoints (obj : EndpointSlice) : ClientM Unit (List ObjectKey) :=
  if obj.metadata.namespaceName ≠ "default" ∨
      obj.metadata.labels.lookup "kubernetes.io/service-name" ≠ some "kubernetes" then pure []
  else sandboxesWhere fun _ => true

/-- The sandboxes of the namespace that own the object. An owner reference is a UID here. -/
def ownersOf (c : Cluster) {k : Kind} (obj : Obj k) : List ObjectKey :=
  toRequests ((c.objs .sandbox).filter fun sb =>
    inNamespace obj.metadata.namespaceName sb &&
      obj.metadata.ownerReferences.contains sb.metadata.uid)

/-- The requests of a map function that is answered from `c`. -/
def requestsFrom (c : Cluster) (requests : ClientM Unit (List ObjectKey)) : List ObjectKey :=
  ((requests ()).run handle c).1.1.toOption.getD []

/-- `SetupWithManager` : the requests that an event for `obj` adds to the queue. -/
def requests (c : Cluster) : (k : Kind) → Obj k → List ObjectKey
  -- For
  | .sandbox, obj => [obj.key]
  -- Owns
  | .pod, obj => ownersOf c obj
  | .networkPolicy, obj => ownersOf c obj
  | .secret, obj => ownersOf c obj
  | .serviceAccount, obj => ownersOf c obj
  -- Watches
  | .sandboxTemplate, obj => requestsFrom c (sandboxesForTemplate obj)
  | .accessProfile, obj => requestsFrom c (sandboxesForAccessProfile obj)
  | .sandboxSession, obj => sandboxForSession obj
  | .endpointSlice, obj => requestsFrom c (sandboxesForAPIServerEndpoints obj)
  -- no informer of this controller
  | .persistentVolumeClaim, _ => []
  | .roleBinding, _ => []
  | .role, _ => []
  | .namespace, _ => []

/-- The event of a call that took `c` to `c'` adds a request for `key`. An event carries the
object as it was, as it is, or both; a call that changes nothing makes no event. -/
inductive Enqueued (key : ObjectKey) (op : Call) (c c' : Cluster) : Prop
  | event {k : Kind} {key' : ObjectKey} (o : Obj k) (htarget : op.target = some (k, key'))
    (hchanged : c'.find? k key' ≠ c.find? k key')
    (hcarried : c.find? k key' = some o ∨ c'.find? k key' = some o)
    (hmem : key ∈ requests c' k o) : Enqueued key op c c'

/-- The pass that returned `result`, or the watches on the call `op` after it, bring the
controller back to the sandbox under `key`. -/
def Woken (key : ObjectKey) (result : Result) (op : Call) (c c' : Cluster) : Prop :=
  0 < result.requeueAfter ∨ Enqueued key op c c'

section Enqueued

variable {c c' : Cluster} {op : Call} {key key' : ObjectKey} {sb : Sandbox}

theorem requestsFrom_sandboxesWhere (c : Cluster) (selector : Sandbox → Bool) :
    requestsFrom c (sandboxesWhere selector) = toRequests ((c.objs .sandbox).filter selector) :=
  rfl

/-- A stored sandbox is among the requests of a map function whose selector picks it. -/
theorem mem_requestsFrom {selector : Sandbox → Bool} (hsb : c.find? .sandbox key = some sb)
    (hpicked : selector sb = true) : key ∈ requestsFrom c (sandboxesWhere selector) := by
  obtain rfl := key_of_find? hsb
  rw [requestsFrom_sandboxesWhere]
  exact List.mem_map_of_mem (List.mem_filter.mpr ⟨mem_objs_iff.mpr hsb, hpicked⟩)

theorem mem_requests_template {tpl : SandboxTemplate} (hsb : c.find? .sandbox key = some sb)
    (hname : tpl.metadata.name = sb.spec.template) : key ∈ requests c .sandboxTemplate tpl :=
  mem_requestsFrom hsb (by simp [matchingField, indexSandboxTemplate, hname])

theorem mem_requests_profile {profile : AccessProfile} (hsb : c.find? .sandbox key = some sb)
    (hnamed : sb.spec.accessProfile ≠ "") (hname : profile.metadata.name = sb.spec.accessProfile) :
    key ∈ requests c .accessProfile profile :=
  mem_requestsFrom hsb (by simp [matchingField, indexSandboxAccessProfile, hname, hnamed])

/-- A change to a claim makes no request. -/
theorem not_enqueued_claim (htarget : op.target = some (.persistentVolumeClaim, key')) :
    ¬Enqueued key op c c' := by
  rintro ⟨o, htarget', -, -, hmem⟩
  obtain ⟨rfl, -⟩ := Prod.mk.inj (Option.some.inj (htarget.symm.trans htarget'))
  exact List.not_mem_nil hmem

end Enqueued

/-! ## What a stopped pass asks for -/

/-- Another sandbox holds the claim that `sb` names. -/
def claimTaken (c : Cluster) (sb : Sandbox) : Bool :=
  match existingClaim sb with
  | some claim => conflictOf c sb claim ≠ ""
  | none => false

/-- What a pass returns where a gate stops it : it comes back for a claim that is taken. -/
def stoppedResult (c : Cluster) (sb : Sandbox) : Result :=
  if (c.find? .sandboxTemplate ⟨"", sb.spec.template⟩).isSome ∧ claimTaken c sb = true then
    { requeueAfter := 30 * second }
  else {}

section Stopped

variable {r : SandboxReconciler} {sb : Sandbox} {c c' : Cluster} {st : SandboxStatus}

theorem claimTaken_of_homeOpen (h : homeOpen c sb = true) : claimTaken c sb = false := by
  unfold homeOpen at h
  unfold claimTaken
  cases hclaim : existingClaim sb with
  | none => rfl
  | some claim =>
    simp only [hclaim, decide_eq_true_eq] at h
    simp [h.1]

/-- Where the home gate stops the pass it has only read. -/
theorem ends_reconcileHome_stopped : (reconcileHome sb).Ends Step (fun result _ c' =>
    (homeOpen c sb = true ∧ result = none) ∨ (homeOpen c sb = false ∧ c' = c ∧
      result = some (if claimTaken c sb = true then { requeueAfter := 30 * second } else {})))
    st c := by
  unfold reconcileHome homeOpen claimTaken
  cases existingClaim sb with
  | some claim =>
    refine wp_bind.mpr (ends_claimConflict sb claim ?_)
    refine wp_ite (fun hne => ?_) fun heq => ?_
    · exact Or.inr ⟨by simp [hne], rfl, by simp [hne]⟩
    · refine wp_bind.mpr (wp_getOptional.mpr ⟨trivial, ?_⟩)
      have heq : conflictOf c sb claim = "" := not_not.mp heq
      cases hp : c.find? Kind.persistentVolumeClaim ⟨sb.metadata.namespaceName, claim⟩ with
      | none => exact Or.inr ⟨by simp [hp], rfl, by simp [heq]⟩
      | some pvc => exact Or.inl ⟨by simp [heq, hp], rfl⟩
  | none =>
    refine wp_bind.mpr (wp_get.mpr ⟨trivial, fun tpl _ => ?_⟩)
    refine wp_bind.mpr (wp_getOptional.mpr ⟨trivial, ?_⟩)
    cases c.find? Kind.persistentVolumeClaim
        ⟨sb.metadata.namespaceName, pvcName sb.metadata.name⟩ with
    | none =>
      refine wp_bind.mpr (wp_createIfAbsent.mpr ⟨trivial, fun _ => ?_⟩)
      exact Or.inl ⟨rfl, rfl⟩
    | some pvc => exact Or.inl ⟨rfl, rfl⟩

theorem PodOutcome.phase_ne_pending {tpl : SandboxTemplate} {st' : SandboxStatus}
    (h : PodOutcome sb tpl st c st' c') : st'.phase ≠ .pending := by
  cases h with
  | suspended _ _ _ hphase | suspending _ _ _ _ _ _ hphase | dead _ _ _ _ _ _ _ hphase
  | ready _ _ _ _ _ hphase => simp [hphase]
  | created _ _ _ _ _ hphase | pending _ _ _ _ _ _ hphase =>
    rcases hphase with hphase | hphase <;> simp [hphase]

/-- What the body of a pass returns where it leaves the sandbox Pending. A pass that the home
gate holds up has written nothing. -/
theorem ends_reconcileSandbox_stopped (r : SandboxReconciler) (sb : Sandbox) (c : Cluster)
    (st : SandboxStatus) :
    (r.reconcileSandbox sb).Ends Step (fun result st' c' => st'.phase = .pending →
      result = stoppedResult c sb ∧ (homeOpen c sb = false → c' = c)) st c := by
  refine wp_bind.mpr (wp_getOptional.mpr ⟨trivial, ?_⟩)
  cases htpl : c.find? Kind.sandboxTemplate ⟨"", sb.spec.template⟩ with
  | none => exact fun _ => ⟨by simp [stoppedResult, htpl], fun _ => rfl⟩
  | some tpl =>
    refine wp_bind.mpr (wp_post ends_reconcileHome_stopped ?_)
    rintro result st₁ c₁ (⟨hhome, rfl⟩ | ⟨hhome, rfl, rfl⟩)
    · have hfree : stoppedResult c sb = {} := by
        simp [stoppedResult, claimTaken_of_homeOpen hhome]
      have hhome : ¬homeOpen c sb = false := by simp [hhome]
      refine wp_bind.mpr (ends_of_forall fun _ st₂ c₂ => ?_)
      refine wp_bind.mpr (ends_of_forall fun _ st₃ c₃ => ?_)
      refine wp_bind.mpr (ends_of_forall fun rbac st₄ c₄ => ?_)
      refine wp_ite (fun _ => ?_) fun _ _ => ⟨hfree.symm, fun h => absurd h hhome⟩
      refine wp_mono (driveState_outcome r sb tpl rbac.serviceAccount)
        (fun _ _ _ => trivial) ?_
      exact fun _ st' c' h hpending => absurd hpending h.1.phase_ne_pending
    · exact fun _ => ⟨by simp [stoppedResult, htpl], fun _ => rfl⟩

end Stopped

/-! ## Whole passes -/

section Passes

variable {r : SandboxReconciler} {key : ObjectKey} {sb sb' : Sandbox} {c c' : Cluster}
  {t : List (Call × Cluster)} {result : Result}

theorem Prepared.claimTaken_eq {c₁ : Cluster} {sb₁ : Sandbox} (h : Prepared c sb c₁ sb₁) :
    claimTaken c₁ sb = claimTaken c sb := by
  simp only [claimTaken, h.conflict]

theorem Prepared.stoppedResult_eq {c₁ : Cluster} {sb₁ : Sandbox} (h : Prepared c sb c₁ sb₁) :
    stoppedResult c₁ sb = stoppedResult c sb := by
  simp only [stoppedResult, h.template_eq, h.claimTaken_eq]

theorem ends_reconcileLive_stopped (hsb : c.find? .sandbox sb.key = some sb)
    (hlive : sb.deleting = false) : (r.reconcileLive sb).Ends Step (fun result _ c' =>
      ∃ sb', c'.find? .sandbox sb.key = some sb' ∧ (sb'.status.phase = .pending →
        result = stoppedResult c sb ∧ (homeOpen c sb = false → SameOutside [.sandbox] c c')))
      () c := by
  refine wp_reconcileLive_of (R := fun c₁ sb₁ out c₂ => Routine.okPost (fun result st' c' =>
    c'.find? .sandbox sb.key = some sb₁ ∧ (st'.phase = .pending →
      result = stoppedResult c sb ∧ (homeOpen c sb = false → c' = c₁))) out c₂)
    r (fun _ _ _ _ _ => id) hsb hlive trivial ?_ ?_ ?_ ?_
  · intro c₁ sb₁ hprep
    have hstopped := ends_reconcileSandbox_stopped r sb c₁
      { sb.status with observedGeneration := sb.metadata.generation }
    rw [hprep.homeOpen_eq, hprep.stoppedResult_eq] at hstopped
    refine wp_mono (wp_and (wp_reconcileSandbox_prepared r hprep) hstopped)
      (fun _ _ _ => trivial) ?_
    rintro result st' c' ⟨⟨hc', -⟩, hresult⟩
    exact ⟨(hc'.find? (by decide) _).trans hprep.stored, hresult⟩
  · exact fun _ _ _ _ _ _ => trivial
  · exact fun _ _ _ _ _ _ hR => hR.1
  · intro c₁ sb₁ result st' c₂ c' rv hprep hR hstored _ hc'
    refine ⟨_, hstored, fun hpending => ⟨(hR.2 hpending).1, fun hhome => ?_⟩⟩
    exact hprep.outside.trans ((hR.2 hpending).2 hhome ▸ hc')

/-- What a pass that leaves the sandbox Pending returns, and that it leaves the claims alone
where the home gate holds it up. -/
theorem Pass.stopped (hpass : Pass r key c t (.ok result) c')
    (hsb : c.find? .sandbox key = some sb) (hlive : sb.deleting = false)
    (hsb' : c'.find? .sandbox key = some sb') (hpending : sb'.status.phase = .pending) :
    result = stoppedResult c sb ∧ (homeOpen c sb = false → SameOutside [.sandbox] c c') := by
  obtain rfl := key_of_find? hsb
  have hends : (r.reconcile sb.key).Ends Step (fun result _ c' =>
      ∃ sb', c'.find? .sandbox sb.key = some sb' ∧ (sb'.status.phase = .pending →
        result = stoppedResult c sb ∧ (homeOpen c sb = false → SameOutside [.sandbox] c c')))
      () c :=
    wp_reconcile_of_live r hsb hlive trivial (ends_reconcileLive_stopped hsb hlive)
  obtain ⟨sb₁, hstored, hstopped⟩ := (hpass.wp hends).2
  obtain rfl := Option.some.inj (hsb'.symm.trans hstored)
  exact hstopped hpending

/-- A pass ends in Pending exactly if some gate is closed. -/
theorem PassOutcome.pending_iff (h : PassOutcome c sb c' sb') :
    sb'.status.phase = .pending ↔ ∀ tpl, ¬GatesOpen c sb tpl := by
  rcases h.result with ⟨hblocked, hprogress, -⟩ | ⟨tpl, hopen, houtcome⟩
  · exact iff_of_true (congrArg Prod.fst hprogress) hblocked
  · exact iff_of_false houtcome.phase_ne_pending fun hblocked => hblocked tpl hopen

/-- The gates do not look at what a pass rewrites of the sandbox. -/
theorem PassOutcome.gatesOpen_iff (h : PassOutcome c sb c' sb') (c₁ : Cluster)
    (tpl : SandboxTemplate) : GatesOpen c₁ sb' tpl ↔ GatesOpen c₁ sb tpl := by
  obtain ⟨finalizers, rv, hstamp⟩ := h.stamp
  rw [hstamp]
  exact ⟨fun h => ⟨h.template, h.home, h.profile⟩, fun h => ⟨h.template, h.home, h.profile⟩⟩

theorem PassOutcome.template_eq (h : PassOutcome c sb c' sb') :
    c'.find? .sandboxTemplate ⟨"", sb'.spec.template⟩ =
      c.find? .sandboxTemplate ⟨"", sb.spec.template⟩ := by
  obtain ⟨finalizers, rv, hstamp⟩ := h.stamp
  rw [hstamp]
  exact h.outside.find? (by decide) _

theorem PassOutcome.profilePermits_eq (h : PassOutcome c sb c' sb') :
    profilePermits c' sb' = profilePermits c sb := by
  obtain ⟨finalizers, rv, hstamp⟩ := h.stamp
  rw [hstamp]
  simp only [profilePermits,
    h.outside.find? (show Kind.accessProfile ∉ .pod :: preparedKinds by decide)]
  rfl

end Passes

/-! ## One change later -/

/-- The kinds that the gates read. -/
def gateReads : List Kind :=
  [.sandboxTemplate, .accessProfile, .persistentVolumeClaim, .sandbox]

/-- At some later time the call `op` on the object of kind `k` under `key'`, one that the gates
read and not the sandbox under `key` itself, takes `c` to `c'`. -/
structure Change (key : ObjectKey) (op : Call) (k : Kind) (key' : ObjectKey) (c c' : Cluster) :
    Prop where
  target : op.target = some (k, key')
  read : k ∈ gateReads
  other : (k, key') ≠ (.sandbox, key)
  step : ∃ now a, Step op { c with clock := now } a c'

/-- A pass leaves the live sandbox under `key` Pending and returns `result`, and a single change
follows after which a fresh pass would let the sandbox on. -/
structure Freed (r : SandboxReconciler) (key : ObjectKey) (c : Cluster) (result : Result)
    (c' : Cluster) (op : Call) (k : Kind) (key' : ObjectKey) (c₁ : Cluster) : Prop where
  live : ∃ sb, c.find? .sandbox key = some sb ∧ sb.deleting = false
  blocked : ∃ t sb', Pass r key c t (.ok result) c' ∧ c'.find? .sandbox key = some sb' ∧
    sb'.status.phase = .pending
  change : Change key op k key' c' c₁
  fresh : ∃ t result₁ c₂ sb₂, Pass r key c₁ t (.ok result₁) c₂ ∧
    c₂.find? .sandbox key = some sb₂ ∧ sb₂.status.phase ≠ .pending

section Woken

variable {r : SandboxReconciler} {key key' : ObjectKey} {op : Call} {k : Kind}
  {sb sb' : Sandbox} {tpl : SandboxTemplate} {c c' c₁ : Cluster}
  {t : List (Call × Cluster)} {result : Result}

theorem Change.find? (h : Change key op k key' c c₁) {k₁ : Kind} {key₁ : ObjectKey}
    (hne : (k, key') ≠ (k₁, key₁)) : c₁.find? k₁ key₁ = c.find? k₁ key₁ := by
  obtain ⟨now, a, hstep⟩ := h.step
  exact hstep.find? fun htarget => hne (Option.some.inj (h.target.symm.trans htarget))

/-- The object that a change is seen at is the one that was changed. -/
theorem Change.at_of_ne (h : Change key op k key' c c₁) {k₁ : Kind} {key₁ : ObjectKey}
    (hne : c₁.find? k₁ key₁ ≠ c.find? k₁ key₁) : (k, key') = (k₁, key₁) := by
  by_contra hother
  exact hne (h.find? hother)

theorem Change.guardKept (h : Change key op k key' c' c₁) (hk : k ≠ .sandbox)
    (hkept : GuardKept c sb c') : GuardKept c sb c₁ := by
  obtain ⟨now, a, hstep⟩ := h.step
  have hkept : GuardKept c sb { c' with clock := now } := hkept
  exact hkept.congr (hstep.sameOutside (within_write h.target (List.mem_singleton.mpr rfl)))
    (by simpa using hk.symm)

/-- A change that brings the template of `sb` into being is mapped to `sb`. -/
theorem Change.wakes_template (h : Change key op k key' c c₁)
    (hsb : c₁.find? .sandbox key = some sb)
    (habsent : c.find? .sandboxTemplate ⟨"", sb.spec.template⟩ = none)
    (hthere : c₁.find? .sandboxTemplate ⟨"", sb.spec.template⟩ = some tpl) :
    k = .sandboxTemplate ∧ Enqueued key op c c₁ := by
  have hne : c₁.find? .sandboxTemplate ⟨"", sb.spec.template⟩ ≠
      c.find? .sandboxTemplate ⟨"", sb.spec.template⟩ := by
    rw [hthere, habsent]
    exact Option.some_ne_none tpl
  obtain ⟨rfl, rfl⟩ := Prod.mk.inj (h.at_of_ne hne)
  refine ⟨rfl, .event tpl h.target hne (Or.inr hthere) (mem_requests_template hsb ?_)⟩
  exact congrArg ObjectKey.name (key_of_find? hthere)

/-- A change after which the profile of `sb` lets it through is mapped to `sb`. -/
theorem Change.wakes_profile (h : Change key op k key' c c₁)
    (hsb : c₁.find? .sandbox key = some sb)
    (hclosed : profilePermits c sb = false) (hopen : profilePermits c₁ sb = true) :
    k = .accessProfile ∧ Enqueued key op c c₁ := by
  have hne : c₁.find? .accessProfile ⟨"", sb.spec.accessProfile⟩ ≠
      c.find? .accessProfile ⟨"", sb.spec.accessProfile⟩ := by
    intro heq
    have hsame : profilePermits c₁ sb = profilePermits c sb := by simp only [profilePermits, heq]
    exact Bool.false_ne_true (hclosed.symm.trans (hsame.symm.trans hopen))
  obtain ⟨rfl, rfl⟩ := Prod.mk.inj (h.at_of_ne hne)
  have hnamed : sb.spec.accessProfile ≠ "" := by
    intro hnone
    simp [profilePermits, hnone] at hclosed
  cases hthere : c₁.find? .accessProfile ⟨"", sb.spec.accessProfile⟩ with
  | none => simp [profilePermits, hnamed, hthere] at hopen
  | some profile =>
    refine ⟨rfl, .event profile h.target hne (Or.inr hthere) (mem_requests_profile hsb hnamed ?_)⟩
    exact congrArg ObjectKey.name (key_of_find? hthere)

/-- Where the home gate is closed for a claim that nobody holds, the claim is missing, and the
change that opens the gate is to that claim. -/
theorem Change.claim_of_missing (h : Change key op k key' c' c₁) (hclosed : homeOpen c sb = false)
    (hfree : claimTaken c sb = false) (hopen : homeOpen c₁ sb = true)
    (hclaims : ∀ key, c'.find? .persistentVolumeClaim key = c.find? .persistentVolumeClaim key) :
    k = .persistentVolumeClaim := by
  unfold homeOpen at hclosed hopen
  unfold claimTaken at hfree
  cases hclaim : existingClaim sb with
  | none => simp [hclaim] at hclosed
  | some claim =>
    simp only [hclaim, ne_eq, decide_not, Bool.not_eq_false', decide_eq_true_eq] at hfree
    simp only [hclaim, hfree, true_and, decide_eq_false_iff_not] at hclosed
    simp only [hclaim, decide_eq_true_eq] at hopen
    have hne : c₁.find? .persistentVolumeClaim ⟨sb.metadata.namespaceName, claim⟩ ≠
        c'.find? .persistentVolumeClaim ⟨sb.metadata.namespaceName, claim⟩ := by
      intro heq
      rw [heq, hclaims] at hopen
      exact hclosed hopen.2
    exact congrArg Prod.fst (h.at_of_ne hne)

/-- A claim that another sandbox holds is not freed by a change to a claim. -/
theorem Change.not_claim_of_taken (h : Change key op k key' c' c₁) (hkept : GuardKept c sb c')
    (htaken : claimTaken c sb = true) (hopen : homeOpen c₁ sb = true) :
    k ≠ .persistentVolumeClaim := by
  rintro rfl
  have hsame : claimTaken c₁ sb = claimTaken c sb := by
    simp only [claimTaken, (h.guardKept (by decide) hkept).2]
  exact nomatch htaken.symm.trans (hsame.symm.trans (claimTaken_of_homeOpen hopen))

/-- Where a pass over the sandbox as another pass left it does not end in Pending, every gate is
open. -/
theorem PassOutcome.gatesOpen_of_freed (h : PassOutcome c sb c' sb') (hlive : sb.deleting = false)
    (hstored : c₁.find? .sandbox sb.key = some sb')
    (hfresh : ∃ t result₁ c₂ sb₂, Pass r sb.key c₁ t (.ok result₁) c₂ ∧
      c₂.find? .sandbox sb.key = some sb₂ ∧ sb₂.status.phase ≠ .pending) :
    ∃ tpl, GatesOpen c₁ sb tpl := by
  obtain ⟨t, result₁, c₂, sb₂, hpass, hsb₂, hfreed⟩ := hfresh
  obtain ⟨finalizers, rv, hstamp⟩ := id h.stamp
  obtain ⟨sb₃, houtcome⟩ := hpass.outcome hstored (by rw [hstamp]; exact hlive)
  have hkey : sb'.key = sb.key := key_of_find? hstored
  obtain rfl := Option.some.inj (hsb₂.symm.trans (hkey ▸ houtcome.stored))
  obtain ⟨tpl, hopen⟩ := not_forall_not.mp (houtcome.pending_iff.not.mp hfreed)
  exact ⟨tpl, (h.gatesOpen_iff c₁ tpl).mp hopen⟩

/-- A sandbox that a pass has left Pending is looked at again once a single change would let it
on, exactly if the change is not to a PersistentVolumeClaim. -/
theorem blocked_woken_iff (h : Freed r key c result c' op k key' c₁) :
    Woken key result op c' c₁ ↔ k ≠ .persistentVolumeClaim := by
  obtain ⟨⟨sb, hsb, hlive⟩, ⟨t, sb', hpass, hsb', hpending⟩, hchange, hfresh⟩ := h
  obtain rfl := key_of_find? hsb
  obtain ⟨rfl, hclaims⟩ := hpass.stopped hsb hlive hsb' hpending
  obtain ⟨sb₁, houtcome⟩ := hpass.outcome hsb hlive
  obtain rfl := Option.some.inj (hsb'.symm.trans houtcome.stored)
  have hclosed := houtcome.pending_iff.mp hpending
  have hstored : c₁.find? .sandbox sb.key = some sb' := (hchange.find? hchange.other).trans hsb'
  obtain ⟨tpl, hopen⟩ := houtcome.gatesOpen_of_freed hlive hstored hfresh
  have hopen' := (houtcome.gatesOpen_iff c₁ tpl).mpr hopen
  -- the gates in the order of the pass : the first that was closed says what the change was
  cases htpl : c.find? .sandboxTemplate ⟨"", sb.spec.template⟩ with
  | none =>
    obtain ⟨rfl, hwake⟩ := hchange.wakes_template hstored (houtcome.template_eq.trans htpl)
      hopen'.template
    exact iff_of_true (Or.inr hwake) (by decide)
  | some tpl₀ =>
    cases hhome : homeOpen c sb with
    | false =>
      cases htaken : claimTaken c sb with
      | true =>
        refine iff_of_true (Or.inl ?_)
          (hchange.not_claim_of_taken (hpass.guardKept hsb hlive) htaken hopen.home)
        simp [stoppedResult, htpl, htaken, second]
      | false =>
        obtain rfl := hchange.claim_of_missing hhome htaken hopen.home
          ((hclaims hhome).find? (by decide))
        refine iff_of_false ?_ (not_not.mpr rfl)
        rintro (hrequeue | hwake)
        · simp [stoppedResult, htaken] at hrequeue
        · exact not_enqueued_claim hchange.target hwake
    | true =>
      have hprofile : profilePermits c sb = false :=
        Bool.eq_false_iff.mpr fun hpermits => hclosed tpl₀ ⟨htpl, hhome, hpermits⟩
      obtain ⟨rfl, hwake⟩ := hchange.wakes_profile hstored
        (houtcome.profilePermits_eq.trans hprofile) hopen'.profile
      exact iff_of_true (Or.inr hwake) (by decide)

end Woken

namespace Team

/-- Alice's sandbox, on a volume the team has made by hand. -/
def onData : Sandbox :=
  { sandbox .running {} with spec.home := some { existingClaim := "data" } }

/-- The volume. -/
def data : PersistentVolumeClaim :=
  ⟨{ name := "data", namespaceName := "team" }, (buildPVC onData template).spec, ()⟩

/-- The sandbox is looked at before its template is there. -/
def untemplated : Cluster :=
  cluster [] (sandbox .running {}) []

/-- The sandbox is looked at before its volume is there. -/
def unclaimed : Cluster :=
  cluster [template] onData []

/-- `o` is created after the first pass. -/
def provided {k : Kind} (o : Obj k) (c : Cluster) : Cluster :=
  (handle (.create k o) (pass c)).2

/-- The phase the sandbox is in. -/
def phaseIn (c : Cluster) : Option SandboxPhase :=
  (c.find? .sandbox key).map (·.status.phase)

theorem freed {k : Kind} (o : Obj k) {c : Cluster} (hread : k ∈ gateReads) (hother : k ≠ .sandbox)
    (hlive : (c.find? .sandbox key).map Object.deleting = some false)
    (hpass : (runPass reconciler key c).1.toOption = some {})
    (hpending : phaseIn (pass c) = some .pending)
    (hfresh : ∃ result, (runPass reconciler key (provided o c)).1.toOption = some result)
    (hfreed : ∃ phase, phaseIn (pass (provided o c)) = some phase ∧ phase ≠ .pending) :
    Freed reconciler key c {} (pass c) (.create k o) k o.key (provided o c) where
  live := Option.map_eq_some_iff.mp hlive
  blocked := by
    obtain ⟨sb', hsb', hphase⟩ := Option.map_eq_some_iff.mp hpending
    exact ⟨_, sb', pass_of_runPass hpass, hsb', hphase⟩
  change := ⟨rfl, hread, fun h => hother (congrArg Prod.fst h), _, _, step_handle _ _⟩
  fresh := by
    obtain ⟨result, hresult⟩ := hfresh
    obtain ⟨phase, hphase, hne⟩ := hfreed
    obtain ⟨sb₂, hsb₂, rfl⟩ := Option.map_eq_some_iff.mp hphase
    exact ⟨_, result, _, sb₂, pass_of_runPass hresult, hsb₂, hne⟩

end Team

/-- A sandbox that waits for its template is woken when the template is created. -/
theorem blocked_woken_template :
    Freed Team.reconciler Team.key Team.untemplated {} (Team.pass Team.untemplated)
        (.create .sandboxTemplate Team.template) .sandboxTemplate ⟨"", "base"⟩
        (Team.provided Team.template Team.untemplated) ∧
      Woken Team.key {} (.create .sandboxTemplate Team.template) (Team.pass Team.untemplated)
        (Team.provided Team.template Team.untemplated) := by
  have hfreed := Team.freed Team.template (c := Team.untemplated) (by decide) (by decide)
    (by decide +kernel) (by decide +kernel) (by decide +kernel) ⟨{}, by decide +kernel⟩
    ⟨.provisioning, by decide +kernel, by decide⟩
  exact ⟨hfreed, (blocked_woken_iff hfreed).mpr (by decide)⟩

/-- A sandbox that waits for a volume is not woken when the volume is created. -/
theorem claim_not_awaited :
    Freed Team.reconciler Team.key Team.unclaimed {} (Team.pass Team.unclaimed)
        (.create .persistentVolumeClaim Team.data) .persistentVolumeClaim ⟨"team", "data"⟩
        (Team.provided Team.data Team.unclaimed) ∧
      ¬Woken Team.key {} (.create .persistentVolumeClaim Team.data) (Team.pass Team.unclaimed)
        (Team.provided Team.data Team.unclaimed) := by
  refine ⟨Team.freed Team.data (by decide) (by decide) (by decide +kernel) (by decide +kernel)
    (by decide +kernel) ⟨{}, by decide +kernel⟩ ⟨.provisioning, by decide +kernel, by decide⟩, ?_⟩
  rintro (hrequeue | hwake)
  · exact absurd hrequeue (by decide)
  · exact not_enqueued_claim rfl hwake

end Kubepark
