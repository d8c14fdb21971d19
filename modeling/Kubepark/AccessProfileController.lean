import Mathlib.Data.List.Sort
import Kubepark.SandboxTeardown

/-!
# The AccessProfile controller

`accessprofile_controller.go`. A pass over a profile writes one Role into each grant namespace
that exists, with the rules of all the grants that name it, collects the Roles of the profile
elsewhere (`syncRoles`), and reports the namespaces that are missing. The Roles are shared : each
sandbox under the profile has a RoleBinding to them of its own.

`syncRoles` ranges over a map, so the namespaces come in any order (`rangeOrder`).
-/

namespace Kubepark

open ApiServer Client Routine

/-- The order in which a map with the given keys is ranged over. -/
structure AccessProfileReconciler where
  rangeOrder : List String → List String
  rangeOrder_perm : ∀ keys, (rangeOrder keys).Perm keys

/-- What `syncRoles` has found so far. -/
structure Synced where
  missing : List String := []
  applied : List String := []

/-- A routine of the controller. -/
abbrev ProfileM := ClientM Synced

def accessProfileFinalizer : String :=
  "kubepark.dev/finalizer"

/-- The rules a profile grants in `ns` : those of every mention of it, in order. -/
def rulesByNS (profile : AccessProfile) (ns : String) : List PolicyRule :=
  profile.spec.grants.flatMap fun grant =>
    (grant.namespaces.filter (· = ns)).flatMap fun _ => grant.rules

theorem nodup_dedup (seen l : List String) : (dedup seen l).Nodup ∧ ∀ ns ∈ dedup seen l, ns ∉ seen := by
  induction l generalizing seen with
  | nil => simp [dedup]
  | cons ns l ih =>
    by_cases h : ns ∈ seen
    · simpa [dedup, h] using ih seen
    · have hrest := ih (ns :: seen)
      simp only [dedup, h, if_false, List.nodup_cons, List.forall_mem_cons, not_false_eq_true,
        true_and]
      refine ⟨⟨fun hmem => (hrest.2 ns hmem) (by simp), hrest.1⟩, fun ns' hmem hseen => ?_⟩
      exact hrest.2 ns' hmem (List.mem_cons_of_mem _ hseen)

theorem nodup_grantNamespaces (profile : AccessProfile) : (grantNamespaces profile).Nodup :=
  (nodup_dedup [] _).1

theorem mem_dedup {ns : String} (seen l : List String) :
    ns ∈ dedup seen l ↔ ns ∈ l ∧ ns ∉ seen := by
  induction l generalizing seen with
  | nil => simp [dedup]
  | cons n l ih =>
    by_cases hn : n ∈ seen
    · have hne : ns ∉ seen → ns ≠ n := fun h he => h (he ▸ hn)
      simp only [dedup, hn, ↓reduceIte, ih, List.mem_cons]
      exact ⟨fun h => ⟨Or.inr h.1, h.2⟩, fun h => ⟨h.1.resolve_left (hne h.2), h.2⟩⟩
    · simp only [dedup, hn, ↓reduceIte, List.mem_cons, ih, not_or]
      by_cases he : ns = n
      · simp [he, hn]
      · simp [he]

/-- A grant namespace is one that some grant lists. -/
theorem mem_grantNamespaces {profile : AccessProfile} {ns : String} :
    ns ∈ grantNamespaces profile ↔ ∃ grant ∈ profile.spec.grants, ns ∈ grant.namespaces := by
  simp [grantNamespaces, mem_dedup, List.mem_flatMap]

/-- The Role of a profile in the namespace `ns`. -/
def buildRole (profile : AccessProfile) (ns : String) (rules : List PolicyRule) : Role where
  metadata :=
    { name := profileRoleName profile.metadata.name
      namespaceName := ns
      labels := [(labelProfile, profile.metadata.name), (labelManagedBy, managedByValue)] }
  spec := ⟨rules⟩
  status := ()

namespace AccessProfileReconciler

variable (p : AccessProfileReconciler)

def namespaceExists (name : String) : ProfileM Bool := do
  let ns ← getOptional Kind.namespace ⟨"", name⟩
  pure ns.isSome

/-- Create the Role, or bring the rules of the one that is there in line. -/
def applyRole (profile : AccessProfile) (ns : String) (rules : List PolicyRule) : ProfileM Unit := do
  let desired := buildRole profile ns rules
  match ← getOptional Kind.role desired.key with
  | none => createIfAbsent Kind.role desired
  | some existing =>
    if existing.spec.rules ≠ desired.spec.rules then
      let _ ← update Kind.role
        { existing with
          spec.rules := desired.spec.rules
          metadata.labels :=
            if existing.metadata.labels = [] then desired.metadata.labels
            else existing.metadata.labels }
    else pure ()

/-- One round of `syncRoles`. -/
def syncRole (profile : AccessProfile) (ns : String) : ProfileM Unit := do
  if ← namespaceExists ns then
    applyRole profile ns (rulesByNS profile ns)
    Routine.modify fun st => { st with applied := st.applied ++ [ns] }
  else Routine.modify fun st => { st with missing := st.missing ++ [ns] }

/-- Write the Role of each grant namespace that exists and collect those elsewhere; the missing
namespaces. -/
def syncRoles (profile : AccessProfile) : ProfileM (List String) := do
  Routine.forEach (p.rangeOrder (grantNamespaces profile)) (syncRole profile)
  let roles ← list Kind.role (matchingLabel labelProfile profile.metadata.name)
  let st ← Routine.record
  Routine.forEach roles fun role =>
    if role.metadata.namespaceName ∈ st.applied then pure ()
    else deleteIfPresent Kind.role role.key "syncRoles"
  pure (st.missing.insertionSort (· ≤ ·))

/-- Touch every sandbox that references the profile; errors are only logged. The annotation that
the source counts up is read by nobody, so of the patch the new version is left. -/
def requeueSandboxes (profile : String) : ProfileM Unit := do
  match ← tryList Kind.sandbox fun sb => sb.spec.accessProfile ≠ "" ∧ sb.spec.accessProfile = profile with
  | .error _ => pure ()
  | .ok sandboxes =>
    Routine.forEach sandboxes fun sb => do
      let _ ← Routine.lift (Prog.ask (Op.patch Kind.sandbox sb.key id : Call))

/-- The condition that says which grant namespaces are missing. -/
def validCondition (profile : AccessProfile) (missing : List String) : Condition :=
  if missing = [] then
    ⟨.valid, .true, .valid, "all grant namespaces exist", profile.metadata.generation⟩
  else
    ⟨.valid, .false, .missingNamespace,
      "missing namespaces: " ++ ", ".intercalate missing ++ " (other grants applied)",
      profile.metadata.generation⟩

/-- Delete every Role the profile created. -/
def finalize (profile : AccessProfile) : ProfileM Result := do
  if accessProfileFinalizer ∉ profile.metadata.finalizers then pure {}
  else
    let roles ← list Kind.role (matchingLabel labelProfile profile.metadata.name)
    Routine.forEach roles fun role => deleteIfPresent Kind.role role.key "profileFinalize"
    requeueSandboxes profile.metadata.name
    let _ ← update Kind.accessProfile
      { profile with
        metadata.finalizers := profile.metadata.finalizers.filter (· ≠ accessProfileFinalizer) }
    pure {}

/-- The profile with its finalizer, as the server returns it. -/
def ensureFinalizer (profile : AccessProfile) : ProfileM AccessProfile := do
  if accessProfileFinalizer ∈ profile.metadata.finalizers then pure profile
  else
    update Kind.accessProfile
      { profile with
        metadata.finalizers := profile.metadata.finalizers ++ [accessProfileFinalizer] }

/-- One pass over the profile `name`. -/
def reconcile (name : String) : ProfileM Result := do
  match ← getOptional Kind.accessProfile ⟨"", name⟩ with
  | none => pure {}
  | some profile =>
    if profile.deleting then finalize profile
    else
      let profile ← ensureFinalizer profile
      let missing ← p.syncRoles profile
      requeueSandboxes profile.metadata.name
      let _ ← updateStatusIfPresent Kind.accessProfile
        { profile with
          status :=
            { conditions := setStatusCondition (validCondition profile missing)
                profile.status.conditions
              observedGeneration := profile.metadata.generation } }
      pure {}

end AccessProfileReconciler

/-! ## What a pass leaves behind -/

/-- The namespace exists. -/
def HasNamespace (c : Cluster) (ns : String) : Prop :=
  (c.find? .namespace ⟨"", ns⟩).isSome = true

instance (c : Cluster) (ns : String) : Decidable (HasNamespace c ns) :=
  inferInstanceAs (Decidable (_ = true))

theorem admits_iff {c : Cluster} {k : Kind} {o : Obj k} (hk : KindInfo.namespaced k = true) :
    c.admits k o = true ↔ HasNamespace c o.metadata.namespaceName := by
  simp only [admits, hk, Bool.not_true, Bool.false_or]
  rfl

/-- What an API server keeps to : objects stand in namespaces that exist, and an object that is
being deleted is there because of a finalizer or a grace period. -/
structure WellStored (c : Cluster) : Prop where
  placed : ∀ (k : Kind) (key : ObjectKey) (o : Obj k), c.find? k key = some o →
    KindInfo.namespaced k = true → HasNamespace c key.namespaceName
  stays : ∀ (k : Kind) (key : ObjectKey) (o : Obj k), c.find? k key = some o →
    KindInfo.graceful k = false → o.deleting = true → o.metadata.finalizers ≠ []

def roleKey (profile : AccessProfile) (ns : String) : ObjectKey :=
  ⟨ns, profileRoleName profile.metadata.name⟩

/-- The Role of the profile stands in `ns`, with the rules granted there. -/
def RoleIn (profile : AccessProfile) (ns : String) (c : Cluster) : Prop :=
  ∃ role, c.find? .role (roleKey profile ns) = some role ∧ role.spec.rules = rulesByNS profile ns

/-- `profile'` is `profile`, at most with another status and other metadata. -/
structure Unchanged (profile profile' : AccessProfile) : Prop where
  key : profile'.key = profile.key
  spec : profile'.spec = profile.spec
  deleting : profile'.deleting = profile.deleting

namespace Unchanged

variable {profile profile' : AccessProfile}

theorem name (h : Unchanged profile profile') : profile'.metadata.name = profile.metadata.name :=
  congrArg ObjectKey.name h.key

theorem grantNamespaces (h : Unchanged profile profile') :
    Kubepark.grantNamespaces profile' = Kubepark.grantNamespaces profile := by
  rw [Kubepark.grantNamespaces, h.spec, Kubepark.grantNamespaces]

/-- The Role depends on the name and the spec of the profile only. -/
theorem roleIn (h : Unchanged profile profile') : RoleIn profile' = RoleIn profile := by
  funext ns c
  simp only [RoleIn, roleKey, rulesByNS, h.name, h.spec]

end Unchanged

namespace AccessProfileReconciler

variable {profile : AccessProfile} {c : Cluster} {st : Synced}

theorem roleKey_ne {ns : String} {key : ObjectKey} (h : key.namespaceName ≠ ns) :
    (⟨.role, key⟩ : Kind × ObjectKey) ≠ (.role, roleKey profile ns) := by
  intro he
  exact h (congrArg ObjectKey.namespaceName (Prod.mk.inj he).2)

/-- The Role is brought in line, and no other object is touched. -/
theorem succeeds_applyRole {ns : String} (hns : HasNamespace c ns)
    (hstays : ∀ role, c.find? .role (roleKey profile ns) = some role → role.deleting = true →
      role.metadata.finalizers ≠ []) :
    (applyRole profile ns (rulesByNS profile ns)).Succeeds Faithful (fun _ st' c' => st' = st ∧
      RoleIn profile ns c' ∧ ∀ k key, (⟨k, key⟩ : Kind × ObjectKey) ≠ (.role, roleKey profile ns) →
        c'.find? k key = c.find? k key) st c := by
  refine Routine.Succeeds.bind (succeeds_getOptional (Q := fun o st' c' =>
    o = c.find? .role (roleKey profile ns) ∧ st' = st ∧ c' = c) ⟨rfl, rfl, rfl⟩) ?_
  rintro _ st c ⟨rfl, rfl, rfl⟩
  cases hrole : c.find? .role (roleKey profile ns) with
  | none =>
    refine succeeds_createIfAbsent ((admits_iff rfl).mpr hns) ⟨rfl, ?_, fun k key hne => ?_⟩
    · exact ⟨_, find?_ensured_of_none (o := buildRole profile ns _) hrole, rfl⟩
    · exact find?_ensured_ne hne
  | some role =>
    have hkey : role.key = roleKey profile ns := key_of_find? hrole
    refine succeeds_ite (fun _ => ?_) fun hsame => ?_
    · refine Routine.Succeeds.bind (succeeds_update (o := role) (Q := fun _ st' c' => st' = st ∧
        RoleIn profile ns c' ∧ ∀ k key, (⟨k, key⟩ : Kind × ObjectKey) ≠ (.role, roleKey profile ns) →
          c'.find? k key = c.find? k key) ((congrArg _ hkey).trans hrole) rfl ?_) ?_
      · refine ⟨rfl, ?_, fun k key hne => find?_settle_ne (hkey ▸ hne)⟩
        rw [RoleIn, ← hkey]
        exact ⟨_, find?_settle_self (hstays role hrole), rfl⟩
      · exact fun _ _ _ h => succeeds_pure h
    · exact succeeds_pure ⟨rfl, ⟨role, hrole, not_not.mp hsame⟩, fun _ _ _ => rfl⟩

/-- A Role that is being deleted is there because of a finalizer. -/
def RolesStay (c : Cluster) : Prop :=
  ∀ key role, c.find? .role key = some role → role.deleting = true → role.metadata.finalizers ≠ []

/-- The state of `syncRoles` that started in `c` over the namespaces `all`, when `todo` is left
to do. -/
structure Syncing (profile : AccessProfile) (c : Cluster) (all todo : List String) (st : Synced)
    (c' : Cluster) : Prop where
  nodup : todo.Nodup
  subset : ∀ ns ∈ todo, ns ∈ all
  namespaces : ∀ key, c'.find? .namespace key = c.find? .namespace key
  untouched : ∀ ns ∈ todo, c'.find? .role (roleKey profile ns) = c.find? .role (roleKey profile ns)
  applied : ∀ ns, ns ∈ st.applied ↔ (ns ∈ all ∧ ns ∉ todo) ∧ HasNamespace c ns
  missing : ∀ ns, ns ∈ st.missing ↔ (ns ∈ all ∧ ns ∉ todo) ∧ ¬HasNamespace c ns
  roles : ∀ ns ∈ st.applied, RoleIn profile ns c'

/-- A namespace is done once it is the next and is worked on. -/
theorem and_done_iff {all todo : List String} {ns ns' : String} (hall : ns ∈ all)
    (hnew : ns ∉ todo) :
    (ns' ∈ all ∧ ns' ∉ todo) ↔ (ns' ∈ all ∧ ns' ∉ ns :: todo) ∨ ns' = ns := by
  by_cases he : ns' = ns
  · simp [he, hall, hnew]
  · simp [he]

theorem Syncing.miss {all todo : List String} {ns : String} {c' : Cluster}
    (h : Syncing profile c all (ns :: todo) st c') (hns : ¬HasNamespace c ns) :
    Syncing profile c all todo { st with missing := st.missing ++ [ns] } c' := by
  obtain ⟨hnew, hnodup⟩ := List.nodup_cons.mp h.nodup
  obtain ⟨hall, hsubset⟩ := List.forall_mem_cons.mp h.subset
  refine ⟨hnodup, hsubset, h.namespaces,
    fun ns' hns' => h.untouched ns' (List.mem_cons_of_mem _ hns'), ?_, ?_,
    h.roles⟩
  · intro ns'
    rw [h.applied, and_done_iff hall hnew]
    by_cases he : ns' = ns
    · simp [he, hns]
    · simp [he]
  · intro ns'
    rw [List.mem_append, List.mem_singleton, h.missing, and_done_iff hall hnew]
    by_cases he : ns' = ns
    · simp [he, hns]
    · simp [he]

theorem Syncing.apply {all todo : List String} {ns : String} {c' c'' : Cluster}
    (h : Syncing profile c all (ns :: todo) st c') (hns : HasNamespace c ns)
    (hrole : RoleIn profile ns c'')
    (hrest : ∀ k key, (⟨k, key⟩ : Kind × ObjectKey) ≠ (.role, roleKey profile ns) →
      c''.find? k key = c'.find? k key) :
    Syncing profile c all todo { st with applied := st.applied ++ [ns] } c'' := by
  obtain ⟨hnew, hnodup⟩ := List.nodup_cons.mp h.nodup
  obtain ⟨hall, hsubset⟩ := List.forall_mem_cons.mp h.subset
  have hother : ∀ ns', ns' ≠ ns → c''.find? .role (roleKey profile ns') =
      c'.find? .role (roleKey profile ns') := fun ns' hne => hrest _ _ (roleKey_ne hne)
  refine ⟨hnodup, hsubset, fun key => (hrest _ _ (by simp)).trans (h.namespaces key), ?_, ?_, ?_, ?_⟩
  · intro ns' hns'
    rw [hother ns' fun he => hnew (he ▸ hns'), h.untouched ns' (List.mem_cons_of_mem _ hns')]
  · intro ns'
    rw [List.mem_append, List.mem_singleton, h.applied, and_done_iff hall hnew]
    by_cases he : ns' = ns
    · simp [he, hns]
    · simp [he]
  · intro ns'
    rw [h.missing, and_done_iff hall hnew]
    by_cases he : ns' = ns
    · simp [he, hns]
    · simp [he]
  · intro ns' hns'
    by_cases he : ns' = ns
    · exact he ▸ hrole
    · unfold RoleIn
      rw [hother ns' he]
      exact h.roles ns' ((List.mem_append.mp hns').resolve_right (by simpa using he))

theorem succeeds_syncRole {all todo : List String} {ns : String} {c' : Cluster}
    (hstays : RolesStay c) (h : Syncing profile c all (ns :: todo) st c') :
    (syncRole profile ns).Succeeds Faithful
      (fun _ st' c'' => Syncing profile c all todo st' c'') st c' := by
  refine Routine.Succeeds.bind (R := fun b st' c'' => b = (c.find? .namespace ⟨"", ns⟩).isSome ∧
    st' = st ∧ c'' = c') ?_ ?_
  · refine Routine.Succeeds.bind (succeeds_getOptional (Q := fun o st' c'' =>
      o = c.find? .namespace ⟨"", ns⟩ ∧ st' = st ∧ c'' = c') ⟨h.namespaces _, rfl, rfl⟩) ?_
    rintro _ _ _ ⟨rfl, rfl, rfl⟩
    exact succeeds_pure ⟨rfl, rfl, rfl⟩
  rintro _ st c' ⟨rfl, rfl, rfl⟩
  refine succeeds_ite (fun hns => ?_) fun hns => ?_
  · have hstays' : ∀ role, c'.find? .role (roleKey profile ns) = some role →
        role.deleting = true → role.metadata.finalizers ≠ [] := by
      rw [h.untouched ns (by simp)]
      exact hstays _
    refine (succeeds_applyRole ((congrArg _ (h.namespaces _)).trans hns) hstays').bind ?_
    rintro _ st' c'' ⟨rfl, hrole, hrest⟩
    exact succeeds_modify (h.apply hns hrole hrest)
  · exact succeeds_modify (h.miss hns)

theorem syncRole_within (ns : String) :
    (syncRole profile ns).Always Step (fun op _ => op.Within [.role]) st c := by
  have hexists : (namespaceExists ns).Always Step (fun op _ => op.Within [.role]) st c :=
    (always_getOptional (within_read rfl)).bind fun _ _ _ => trivial
  refine hexists.bind fun b st c => wp_ite (fun _ => ?_) fun _ => trivial
  refine Routine.Always.bind ?_ fun _ _ _ => trivial
  refine (always_getOptional (within_read rfl)).bind fun role st c => ?_
  cases role with
  | none => exact always_createIfAbsent (within_write rfl (by simp))
  | some role =>
    refine wp_ite (fun _ => ?_) fun _ => trivial
    exact (always_update (within_write rfl (by simp))).bind fun _ _ _ => trivial

theorem syncRoles_within (p : AccessProfileReconciler) :
    (p.syncRoles profile).Always Step (fun op _ => op.Within [.role]) st c := by
  refine (Routine.Always.forEach _ fun ns _ st c => syncRole_within ns).bind fun _ st c => ?_
  refine (always_list (within_read rfl)).bind fun roles st c => ?_
  refine Routine.Always.bind (x := Routine.record) trivial fun st _ c => ?_
  refine (Routine.Always.forEach _ fun role _ _ c => ?_).bind fun _ _ _ => trivial
  exact wp_ite (fun _ => trivial) fun _ => always_deleteIfPresent (within_write rfl (by simp))

/-- A pass in which no call fails writes the Role of each grant namespace that exists. -/
theorem succeeds_syncRoles (p : AccessProfileReconciler) (hstays : RolesStay c)
    (hst : st = {}) : (p.syncRoles profile).Succeeds Faithful (fun _ _ c' => SameOutside [.role] c c' ∧
      ∀ ns ∈ grantNamespaces profile, HasNamespace c ns → RoleIn profile ns c') st c := by
  subst hst
  have hperm := p.rangeOrder_perm (grantNamespaces profile)
  have hmem : ∀ ns, ns ∈ p.rangeOrder (grantNamespaces profile) ↔ ns ∈ grantNamespaces profile :=
    fun ns => hperm.mem_iff
  have hstart : Syncing profile c (p.rangeOrder (grantNamespaces profile))
      (p.rangeOrder (grantNamespaces profile)) {} c :=
    ⟨hperm.nodup_iff.mpr (nodup_grantNamespaces profile), fun _ h => h, fun _ => rfl, fun _ _ => rfl,
      by simp, by simp, by simp⟩
  have hruns : (p.syncRoles profile).Succeeds Faithful (fun _ _ c' =>
      ∀ ns ∈ grantNamespaces profile, HasNamespace c ns → RoleIn profile ns c') {} c := by
    refine (succeeds_forEach (Syncing profile c (p.rangeOrder (grantNamespaces profile)))
      (fun ns todo st c' h => succeeds_syncRole hstays h) _ hstart).bind fun _ st c' hdone => ?_
    refine Routine.Succeeds.bind (succeeds_list (Q := fun _ st' c'' => st' = st ∧ c'' = c')
      ⟨rfl, rfl⟩) ?_
    rintro roles st c' ⟨rfl, rfl⟩
    refine Routine.Succeeds.bind (succeeds_record (Q := fun a _ c'' => a = st ∧ c'' = c')
      ⟨rfl, rfl⟩) ?_
    rintro st _ c' ⟨rfl, rfl⟩
    -- What is collected stands in other namespaces.
    refine (succeeds_forEach (fun _ _ c'' => ∀ ns ∈ st.applied, RoleIn profile ns c'') ?_ roles
      hdone.roles).bind fun _ _ c'' hroles => succeeds_pure fun ns hgrant hns => ?_
    · intro role l st' c'' hroles
      refine succeeds_ite (fun _ => succeeds_pure hroles) fun hnot => ?_
      refine succeeds_deleteIfPresent fun ns hns => ?_
      unfold RoleIn
      rw [find?_dropped_ne]
      · exact hroles ns hns
      · intro he
        have hkey : ns = role.metadata.namespaceName :=
          congrArg ObjectKey.namespaceName (Prod.mk.inj he).2
        exact hnot (hkey ▸ hns)
    · exact hroles ns ((hdone.applied ns).mpr ⟨⟨(hmem ns).mpr hgrant, by simp⟩, hns⟩)
  exact (succeeds_sameOutside hruns (syncRoles_within p)).mono fun _ _ _ h => ⟨h.2, h.1⟩

theorem requeueSandboxes_within (name : String) :
    (requeueSandboxes name).Always Step (fun op _ => op.Within [.sandbox]) st c := by
  refine (always_call (within_read rfl)).bind fun sandboxes st c => ?_
  cases sandboxes with
  | error e => trivial
  | ok sandboxes =>
    refine Routine.Always.forEach _ fun sb _ st c => ?_
    exact (always_call (within_write rfl (by simp))).bind fun _ _ _ => trivial

theorem succeeds_requeueSandboxes (name : String) :
    (requeueSandboxes name).Succeeds Faithful (fun _ _ c' => SameOutside [.sandbox] c c') st c := by
  have hruns : (requeueSandboxes name).Succeeds Faithful (fun _ _ _ => True) st c := by
    refine succeeds_call_bind ?_
    refine succeeds_forEach (fun _ _ _ => True) (fun sb l st c _ => ?_) _ trivial
    exact succeeds_call_bind (succeeds_pure trivial)
  exact (succeeds_sameOutside hruns (requeueSandboxes_within name)).mono fun _ _ _ h => h.2

/-- The profile gets its finalizer and is otherwise as it was. -/
theorem succeeds_ensureFinalizer (hprofile : c.find? .accessProfile profile.key = some profile)
    (hlive : profile.deleting = false) :
    (ensureFinalizer profile).Succeeds Faithful (fun profile' st' c' => st' = st ∧
      Unchanged profile profile' ∧ c'.find? .accessProfile profile.key = some profile' ∧
      SameOutside [.accessProfile] c c') st c := by
  have hwithin : (ensureFinalizer profile).Always Step (fun op _ => op.Within [.accessProfile]) st c :=
    wp_ite (fun _ => trivial) fun _ => always_update (within_write rfl (by simp))
  have hruns : (ensureFinalizer profile).Succeeds Faithful (fun profile' st' c' => st' = st ∧
      Unchanged profile profile' ∧ c'.find? .accessProfile profile.key = some profile') st c := by
    refine succeeds_ite (fun _ => ?_) fun _ => ?_
    · exact succeeds_pure ⟨rfl, ⟨rfl, rfl, rfl⟩, hprofile⟩
    · refine succeeds_update (o := profile) hprofile rfl ⟨rfl, ⟨rfl, rfl, rfl⟩, ?_⟩
      exact find?_settle_self fun h => nomatch hlive.symm.trans h
  exact (succeeds_sameOutside hruns hwithin).mono fun _ _ _ h => ⟨h.1.1, h.1.2.1, h.1.2.2, h.2⟩

/-- The kinds the controller writes. -/
def kinds : List Kind :=
  [.role, .accessProfile, .sandbox]

/-- A pass in which no call fails ends without error, and with the Role of the profile in each of
its grant namespaces that exists. -/
theorem succeeds_reconcile (p : AccessProfileReconciler) {name : String} (hstays : RolesStay c)
    (hprofile : c.find? .accessProfile ⟨"", name⟩ = some profile) (hlive : profile.deleting = false)
    (hst : st = {}) :
    (p.reconcile name).Succeeds Faithful (fun _ _ c' => SameOutside kinds c c' ∧
      (∃ profile', c'.find? .accessProfile ⟨"", name⟩ = some profile' ∧
        Unchanged profile profile') ∧
      ∀ ns ∈ grantNamespaces profile, HasNamespace c ns → RoleIn profile ns c') st c := by
  have hkey₀ : profile.key = ⟨"", name⟩ := key_of_find? hprofile
  refine Routine.Succeeds.bind (succeeds_getOptional (Q := fun o st' c' =>
    o = some profile ∧ st' = {} ∧ c' = c) ⟨hprofile, hst, rfl⟩) ?_
  rintro _ _ c ⟨rfl, rfl, rfl⟩
  refine succeeds_ite (fun h => nomatch hlive.symm.trans h) fun _ => ?_
  refine (succeeds_ensureFinalizer (hkey₀ ▸ hprofile) hlive).bind ?_
  rintro profile' _ c₁ ⟨rfl, hprofile₁, hprofile', hsame₁⟩
  have hkey := hprofile₁.key
  rw [← hprofile₁.grantNamespaces, ← hprofile₁.roleIn]
  have hstays₁ : RolesStay c₁ := by
    intro key role hrole
    rw [hsame₁.find? (by decide)] at hrole
    exact hstays key role hrole
  refine (succeeds_syncRoles p hstays₁ rfl).bind ?_
  rintro missing st c₂ ⟨hsame₂, hroles⟩
  refine (succeeds_requeueSandboxes profile'.metadata.name).bind fun _ st c₃ hsame₃ => ?_
  have hstored₃ : c₃.find? .accessProfile profile'.key = some profile' := by
    rw [hsame₃.find? (by decide), hsame₂.find? (by decide), hkey]
    exact hprofile'
  have hsame : SameOutside kinds c c₃ :=
    ((hsame₁.mono (by simp [kinds])).trans (hsame₂.mono (by simp [kinds]))).trans
      (hsame₃.mono (by simp [kinds]))
  refine Routine.Succeeds.bind (succeeds_updateStatusIfPresent (o := profile') (Q := fun _ _ c' =>
    SameOutside kinds c c' ∧ (∃ profile'', c'.find? .accessProfile ⟨"", name⟩ = some profile'' ∧
      Unchanged profile profile'') ∧
    ∀ ns ∈ grantNamespaces profile', HasNamespace c ns → RoleIn profile' ns c') hstored₃ rfl ?_)
    fun _ _ _ h => succeeds_pure h
  refine ⟨hsame.trans (.write (by simp [kinds]) _), ?_, fun ns hgrant hns => ?_⟩
  · rw [← hkey₀, ← hkey]
    exact ⟨_, find?_write_self c₃ .accessProfile _, hkey, hprofile₁.spec, hprofile₁.deleting⟩
  · obtain ⟨role, hrole, hrules⟩ := hroles ns hgrant (by
      rw [HasNamespace, hsame₁.find? (by decide)]
      exact hns)
    refine ⟨role, ?_, hrules⟩
    rw [find?_write_ne _ _ _ (by simp), hsame₃.find? (by decide)]
    exact hrole

end AccessProfileReconciler

end Kubepark
