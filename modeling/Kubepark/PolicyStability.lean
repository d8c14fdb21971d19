import Kubepark.ListOrder
import Kubepark.NetworkTraffic
import Kubepark.PassGuarantees

/-!
# When the network policy settles

`reconcileNetworkPolicy` renders the policy from the listed EndpointSlices and writes it when it
differs from what is stored. `PolicyStep` is the server it talks to : a List has no fixed order,
and a policy port that does not name its protocol is stored with TCP.

The rendered policy holds the endpoints in the order of the list, and the ports of the template
as they are written. So a second run writes nothing exactly when the order of the slices does
not matter and every port of the template names its protocol (`policy_settled_iff`).
-/

namespace Kubepark

open ApiServer Client SandboxReconciler Routine

/-! ## The server -/

/-- A port as it is stored. -/
def NetworkPolicyPort.defaulted (p : NetworkPolicyPort) : NetworkPolicyPort :=
  { p with protocol := some (p.protocol.getD .tcp) }

def NetworkPolicyRule.defaulted (rule : NetworkPolicyRule) : NetworkPolicyRule :=
  { rule with ports := rule.ports.map (·.defaulted) }

def NetworkPolicySpec.defaulted (spec : NetworkPolicySpec) : NetworkPolicySpec :=
  { spec with
    ingress := spec.ingress.map (·.defaulted)
    egress := spec.egress.map (·.defaulted) }

/-- A policy as it is stored. -/
def defaultedPolicy (np : NetworkPolicy) : NetworkPolicy :=
  { np with spec := np.spec.defaulted }

/-- The server with lists in any order and with the defaults of policies filled in. -/
def PolicyStep : (op : Call) → Cluster → Resp Spec Status op → Cluster → Prop
  | .create .networkPolicy np, c, a, c' => Step (.create .networkPolicy (defaultedPolicy np)) c a c'
  | .update .networkPolicy np, c, a, c' => Step (.update .networkPolicy (defaultedPolicy np)) c a c'
  | op, c, a, c' => ListStep op c a c'

theorem policyStep_total (op : Call) (c : Cluster) : ∃ a c', PolicyStep op c a c' := by
  cases op with
  | create k o =>
    cases k with
    | networkPolicy => exact ⟨_, _, step_handle (.create _ (defaultedPolicy o)) c⟩
    | _ => exact ⟨_, _, ListStep.of_step (step_handle _ c)⟩
  | update k o =>
    cases k with
    | networkPolicy => exact ⟨_, _, step_handle (.update _ (defaultedPolicy o)) c⟩
    | _ => exact ⟨_, _, ListStep.of_step (step_handle _ c)⟩
  | _ => exact ⟨_, _, ListStep.of_step (step_handle _ c)⟩

/-- The EndpointSlices of `kubernetes.default`. -/
def apiServerSlices (c : Cluster) : List EndpointSlice :=
  (c.objs .endpointSlice).filter fun o =>
    inNamespace "default" o && matchingLabel "kubernetes.io/service-name" "kubernetes" o

/-- Where the policy of `sb` is. -/
def policyKey (sb : Sandbox) : ObjectKey :=
  ⟨sb.metadata.namespaceName, netPolName sb.metadata.name⟩

/-! ## The calls of a run -/

section Calls

variable {c : Cluster} {st : SandboxStatus} {P : Call → Cluster → Prop}

theorem wp_apiServerEndpoints_any {Q : List APIServerEndpoint → SandboxStatus → Cluster → Prop} :
    apiServerEndpoints.wp PolicyStep P Q st c ↔
      P (.list .endpointSlice fun o => inNamespace "default" o &&
          matchingLabel "kubernetes.io/service-name" "kubernetes" o) c ∧
        ∀ l : List EndpointSlice, l.Perm (apiServerSlices c) →
          Q (l.flatMap sliceEndpoints) st c := by
  unfold apiServerEndpoints tryList
  rw [wp_bind, wp_lift]
  refine and_congr_right fun _ => ⟨fun h l hl => ?_, fun h a c' ha => ?_⟩
  · have hstep := h (.ok l) c ⟨.ok (apiServerSlices c), step_handle _ _, hl⟩
    exact hstep
  · obtain ⟨a₀, ⟨rfl, rfl⟩ | ⟨e, -, hfails, -⟩, horder⟩ := id ha
    · cases a with
      | ok l => exact h l horder
      | error e => cases horder
    · obtain rfl : a₀ = .error e := hfails
      cases a with
      | ok l => cases horder
      | error e => trivial

theorem wp_getOptional_policy {key : ObjectKey}
    {Q : Option NetworkPolicy → SandboxStatus → Cluster → Prop} :
    (getOptional Kind.networkPolicy key).wp PolicyStep P Q st c ↔
      P (.get .networkPolicy key) c ∧ Q (c.find? .networkPolicy key) st c := by
  refine Iff.trans ?_ wp_getOptional
  have hstep : ∀ a c', PolicyStep (.get .networkPolicy key) c a c' ↔
      Step (.get .networkPolicy key) c a c' := fun a c' =>
    ⟨ListStep.step (by rintro ⟨_, _, h⟩; cases h), ListStep.of_step⟩
  unfold getOptional tryGet
  simp only [wp_bind, wp_lift, Prog.wp, Prog.ask, wp_ignoring, hstep]

theorem wp_createIfAbsent_policy {np : NetworkPolicy}
    {Q : Unit → SandboxStatus → Cluster → Prop} :
    (createIfAbsent Kind.networkPolicy np).wp PolicyStep P Q st c ↔
      P (.create .networkPolicy np) c ∧ (c.admits Kind.networkPolicy np = true →
        Q () st (c.ensured .networkPolicy (defaultedPolicy np))) := by
  have hstored : (createIfAbsent Kind.networkPolicy (defaultedPolicy np)).wp Step
      (fun _ _ => P (.create .networkPolicy np) c) Q st c ↔ _ := wp_createIfAbsent
  refine Iff.trans ?_ hstored
  unfold createIfAbsent tryCreate
  simp only [wp_bind, wp_lift, Prog.wp, Prog.ask, wp_ignoring]
  exact Iff.rfl

theorem wp_update_policy {np : NetworkPolicy}
    {Q : NetworkPolicy → SandboxStatus → Cluster → Prop} :
    (update Kind.networkPolicy np).wp PolicyStep P Q st c ↔
      P (.update .networkPolicy np) c ∧ ∀ old, c.find? .networkPolicy np.key = some old →
        old.metadata.resourceVersion = np.metadata.resourceVersion →
          Q (c.versioned (updated old (defaultedPolicy np))) st
            (c.settle .networkPolicy (updated old (defaultedPolicy np))) := by
  have hstored : (update Kind.networkPolicy (defaultedPolicy np)).wp Step
      (fun _ _ => P (.update .networkPolicy np) c) Q st c ↔ _ := wp_update
  refine Iff.trans ?_ hstored
  unfold update tryUpdate
  simp only [wp_bind, wp_lift, Prog.wp, Prog.ask, wp_ofExcept]
  exact Iff.rfl

end Calls

/-! ## One run -/

section Run

variable (r : SandboxReconciler) (sb : Sandbox) (tpl : SandboxTemplate) {c : Cluster}

/-- What the policy is to be when the slices are listed in this order. -/
def renderedSpec (l : List EndpointSlice) : NetworkPolicySpec :=
  (r.desiredNetworkPolicy sb tpl (l.flatMap sliceEndpoints)).spec

/-- The policy of `sb` is stored with this spec. -/
def PolicyStored (c : Cluster) (spec : NetworkPolicySpec) : Prop :=
  ∃ np, c.find? .networkPolicy (policyKey sb) = some np ∧ np.spec = spec

theorem PolicyStored.iff_eq {sb : Sandbox} {spec spec' : NetworkPolicySpec}
    (h : PolicyStored sb c spec) : PolicyStored sb c spec' ↔ spec = spec' := by
  obtain ⟨np, hnp, rfl⟩ := h
  refine ⟨?_, fun h => ⟨np, hnp, h⟩⟩
  rintro ⟨np', hnp', rfl⟩
  rw [Option.some.inj (hnp.symm.trans hnp')]

/-- What the server keeps to : the namespace of the sandbox is there, what is stored has its
defaults, and what is deleted without finalizers is gone. -/
structure PolicyKept (c : Cluster) (sb : Sandbox) : Prop where
  admitted : (c.find? .namespace ⟨"", sb.metadata.namespaceName⟩).isSome = true
  defaulted : ∀ np, c.find? .networkPolicy (policyKey sb) = some np → np.spec.defaulted = np.spec
  stays : PolicyStays c sb

/-- The write of a run that lists the slices in the order `l`. -/
def policyWrite (l : List EndpointSlice) (c : Cluster) : Option Call :=
  match c.find? .networkPolicy (policyKey sb) with
  | none => some (.create .networkPolicy (r.desiredNetworkPolicy sb tpl (l.flatMap sliceEndpoints)))
  | some existing =>
    if existing.spec ≠ renderedSpec r sb tpl l then
      some (.update .networkPolicy { existing with spec := renderedSpec r sb tpl l })
    else none

/-- What that run leaves. -/
def policyAfter (l : List EndpointSlice) (c : Cluster) : Cluster :=
  match c.find? .networkPolicy (policyKey sb) with
  | none => c.write .networkPolicy (c.created
      (defaultedPolicy (r.desiredNetworkPolicy sb tpl (l.flatMap sliceEndpoints))))
  | some existing =>
    if existing.spec ≠ renderedSpec r sb tpl l then
      c.settle .networkPolicy
        (updated existing (defaultedPolicy { existing with spec := renderedSpec r sb tpl l }))
    else c

variable {r sb tpl}

/-- A run is its list, its read and the write of the order it was given. -/
theorem wp_reconcileNetworkPolicy_any {st : SandboxStatus} {P : Call → Cluster → Prop}
    {Q : Cluster → Prop}
    (hadmitted : (c.find? .namespace ⟨"", sb.metadata.namespaceName⟩).isSome = true)
    (hreads : ∀ op, op.target = none → P op c) :
    (r.reconcileNetworkPolicy sb tpl).wp PolicyStep P (fun _ _ c₁ => Q c₁) st c ↔
      ∀ l : List EndpointSlice, l.Perm (apiServerSlices c) →
        (∀ op ∈ policyWrite r sb tpl l c, P op c) ∧ Q (policyAfter r sb tpl l c) := by
  unfold reconcileNetworkPolicy
  rw [wp_bind, wp_apiServerEndpoints_any, and_iff_right (hreads _ rfl)]
  refine forall₂_congr fun l hl => ?_
  rw [wp_bind, wp_getOptional_policy, and_iff_right (hreads _ rfl)]
  have hkey : (r.desiredNetworkPolicy sb tpl (l.flatMap sliceEndpoints)).key = policyKey sb := rfl
  rw [hkey, policyWrite, policyAfter]
  cases hnp : c.find? .networkPolicy (policyKey sb) with
  | none =>
    have hadmits : c.admits Kind.networkPolicy
        (r.desiredNetworkPolicy sb tpl (l.flatMap sliceEndpoints)) = true := by
      rw [admits]
      exact Bool.or_eq_true_iff.mpr (Or.inr hadmitted)
    have hensured : c.ensured .networkPolicy
        (defaultedPolicy (r.desiredNetworkPolicy sb tpl (l.flatMap sliceEndpoints))) =
          c.write .networkPolicy (c.created
            (defaultedPolicy (r.desiredNetworkPolicy sb tpl (l.flatMap sliceEndpoints)))) := by
      rw [ensured, show Object.key _ = policyKey sb from rfl, hnp]
    rw [wp_createIfAbsent_policy, hensured]
    simp [hadmits]
  | some existing =>
    have hexisting := (key_of_find? hnp).symm ▸ hnp
    have hrendered : (r.desiredNetworkPolicy sb tpl (l.flatMap sliceEndpoints)).spec =
      renderedSpec r sb tpl l := rfl
    dsimp only
    rw [hrendered]
    by_cases hspec : existing.spec = renderedSpec r sb tpl l
    · simp [hspec]
    · rw [if_pos hspec, if_pos hspec, if_pos hspec, wp_bind, wp_update_policy]
      refine and_congr (by simp) ⟨fun h => h existing hexisting rfl, fun h old hold _ => ?_⟩
      obtain rfl : existing = old := Option.some.inj (hexisting.symm.trans hold)
      exact h

/-- A run leaves the policy as rendered, with its defaults. -/
theorem policyStored_policyAfter (hkept : PolicyKept c sb) (l : List EndpointSlice) :
    PolicyStored sb (policyAfter r sb tpl l c) (renderedSpec r sb tpl l).defaulted := by
  rw [policyAfter]
  cases hnp : c.find? .networkPolicy (policyKey sb) with
  | none => exact ⟨_, find?_write_self _ _ (c.created _), rfl⟩
  | some existing =>
    by_cases hspec : existing.spec = renderedSpec r sb tpl l
    · simp only [ne_eq, hspec, not_true_eq_false, ↓reduceIte]
      exact ⟨existing, hnp, by rw [← hkept.defaulted existing hnp, hspec]⟩
    · simp only [ne_eq, hspec, not_false_eq_true, ↓reduceIte]
      refine ⟨_, (congrArg _ (key_of_find? hnp).symm).trans
        (find?_settle_self (hkept.stays existing hnp)), rfl⟩

theorem policyWrite_eq_none {l : List EndpointSlice} :
    policyWrite r sb tpl l c = none ↔ PolicyStored sb c (renderedSpec r sb tpl l) := by
  rw [policyWrite, PolicyStored]
  cases c.find? .networkPolicy (policyKey sb) with
  | none => simp
  | some existing => simp

theorem policyWrite_target {l : List EndpointSlice} {op : Call}
    (h : policyWrite r sb tpl l c = some op) : op.target ≠ none := by
  rw [policyWrite] at h
  split at h
  · cases h
    simp [Op.target]
  · split_ifs at h
    cases h
    simp [Op.target]

theorem sameOutside_policyAfter (l : List EndpointSlice) :
    SameOutside [.networkPolicy] c (policyAfter r sb tpl l c) := by
  rw [policyAfter]
  split
  · exact .write (by simp) _
  · split_ifs
    · exact .settle (by simp) _
    · exact .refl _ _

theorem apiServerSlices_policyAfter (l : List EndpointSlice) :
    apiServerSlices (policyAfter r sb tpl l c) = apiServerSlices c := by
  rw [apiServerSlices, apiServerSlices, (sameOutside_policyAfter l).objs (by decide)]

end Run

/-! ## The rendered spec and its defaults -/

theorem map_eq_self {α : Type} {f : α → α} {l : List α} : l.map f = l ↔ ∀ a ∈ l, f a = a := by
  have h : l.map f = l.map id ↔ ∀ a ∈ l, f a = id a := List.map_inj_left
  rwa [List.map_id] at h

theorem NetworkPolicyPort.defaulted_eq_self {p : NetworkPolicyPort} :
    p.defaulted = p ↔ p.protocol ≠ none := by
  obtain ⟨protocol, port, endPort⟩ := p
  cases protocol <;> simp [NetworkPolicyPort.defaulted]

theorem NetworkPolicyRule.defaulted_eq_self {rule : NetworkPolicyRule} :
    rule.defaulted = rule ↔ ∀ p ∈ rule.ports, p.protocol ≠ none := by
  obtain ⟨peers, ports⟩ := rule
  simp only [NetworkPolicyRule.defaulted, NetworkPolicyRule.mk.injEq, true_and, map_eq_self,
    NetworkPolicyPort.defaulted_eq_self]

/-- Every port of the template's egress names its protocol. -/
def NamesProtocols (tpl : SandboxTemplate) : Prop :=
  ∀ rule ∈ tpl.spec.egress, ∀ p ∈ rule.ports, p.protocol ≠ none

/-- Any two of the slices give the same endpoints either way round. With one slice that has
endpoints this holds. -/
def OrderFree (c : Cluster) : Prop :=
  (apiServerSlices c).Pairwise fun a b =>
    sliceEndpoints a ++ sliceEndpoints b = sliceEndpoints b ++ sliceEndpoints a

/-- Parts that commute can be put together in any order. -/
theorem flatMap_perm {α β : Type} {f : α → List β} {l₁ l₂ : List α} (hl : l₁.Perm l₂)
    (h : l₁.Pairwise fun a b => f a ++ f b = f b ++ f a) : l₁.flatMap f = l₂.flatMap f := by
  induction hl with
  | nil => rfl
  | cons a _ ih => rw [List.flatMap_cons, List.flatMap_cons, ih (List.Pairwise.of_cons h)]
  | swap a b l =>
    have hab := List.rel_of_pairwise_cons h List.mem_cons_self
    simp only [List.flatMap_cons, ← List.append_assoc, hab]
  | trans hl₁ _ ih₁ ih₂ => exact (ih₁ h).trans (ih₂ ((hl₁.pairwise_iff Eq.symm).mp h))

/-- If every order gives the same, any two parts commute. -/
theorem pairwise_of_flatMap_perm {α β : Type} {f : α → List β} {l : List α}
    (h : ∀ l' : List α, l'.Perm l → l'.flatMap f = l.flatMap f) :
    l.Pairwise fun a b => f a ++ f b = f b ++ f a := by
  refine List.pairwise_iff_forall_sublist.mpr fun {a b} hsub => ?_
  obtain ⟨rest, hperm⟩ := hsub.exists_perm_append
  have hab := h _ hperm.symm
  have hba := h _ ((List.Perm.swap a b rest).trans hperm.symm)
  have heq := hab.trans hba.symm
  simp only [List.cons_append, List.nil_append, List.flatMap_cons, ← List.append_assoc] at heq
  exact List.append_cancel_right heq

theorem endpointRule_injective : Function.Injective endpointRule := by
  rintro ⟨ip, port⟩ ⟨ip', port'⟩ h
  simp only [endpointRule, NetworkPolicyRule.mk.injEq, List.cons.injEq, and_true,
    NetworkPolicyPeer.mk.injEq, Option.some.injEq, IPBlock.mk.injEq, NetworkPolicyPort.mk.injEq,
    IntOrString.int.injEq, true_and, String.append_left_inj] at h
  rw [h.1, h.2]

section Spec

variable {r : SandboxReconciler} {sb : Sandbox} {tpl : SandboxTemplate} {l₁ l₂ : List EndpointSlice}

/-- The ingress rule is rendered with its defaults, and does not depend on the slices. -/
theorem renderedSpec_ingress :
    (renderedSpec r sb tpl l₁).ingress.map (·.defaulted) = (renderedSpec r sb tpl l₂).ingress := by
  refine congrArg (fun ports => [NetworkPolicyRule.mk _ (_ :: ports)]) ?_
  refine map_eq_self.mpr fun p hp => NetworkPolicyPort.defaulted_eq_self.mpr ?_
  obtain ⟨exposed, -, rfl⟩ := List.mem_map.mp hp
  simp

/-- The rules of the endpoints are rendered with their defaults. -/
theorem renderedSpec_egress :
    (renderedSpec r sb tpl l₁).egress.map (·.defaulted) = (renderedSpec r sb tpl l₂).egress ↔
      (l₁.flatMap sliceEndpoints).map endpointRule ++ tpl.spec.egress.map (·.defaulted) =
        (l₂.flatMap sliceEndpoints).map endpointRule ++ tpl.spec.egress := by
  have hendpoints : ((l₁.flatMap sliceEndpoints).map endpointRule ++ tpl.spec.egress).map
      (·.defaulted) =
        (l₁.flatMap sliceEndpoints).map endpointRule ++ tpl.spec.egress.map (·.defaulted) := by
    rw [List.map_append, List.map_map]
    rfl
  rw [← hendpoints]
  exact List.cons_inj_right _

/-- One order with its defaults is another order as rendered : the same endpoints, and nothing
of the template to fill in. -/
theorem renderedSpec_defaulted_eq (hl : l₁.Perm l₂) :
    (renderedSpec r sb tpl l₁).defaulted = renderedSpec r sb tpl l₂ ↔
      l₁.flatMap sliceEndpoints = l₂.flatMap sliceEndpoints ∧ NamesProtocols tpl := by
  have hegress : (renderedSpec r sb tpl l₁).defaulted = renderedSpec r sb tpl l₂ ↔
      (renderedSpec r sb tpl l₁).egress.map (·.defaulted) = (renderedSpec r sb tpl l₂).egress :=
    ⟨congrArg NetworkPolicySpec.egress, fun h =>
      congrArg₂ (NetworkPolicySpec.mk _ _) renderedSpec_ingress h⟩
  have hlength : (l₁.flatMap sliceEndpoints).length = (l₂.flatMap sliceEndpoints).length :=
    (hl.flatMap_right _).length_eq
  rw [hegress, renderedSpec_egress]
  constructor
  · intro h
    obtain ⟨hendpoints, htemplate⟩ := List.append_inj h (by simpa using hlength)
    refine ⟨List.map_injective_iff.mpr endpointRule_injective hendpoints, fun rule hrule => ?_⟩
    exact NetworkPolicyRule.defaulted_eq_self.mp (map_eq_self.mp htemplate rule hrule)
  · rintro ⟨hendpoints, hnames⟩
    have htemplate := map_eq_self.mpr fun rule hrule =>
      NetworkPolicyRule.defaulted_eq_self.mpr (hnames rule hrule)
    rw [hendpoints, htemplate]

end Spec

/-! ## Two runs -/

/-- Once the policy has been reconciled without error, reconciling it again writes nothing. -/
def PolicyStable (r : SandboxReconciler) (sb : Sandbox) (tpl : SandboxTemplate) (c : Cluster) :
    Prop :=
  ∀ st t st₁ c₁, (r.reconcileNetworkPolicy sb tpl st).Exec PolicyStep c t (.ok (), st₁) c₁ →
    ∀ st₂ t₂ c₂, (r.reconcileNetworkPolicy sb tpl st₂).Visits PolicyStep c₁ t₂ c₂ →
      ∀ e ∈ t₂, e.1.target = none

section Stable

variable {r : SandboxReconciler} {sb : Sandbox} {tpl : SandboxTemplate} {c : Cluster}

/-- A run writes nothing when the stored policy is the rendered one, whatever the order. -/
theorem visits_reads_iff (st : SandboxStatus)
    (hadmitted : (c.find? .namespace ⟨"", sb.metadata.namespaceName⟩).isSome = true) :
    (∀ t c', (r.reconcileNetworkPolicy sb tpl st).Visits PolicyStep c t c' →
      ∀ e ∈ t, e.1.target = none) ↔
      ∀ l : List EndpointSlice, l.Perm (apiServerSlices c) →
        PolicyStored sb c (renderedSpec r sb tpl l) := by
  have hwp : (∀ t c', (r.reconcileNetworkPolicy sb tpl st).Visits PolicyStep c t c' →
      ∀ e ∈ t, e.1.target = none) ↔ (r.reconcileNetworkPolicy sb tpl).wp PolicyStep
        (fun op _ => op.target = none) (fun _ _ _ => True) st c := by
    refine ⟨fun h => ?_, fun h t c' hv => hv.wp h⟩
    refine Prog.wp_mono (Prog.wp_of_visits policyStep_total h) (fun _ _ => id) fun a s' _ => ?_
    obtain ⟨a | a, st'⟩ := a <;> trivial
  rw [hwp, wp_reconcileNetworkPolicy_any hadmitted fun _ => id]
  refine forall₂_congr fun l _ => ?_
  rw [← policyWrite_eq_none, and_iff_left trivial]
  refine ⟨fun h => ?_, fun h op hop => by simp [h] at hop⟩
  rw [Option.eq_none_iff_forall_ne_some]
  exact fun op hop => policyWrite_target hop (h op hop)

theorem policyStable_iff (hkept : PolicyKept c sb) :
    PolicyStable r sb tpl c ↔ ∀ l₁ : List EndpointSlice, l₁.Perm (apiServerSlices c) →
      ∀ l₂ : List EndpointSlice, l₂.Perm (apiServerSlices c) →
        (renderedSpec r sb tpl l₁).defaulted = renderedSpec r sb tpl l₂ := by
  have hruns : PolicyStable r sb tpl c ↔ ∀ st, (r.reconcileNetworkPolicy sb tpl).Ends PolicyStep
      (fun _ _ c₁ => ∀ st₂ t₂ c₂, (r.reconcileNetworkPolicy sb tpl st₂).Visits PolicyStep c₁ t₂ c₂ →
        ∀ e ∈ t₂, e.1.target = none) st c := by
    refine forall_congr' fun st => ⟨fun h => ?_, fun h t st₁ c₁ hexec => (hexec.wp h).2⟩
    refine Prog.wp_of_exec fun t a c₁ hexec => ?_
    obtain ⟨a | a, st₁⟩ := a
    · trivial
    · exact h t st₁ c₁ hexec
  have hsecond : ∀ l₁, (∀ st₂ t₂ c₂, (r.reconcileNetworkPolicy sb tpl st₂).Visits PolicyStep
      (policyAfter r sb tpl l₁ c) t₂ c₂ → ∀ e ∈ t₂, e.1.target = none) ↔
        ∀ l₂ : List EndpointSlice, l₂.Perm (apiServerSlices c) →
          (renderedSpec r sb tpl l₁).defaulted = renderedSpec r sb tpl l₂ := by
    intro l₁
    have hsame : SameOutside [.networkPolicy] c (policyAfter r sb tpl l₁ c) :=
      sameOutside_policyAfter l₁
    have hadmitted := hkept.admitted
    rw [← hsame.find? (by decide)] at hadmitted
    simp only [visits_reads_iff _ hadmitted, apiServerSlices_policyAfter, forall_const,
      (policyStored_policyAfter hkept l₁).iff_eq]
  rw [hruns]
  refine ⟨fun h l₁ hl₁ => ?_, fun h st => ?_⟩
  · have hend := (wp_reconcileNetworkPolicy_any hkept.admitted fun _ _ => trivial).mp (h {})
    exact (hsecond l₁).mp (hend l₁ hl₁).2
  · refine (wp_reconcileNetworkPolicy_any hkept.admitted fun _ _ => trivial).mpr fun l₁ hl₁ => ?_
    exact ⟨fun _ _ => trivial, (hsecond l₁).mpr (h l₁ hl₁)⟩

/-- Reconciling the policy settles after one run exactly when the endpoints do not depend on the
order of the slices and the template leaves no protocol out. -/
theorem policy_settled_iff (hkept : PolicyKept c sb) :
    PolicyStable r sb tpl c ↔ OrderFree c ∧ NamesProtocols tpl := by
  rw [policyStable_iff hkept]
  constructor
  · intro h
    have hperm := List.Perm.refl (apiServerSlices c)
    refine ⟨pairwise_of_flatMap_perm fun l hl => ?_, ?_⟩
    · exact ((renderedSpec_defaulted_eq hl).mp (h l hl _ hperm)).1
    · exact ((renderedSpec_defaulted_eq hperm).mp (h _ hperm _ hperm)).2
  · rintro ⟨horder, hnames⟩ l₁ hl₁ l₂ hl₂
    have hl := hl₁.trans hl₂.symm
    refine (renderedSpec_defaulted_eq hl).mpr ⟨flatMap_perm hl ?_, hnames⟩
    exact (hl₁.pairwise_iff Eq.symm).mpr horder

end Stable

namespace Team

/-- An EndpointSlice of the API server. -/
def slice (name ip : String) : EndpointSlice :=
  ⟨{ name := name, namespaceName := "default",
     labels := [("kubernetes.io/service-name", "kubernetes")] },
    { endpoints := [{ addresses := [ip] }], ports := [some 6443] }, ()⟩

/-- The team's namespace before the policy is made. -/
def servedBy (slices : List EndpointSlice) : Cluster :=
  .ofObjects (fun
    | .namespace => [⟨{ name := "team" }, (), ()⟩]
    | .endpointSlice => slices
    | _ => []) 0

/-- A template that opens port 443. -/
def reaching (protocol : Option Protocol) : SandboxTemplate :=
  { closed with spec.egress := [{ ports := [{ protocol := protocol, port := some (.int 443) }] }] }

theorem policyKept_servedBy (slices : List EndpointSlice) :
    PolicyKept (servedBy slices) walled where
  admitted := rfl
  defaulted := fun _ h => nomatch h
  stays := fun _ h => nomatch h

end Team

/-- With one slice and a template that names its protocols the policy settles. -/
theorem policy_settled_single :
    PolicyStable Team.reconciler Team.walled (Team.reaching (some .tcp))
      (Team.servedBy [Team.slice "kubernetes" "10.0.0.1"]) := by
  refine (policy_settled_iff (Team.policyKept_servedBy _)).mpr ⟨?_, ?_⟩
  · exact List.pairwise_singleton _ _
  · intro rule hrule p hp
    obtain rfl := List.mem_singleton.mp hrule
    obtain rfl := List.mem_singleton.mp hp
    simp

/-- It does not with two slices, nor with a port that leaves its protocol out. -/
theorem policy_rewritten :
    ¬PolicyStable Team.reconciler Team.walled Team.closed
        (Team.servedBy [Team.slice "kubernetes" "10.0.0.1", Team.slice "kubernetes-2" "10.0.0.2"]) ∧
      ¬PolicyStable Team.reconciler Team.walled (Team.reaching none)
        (Team.servedBy [Team.slice "kubernetes" "10.0.0.1"]) := by
  constructor
  · intro h
    have hspec := (policyStable_iff (Team.policyKept_servedBy _)).mp h _ (List.Perm.refl _) _
      (List.reverse_perm _)
    exact absurd hspec (by decide +kernel)
  · intro h
    have hspec := (policyStable_iff (Team.policyKept_servedBy _)).mp h _ (List.Perm.refl _) _
      (List.Perm.refl _)
    exact absurd hspec (by decide +kernel)

end Kubepark
