import Kubepark.IpAddress
import Kubepark.Podspec

/-!
# What a network policy lets through

The meaning of a NetworkPolicy, as Kubernetes documents it : a rule admits traffic that matches
one of its peers and one of its ports, where no peers means every peer and no ports every port; a
peer with both selectors wants a pod that matches in a namespace that matches; an IP block wants
an address in it and in none of its exceptions.

`buildNetworkPolicy` is read by this meaning. Ingress is exactly what was intended. Egress is for
IPv4 endpoints; the block that is rendered for an IPv6 endpoint holds every address with the same
first 32 bits (`policy_admits_iff`).
-/

namespace Kubepark

open ApiServer Client

/-! ## The meaning of a policy -/

/-- A pod at the other end. The API server labels each namespace with its name. -/
structure PodPeer where
  namespaceName : String
  namespaceLabels : List (String × String)
  labels : List (String × String)
  named : namespaceLabels.lookup labelMetadataName = some namespaceName

/-- A connection of the pods that a policy selects, with the other end of it. -/
structure Traffic where
  /-- The address of the other end. -/
  address : IPAddr
  /-- The pod at the other end, if it is one. -/
  pod : Option PodPeer
  protocol : Protocol
  /-- The port it is made to, on whichever side accepts it. -/
  port : Nat
  /-- The named ports of the pod that accepts it. -/
  portNames : List (String × Protocol × Nat)

def IPBlock.admits (block : IPBlock) (a : IPAddr) : Bool :=
  (CIDR.parse block.cidr).any (·.contains a) &&
    block.except.all fun text => !(CIDR.parse text).any (·.contains a)

/-- The pod matches the selectors of a peer, in a policy of the namespace `ns`. Without a namespace
selector the namespace is the policy's own. -/
def NetworkPolicyPeer.selects (peer : NetworkPolicyPeer) (ns : String) (pod : PodPeer) : Bool :=
  match peer.namespaceSelector, peer.podSelector with
  | none, none => false
  | none, some pods => pod.namespaceName = ns && pods.selects pod.labels
  | some namespaces, none => namespaces.selects pod.namespaceLabels
  | some namespaces, some pods =>
    namespaces.selects pod.namespaceLabels && pods.selects pod.labels

def NetworkPolicyPeer.admits (peer : NetworkPolicyPeer) (ns : String) (t : Traffic) : Bool :=
  match peer.ipBlock with
  | some block => block.admits t.address
  | none => t.pod.any (peer.selects ns)

/-- Whether a port of a policy is that of the connection. The protocol is TCP if it is not given,
and a port that is not given is every port. -/
def NetworkPolicyPort.admits (p : NetworkPolicyPort) (t : Traffic) : Bool :=
  p.protocol.getD .tcp = t.protocol &&
    match p.port with
    | none => true
    | some (.int n) =>
      match p.endPort with
      | none => t.port = n
      | some last => n ≤ t.port && t.port ≤ last
    | some (.str name) => (name, t.protocol, t.port) ∈ t.portNames

def NetworkPolicyRule.admits (rule : NetworkPolicyRule) (ns : String) (t : Traffic) : Bool :=
  (rule.peers.isEmpty || rule.peers.any (·.admits ns t)) &&
    (rule.ports.isEmpty || rule.ports.any (·.admits t))

/-- The policy admits a connection to a pod it selects. -/
def NetworkPolicy.admitsIngress (np : NetworkPolicy) (t : Traffic) : Bool :=
  !np.spec.policyTypes.contains .ingress || np.spec.ingress.any (·.admits np.metadata.namespaceName t)

/-- The policy admits a connection from a pod it selects. -/
def NetworkPolicy.admitsEgress (np : NetworkPolicy) (t : Traffic) : Bool :=
  !np.spec.policyTypes.contains .egress || np.spec.egress.any (·.admits np.metadata.namespaceName t)

/-! ## What is intended -/

/-- The other end is a pod in the namespace `ns` with the label. -/
def Traffic.podOf (t : Traffic) (ns label value : String) : Prop :=
  ∃ pod, t.pod = some pod ∧ pod.namespaceName = ns ∧ pod.labels.lookup label = some value

/-- The connection is one of the gateway to the agent or to an exposed port. -/
def IntendedIngress (sb : Sandbox) (opts : NetPolOptions) (t : Traffic) : Prop :=
  t.podOf opts.gatewayNamespace labelComponent componentGateway ∧ t.protocol = .tcp ∧
    (t.port = agentPort ∨ ∃ p ∈ sb.spec.exposedPorts, t.port = p.port)

/-- The connection is a query of the cluster's DNS. -/
def ToDNS (t : Traffic) : Prop :=
  t.podOf "kube-system" "k8s-app" "kube-dns" ∧ (t.protocol = .udp ∨ t.protocol = .tcp) ∧ t.port = 53

/-- The connection is one to a listed endpoint of the API server. -/
def ToAPIServer (opts : NetPolOptions) (t : Traffic) : Prop :=
  t.protocol = .tcp ∧
    ∃ ep ∈ opts.apiServerEndpoints, IPAddr.parse ep.ip = some t.address ∧ t.port = ep.port

def IntendedEgress (sb : Sandbox) (tpl : SandboxTemplate) (opts : NetPolOptions) (t : Traffic) :
    Prop :=
  ToDNS t ∨ ToAPIServer opts t ∨
    ∃ rule ∈ tpl.spec.egress, rule.admits sb.metadata.namespaceName t = true

/-- The connection is one to an IPv6 address that has the first 32 bits of a listed endpoint, on
the port of that endpoint. -/
def NearAPIServer (opts : NetPolOptions) (t : Traffic) : Prop :=
  t.protocol = .tcp ∧ ∃ ep ∈ opts.apiServerEndpoints, ∃ x y, IPAddr.parse ep.ip = some (.v6 x) ∧
    t.address = .v6 y ∧ y.toNat / 2 ^ 96 = x.toNat / 2 ^ 96 ∧ t.port = ep.port

/-! ## What is rendered -/

section Rendered

variable {sb : Sandbox} {tpl : SandboxTemplate} {opts : NetPolOptions} {t : Traffic} {ns : String}

/-- A peer with one label of its namespace's name and one of the pod. -/
theorem admits_labelled {name label value : String} :
    NetworkPolicyPeer.admits
      { namespaceSelector := some ⟨[(labelMetadataName, name)]⟩
        podSelector := some ⟨[(label, value)]⟩ } ns t = true ↔ t.podOf name label value := by
  simp only [NetworkPolicyPeer.admits, NetworkPolicyPeer.selects, LabelSelector.selects,
    Traffic.podOf, Option.any_eq_true, List.all_cons, List.all_nil, Bool.and_true, Bool.and_eq_true,
    decide_eq_true_eq]
  refine exists_congr fun pod => and_congr_right fun _ => and_congr_left fun _ => ?_
  rw [pod.named, Option.some.injEq]

/-- A port with a protocol and a number. -/
theorem admits_port {protocol : Protocol} {n : Nat} :
    NetworkPolicyPort.admits { protocol := some protocol, port := some (.int n) } t = true ↔
      t.protocol = protocol ∧ t.port = n := by
  simp only [NetworkPolicyPort.admits, Option.getD_some, Bool.and_eq_true, decide_eq_true_eq]
  exact and_congr_left fun _ => eq_comm

/-- A rule with one peer admits what is of this peer and of one of its ports. -/
theorem admits_rule {peer : NetworkPolicyPeer} {p : NetworkPolicyPort} {ps : List NetworkPolicyPort} :
    NetworkPolicyRule.admits { peers := [peer], ports := p :: ps } ns t = true ↔
      peer.admits ns t = true ∧ ∃ q ∈ p :: ps, q.admits t = true := by
  simp only [NetworkPolicyRule.admits, List.isEmpty_cons, Bool.false_or, List.any_cons (a := peer),
    List.any_nil, Bool.or_false, Bool.and_eq_true, List.any_eq_true]

theorem admitsIngress_iff :
    (buildNetworkPolicy sb tpl opts).admitsIngress t = true ↔ IntendedIngress sb opts t := by
  have hrule : (buildNetworkPolicy sb tpl opts).admitsIngress t = true ↔
      NetworkPolicyRule.admits
        { peers :=
            [{ namespaceSelector := some ⟨[(labelMetadataName, opts.gatewayNamespace)]⟩
               podSelector := some ⟨[(labelComponent, componentGateway)]⟩ }]
          ports := { protocol := some .tcp, port := some (.int agentPort) } ::
            sb.spec.exposedPorts.map fun p =>
              { protocol := some .tcp, port := some (.int p.port) } }
        sb.metadata.namespaceName t = true := by
    simp [NetworkPolicy.admitsIngress, buildNetworkPolicy]
  rw [hrule, admits_rule, admits_labelled]
  refine and_congr_right fun _ => ?_
  simp only [List.mem_cons, List.mem_map]
  constructor
  · rintro ⟨q, rfl | ⟨p, hp, rfl⟩, hq⟩
    · obtain ⟨hprotocol, hport⟩ := admits_port.mp hq
      exact ⟨hprotocol, Or.inl hport⟩
    · obtain ⟨hprotocol, hport⟩ := admits_port.mp hq
      exact ⟨hprotocol, Or.inr ⟨p, hp, hport⟩⟩
  · rintro ⟨hprotocol, hport | ⟨p, hp, hport⟩⟩
    · exact ⟨_, Or.inl rfl, admits_port.mpr ⟨hprotocol, hport⟩⟩
    · exact ⟨_, Or.inr ⟨p, hp, rfl⟩, admits_port.mpr ⟨hprotocol, hport⟩⟩

/-- The rule that is rendered for an endpoint. -/
def endpointRule (ep : APIServerEndpoint) : NetworkPolicyRule where
  peers := [{ ipBlock := some { cidr := ep.ip ++ "/32" } }]
  ports := [{ protocol := some .tcp, port := some (.int ep.port) }]

theorem admits_endpointRule {ep : APIServerEndpoint} {a : IPAddr} (h : IPAddr.parse ep.ip = some a) :
    (endpointRule ep).admits ns t = true ↔
      CIDR.contains ⟨a, 32⟩ t.address = true ∧ t.protocol = .tcp ∧ t.port = ep.port := by
  rw [endpointRule, admits_rule]
  refine and_congr ?_ ?_
  · simp [NetworkPolicyPeer.admits, IPBlock.admits, CIDR.parse_bits32 h]
  · simp [admits_port]

theorem admits_dnsRule (ns : String) :
    NetworkPolicyRule.admits
      { peers :=
          [{ namespaceSelector := some ⟨[(labelMetadataName, "kube-system")]⟩
             podSelector := some ⟨[("k8s-app", "kube-dns")]⟩ }]
        ports :=
          [{ protocol := some .udp, port := some (.int 53) },
            { protocol := some .tcp, port := some (.int 53) }] } ns t = true ↔ ToDNS t := by
  rw [admits_rule, admits_labelled]
  refine and_congr_right fun _ => ?_
  simp only [List.mem_cons, List.not_mem_nil, or_false, exists_eq_or_imp, exists_eq_left,
    admits_port]
  exact or_and_right.symm

/-- Egress is DNS, the rules of the endpoints, and those of the template. -/
theorem admitsEgress_iff_rules :
    (buildNetworkPolicy sb tpl opts).admitsEgress t = true ↔ ToDNS t ∨
      (∃ ep ∈ opts.apiServerEndpoints,
        (endpointRule ep).admits sb.metadata.namespaceName t = true) ∨
      ∃ rule ∈ tpl.spec.egress, rule.admits sb.metadata.namespaceName t = true := by
  rw [← admits_dnsRule sb.metadata.namespaceName]
  simp [NetworkPolicy.admitsEgress, buildNetworkPolicy, endpointRule, List.any_append]

/-- What the rules of the endpoints admit : connections to an endpoint, and to the addresses around
an IPv6 one. -/
theorem admits_endpoints_iff
    (haddresses : ∀ ep ∈ opts.apiServerEndpoints, (IPAddr.parse ep.ip).isSome = true) :
    (∃ ep ∈ opts.apiServerEndpoints, (endpointRule ep).admits ns t = true) ↔
      ToAPIServer opts t ∨ NearAPIServer opts t := by
  constructor
  · rintro ⟨ep, hep, hadmits⟩
    obtain ⟨a, ha⟩ := Option.isSome_iff_exists.mp (haddresses ep hep)
    obtain ⟨hblock, hprotocol, hport⟩ := (admits_endpointRule ha).mp hadmits
    cases a with
    | v4 x =>
      rw [CIDR.contains_v4_iff] at hblock
      exact Or.inl ⟨hprotocol, ep, hep, hblock ▸ ha, hport⟩
    | v6 x =>
      obtain ⟨y, haddress, hprefix⟩ := CIDR.contains_v6_iff.mp hblock
      exact Or.inr ⟨hprotocol, ep, hep, x, y, ha, haddress, hprefix, hport⟩
  · rintro (⟨hprotocol, ep, hep, ha, hport⟩ | ⟨hprotocol, ep, hep, x, y, ha, haddress, hprefix, hport⟩)
    · refine ⟨ep, hep, (admits_endpointRule ha).mpr ⟨?_, hprotocol, hport⟩⟩
      cases t.address with
      | v4 x => exact CIDR.contains_v4_iff.mpr rfl
      | v6 x => exact CIDR.contains_v6_iff.mpr ⟨x, rfl, rfl⟩
    · exact ⟨ep, hep, (admits_endpointRule ha).mpr
        ⟨CIDR.contains_v6_iff.mpr ⟨y, haddress, hprefix⟩, hprotocol, hport⟩⟩

end Rendered

/-- The policy admits exactly the intended ingress. A connection to the outside is admitted exactly
when it is intended, if and only if it is not one to an IPv6 address around a listed endpoint, on
its port, that is neither an endpoint itself nor allowed as DNS or by the template. -/
theorem policy_admits_iff (sb : Sandbox) (tpl : SandboxTemplate) (opts : NetPolOptions)
    (haddresses : ∀ ep ∈ opts.apiServerEndpoints, (IPAddr.parse ep.ip).isSome = true) (t : Traffic) :
    ((buildNetworkPolicy sb tpl opts).admitsIngress t = true ↔ IntendedIngress sb opts t) ∧
    (((buildNetworkPolicy sb tpl opts).admitsEgress t = true ↔ IntendedEgress sb tpl opts t) ↔
      (NearAPIServer opts t → ToAPIServer opts t ∨ ToDNS t ∨
        ∃ rule ∈ tpl.spec.egress, rule.admits sb.metadata.namespaceName t = true)) := by
  refine ⟨admitsIngress_iff, ?_⟩
  rw [admitsEgress_iff_rules, admits_endpoints_iff haddresses, IntendedEgress]
  tauto

namespace Team

/-- The team's sandbox, for its policy. -/
def walled : Sandbox :=
  ⟨{ name := "dev", namespaceName := "team", uid := "u1" },
    { template := "base", owner := { name := "alice" } }, {}⟩

/-- A template without egress of its own. -/
def closed : SandboxTemplate :=
  ⟨{ name := "base" }, { image := "base", homeSize := 1 }, ()⟩

/-- The API server at one address. -/
def serverAt (ip : String) : NetPolOptions where
  gatewayNamespace := "kubepark-system"
  apiServerEndpoints := [⟨ip, 6443⟩]

/-- A connection from the sandbox to port 6443 of an address. -/
def dials (address : IPAddr) : Traffic where
  address := address
  pod := none
  protocol := .tcp
  port := 6443
  portNames := []

end Team

/-- The API server at an IPv4 address can be reached, as intended. -/
theorem policy_admits_server :
    ((buildNetworkPolicy Team.walled Team.closed (Team.serverAt "10.0.0.1")).admitsEgress
      (Team.dials (.v4 0x0a000001)) = true ↔
        IntendedEgress Team.walled Team.closed (Team.serverAt "10.0.0.1")
          (Team.dials (.v4 0x0a000001))) ∧
    (buildNetworkPolicy Team.walled Team.closed (Team.serverAt "10.0.0.1")).admitsEgress
      (Team.dials (.v4 0x0a000001)) = true := by
  refine ⟨(policy_admits_iff Team.walled Team.closed (Team.serverAt "10.0.0.1") (fun ep hep => ?_)
    (Team.dials (.v4 0x0a000001))).2.mpr fun h => ?_, by decide +kernel⟩
  · obtain rfl := List.mem_singleton.mp hep
    decide +kernel
  · obtain ⟨-, ep, hep, x, y, -, haddress, -⟩ := h
    cases haddress

/-- With the API server at an IPv6 address, another address of the same provider is admitted. -/
theorem policy_admits_stranger :
    (buildNetworkPolicy Team.walled Team.closed (Team.serverAt "2001:db8::1")).admitsEgress
      (Team.dials (.v6 0x20010db8ffff00000000000000000001)) = true ∧
    ¬IntendedEgress Team.walled Team.closed (Team.serverAt "2001:db8::1")
      (Team.dials (.v6 0x20010db8ffff00000000000000000001)) := by
  refine ⟨by decide +kernel, ?_⟩
  rintro (⟨⟨pod, hpod, -⟩, -⟩ | ⟨-, ep, hep, ha, -⟩ | ⟨rule, hrule, -⟩)
  · cases hpod
  · obtain rfl := List.mem_singleton.mp hep
    exact absurd ha (by decide +kernel)
  · cases hrule

end Kubepark
