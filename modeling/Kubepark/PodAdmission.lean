import Kubepark.RouteNames

/-!
# Pods the API server admits

`buildPod` puts names of its own beside names from the sandbox and numbers from the template.
`SchemaAdmitted` is what the CRD schemas and their validation rules leave of a sandbox and a
template, `Admissible` what the API server asks of a pod. The volumes are fixed and the user is
never root, but the rules for an exposed port do not know of the agent's own port `ssh`, and those
for the name of a sandbox allow a dot, which a hostname has not (`buildPod_admissible_iff`).
-/

namespace Kubepark

open Gateway

/-! ## The rules -/

/-- A sandbox and a template as the CRD schemas and validation rules admit them. -/
structure SchemaAdmitted (sb : Sandbox) (tpl : SandboxTemplate) : Prop where
  name : admitsSandboxName sb.metadata.name = true
  ports : ∀ p ∈ sb.spec.exposedPorts, admitsPortName p.name = true
  /-- The ports are a map by their names. -/
  distinct : (sb.spec.exposedPorts.map (·.name)).Nodup
  user : ∀ uid, tpl.spec.runAsUser = some uid → 1 ≤ uid

/-- An IANA service name, as Kubernetes takes it for a port : at most 15 letters, digits and
hyphens, with a letter, and no hyphen at an end or after another one. -/
structure IsPortName (s : String) : Prop where
  chars : ∀ c ∈ s.toList, isNameChar c = true
  letter : ∃ c ∈ s.toList, c.isLower = true
  first : s.toList.head? ≠ some '-'
  last : s.toList.getLast? ≠ some '-'
  undashed : ¬['-', '-'] <:+: s.toList
  length : s.length ≤ 15

/-- What the API server asks of a pod. -/
structure Admissible (pod : Pod) : Prop where
  portNames : ∀ c ∈ pod.spec.initContainers ++ pod.spec.containers, ∀ p ∈ c.ports,
    IsPortName p.name
  portsDistinct : ∀ c ∈ pod.spec.initContainers ++ pod.spec.containers,
    (c.ports.map (·.name)).Nodup
  volumesDistinct : (pod.spec.volumes.map (·.name)).Nodup
  mounts : ∀ c ∈ pod.spec.initContainers ++ pod.spec.containers, ∀ m ∈ c.volumeMounts,
    m.name ∈ pod.spec.volumes.map (·.name)
  hostname : isDNS1123Label pod.spec.hostname = true
  user : pod.spec.securityContext.runAsNonRoot = true ∧ 0 < pod.spec.securityContext.runAsUser

/-! ## Names -/

theorem isAlnum_hyphen : isAlnum '-' = false := by decide

/-- The names of exposed ports are service names. -/
theorem isPortName_of_admits {s : String} (h : admitsPortName s = true) : IsPortName s := by
  simp only [admitsPortName, Bool.and_eq_true, decide_eq_true_eq, Bool.not_eq_true',
    decide_eq_false_iff_not, Option.any_eq_true] at h
  obtain ⟨⟨⟨hlabel, c, hhead, hlower⟩, hlength⟩, hdashes⟩ := h
  obtain ⟨hchars, ⟨first, hfirst, hfirstAlnum⟩, last, hlast, hlastAlnum⟩ := isLabel_iff.mp hlabel
  refine ⟨hchars, ⟨c, List.mem_of_head? hhead, hlower⟩, ?_, ?_, hdashes, hlength⟩
  · intro hhyphen
    obtain rfl := Option.some.inj (hfirst.symm.trans hhyphen)
    exact absurd hfirstAlnum (by simp [isAlnum_hyphen])
  · intro hhyphen
    obtain rfl := Option.some.inj (hlast.symm.trans hhyphen)
    exact absurd hlastAlnum (by simp [isAlnum_hyphen])

/-- The name of a sandbox is a DNS label if it has no dot. -/
theorem isDNS1123Label_iff {s : String} (h : admitsSandboxName s = true) :
    isDNS1123Label s = true ↔ '.' ∉ s.toList := by
  simp only [admitsSandboxName, isDNS1123Subdomain, Bool.and_eq_true, decide_eq_true_eq] at h
  obtain ⟨⟨⟨hlabels, -⟩, hlength⟩, -⟩ := h
  constructor
  · intro hlabel hdot
    have hchars := (isLabel_iff.mp (Bool.and_eq_true_iff.mp hlabel).1).1
    exact absurd (hchars '.' hdot) (by decide)
  · intro hdot
    rw [List.splitOn_eq_singleton hdot, List.all_cons, List.all_nil, Bool.and_true] at hlabels
    rw [isDNS1123Label, hlabels, Bool.true_and, decide_eq_true_eq]
    omega

/-! ## The rendered pod -/

section

variable {sb : Sandbox} {tpl : SandboxTemplate} (opts : PodOptions)

/-- Only the container of the sandbox has ports. -/
theorem forall_containers_buildPod {P : List ContainerPort → Prop} (hnone : P []) :
    (∀ c ∈ (buildPod sb tpl opts).spec.initContainers ++ (buildPod sb tpl opts).spec.containers,
      P c.ports) ↔
      P (⟨"ssh", agentPort, .tcp⟩ :: sb.spec.exposedPorts.map fun p => ⟨p.name, p.port, .tcp⟩) := by
  simp [buildPod, hnone]

theorem portNames_buildPod (h : SchemaAdmitted sb tpl) :
    ∀ c ∈ (buildPod sb tpl opts).spec.initContainers ++ (buildPod sb tpl opts).spec.containers,
      ∀ p ∈ c.ports, IsPortName p.name := by
  refine (forall_containers_buildPod opts (P := fun ports => ∀ p ∈ ports, IsPortName p.name)
    (List.forall_mem_nil _)).mpr ?_
  refine List.forall_mem_cons.mpr ⟨isPortName_of_admits (by decide +kernel), ?_⟩
  refine List.forall_mem_map.mpr fun p hp => isPortName_of_admits (h.ports p hp)

/-- The names are distinct if no exposed port has the name of the agent's. -/
theorem portsDistinct_buildPod (h : SchemaAdmitted sb tpl) :
    (∀ c ∈ (buildPod sb tpl opts).spec.initContainers ++ (buildPod sb tpl opts).spec.containers,
      (c.ports.map (·.name)).Nodup) ↔ ∀ p ∈ sb.spec.exposedPorts, p.name ≠ "ssh" := by
  rw [forall_containers_buildPod opts (P := fun ports => (ports.map (·.name)).Nodup) List.nodup_nil]
  simp only [List.map_cons, List.map_map, Function.comp_def, List.nodup_cons]
  rw [and_iff_left h.distinct, List.mem_map]
  simp only [not_exists, not_and, ne_eq]

theorem volumesDistinct_buildPod :
    ((buildPod sb tpl opts).spec.volumes.map (·.name)).Nodup := by
  show [volumeHome, volumeAgent, volumeHostKey].Nodup
  decide

theorem mounts_buildPod :
    ∀ c ∈ (buildPod sb tpl opts).spec.initContainers ++ (buildPod sb tpl opts).spec.containers,
      ∀ m ∈ c.volumeMounts, m.name ∈ (buildPod sb tpl opts).spec.volumes.map (·.name) := by
  simp [buildPod]

theorem user_buildPod (h : SchemaAdmitted sb tpl) :
    0 < (buildPod sb tpl opts).spec.securityContext.runAsUser := by
  show 0 < tpl.spec.runAsUser.getD 1000
  cases huid : tpl.spec.runAsUser with
  | none => decide
  | some uid => exact h.user uid huid

/-- The pod is one the API server admits if no exposed port is named `ssh` and the name of the
sandbox has no dot. -/
theorem buildPod_admissible_iff (h : SchemaAdmitted sb tpl) :
    Admissible (buildPod sb tpl opts) ↔
      (∀ p ∈ sb.spec.exposedPorts, p.name ≠ "ssh") ∧ '.' ∉ sb.metadata.name.toList := by
  rw [← portsDistinct_buildPod opts h, ← isDNS1123Label_iff h.name]
  constructor
  · exact fun hpod => ⟨hpod.portsDistinct, hpod.hostname⟩
  · rintro ⟨hports, hname⟩
    exact
      { portNames := portNames_buildPod opts h
        portsDistinct := hports
        volumesDistinct := volumesDistinct_buildPod opts
        mounts := mounts_buildPod opts
        hostname := hname
        user := ⟨rfl, user_buildPod opts h⟩ }

end

/-- A sandbox with one exposed port. -/
def exposing (name port : String) : Sandbox :=
  ⟨{ name := name, namespaceName := "team", uid := "u1" },
    { template := "base", owner := { name := "alice" },
      exposedPorts := [{ name := port, port := 8080, auth := .oidc }] }, {}⟩

def baseTemplate : SandboxTemplate :=
  ⟨{ name := "base", namespaceName := "", uid := "t1" }, { image := "base:1", homeSize := 1 }, ()⟩

theorem admitted_exposing {name port : String} (hname : admitsSandboxName name = true)
    (hport : admitsPortName port = true) : SchemaAdmitted (exposing name port) baseTemplate where
  name := hname
  ports := List.forall_mem_singleton.mpr hport
  distinct := List.nodup_singleton _
  user := nofun

/-- A sandbox with a port of another name has a pod. -/
theorem buildPod_admissible_web :
    SchemaAdmitted (exposing "dev" "web") baseTemplate ∧
      Admissible (buildPod (exposing "dev" "web") baseTemplate ⟨"agent:1", "", ""⟩) := by
  have hadmitted : SchemaAdmitted (exposing "dev" "web") baseTemplate :=
    admitted_exposing (by decide +kernel) (by decide +kernel)
  refine ⟨hadmitted, (buildPod_admissible_iff _ hadmitted).mpr ⟨?_, by decide⟩⟩
  exact List.forall_mem_singleton.mpr (by decide)

/-- A port named like the agent's, and a sandbox with a dot in its name, have none. -/
theorem buildPod_rejected :
    (SchemaAdmitted (exposing "dev" "ssh") baseTemplate ∧
      ¬ Admissible (buildPod (exposing "dev" "ssh") baseTemplate ⟨"agent:1", "", ""⟩)) ∧
    SchemaAdmitted (exposing "dev.v2" "web") baseTemplate ∧
      ¬ Admissible (buildPod (exposing "dev.v2" "web") baseTemplate ⟨"agent:1", "", ""⟩) := by
  refine ⟨⟨admitted_exposing (by decide +kernel) (by decide +kernel), fun h => ?_⟩,
    admitted_exposing (by decide +kernel) (by decide +kernel), fun h => ?_⟩
  · exact absurd (h.portsDistinct _ (List.mem_append_right _ (List.mem_singleton_self _)))
      (by decide)
  · exact absurd h.hostname (by decide +kernel)

end Kubepark
