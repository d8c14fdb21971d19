import Kubepark.Podspec

/-!
# The environment of a container

`BuildPod` renders a list of variables, the controller's own and then the template's. What the
processes of the container see is made of it by the kubelet (`Kubelet.environ`) : a text has its
references `$(NAME)` replaced by the variables before it and its `$$` by `$`, a variable without a
text may be taken from elsewhere, and of the entries of a name the last one counts.

The kubelet is not part of this repository. It is a parameter, and of its replacement only what
the documentation of the field `value` says is used (`Kubelet.Documented`).
-/

namespace Kubepark

namespace Agent

/-- A variable in the environment of a process. -/
structure Variable where
  name : String
  value : String
  deriving DecidableEq, Repr

/-- The value of a variable : of the entries of a name the last one counts. -/
def lastValue (env : List Variable) (name : String) : Option String :=
  (env.filter fun v => v.name = name).getLast?.map (·.value)

theorem lastValue_append (env env' : List Variable) (name : String) :
    lastValue (env ++ env') name = (lastValue env' name).or (lastValue env name) := by
  unfold lastValue
  rw [List.filter_append, List.getLast?_append, Option.map_or]

theorem lastValue_concat (env : List Variable) (v : Variable) (name : String) :
    lastValue (env ++ [v]) name = if v.name = name then some v.value else lastValue env name := by
  rw [lastValue_append]
  by_cases hname : v.name = name
  · simp [lastValue, hname]
  · simp [lastValue, hname]

/-- `os.Getenv` : a variable that is not set is empty. -/
def getenv (env : List Variable) (name : String) : String :=
  (lastValue env name).getD ""

end Agent

open Agent (Variable lastValue lastValue_append lastValue_concat getenv)

/-! ## The kubelet -/

/-- What the kubelet makes the environment of a container with : the replacement in a text by the
variables that are set, the value of a source (`none` if the source is optional and not there), the
variables of the image and of the services. -/
structure Kubelet where
  expand : (String → Option String) → String → String
  source : EnvVarSource → Option String
  image : List Variable := []
  services : List Variable := []

namespace Kubelet

variable (k : Kubelet)

/-- The value of an entry after the variables `env`, and `none` if it is not set. -/
def value (env : List Variable) (v : EnvVar) : Option String :=
  if v.value ≠ "" then
    some (k.expand (fun name => (lastValue env name).or (lastValue k.services name)) v.value)
  else
    match v.valueFrom with
    | none => some ""
    | some source => k.source source

/-- The variables `env`, and after them those of the entries, in order. -/
def resolveFrom : List Variable → List EnvVar → List Variable
  | env, [] => env
  | env, v :: vs =>
    match k.value env v with
    | none => resolveFrom env vs
    | some value => resolveFrom (env ++ [⟨v.name, value⟩]) vs

/-- The environment of the processes in a container with the entries `vs`. -/
def environ (vs : List EnvVar) : List Variable :=
  k.image ++ k.services ++ k.resolveFrom [] vs

/-- What is documented of the values : text stays, `$$` is reduced to `$`, and a reference is
replaced by the value of the variable, or stays if there is none. -/
structure Documented : Prop where
  empty : ∀ vars, k.expand vars "" = ""
  text : ∀ vars s rest, '$' ∉ s.toList → k.expand vars (s ++ rest) = s ++ k.expand vars rest
  escaped : ∀ vars rest, k.expand vars ("$$" ++ rest) = "$" ++ k.expand vars rest
  reference : ∀ vars name rest, ')' ∉ name.toList →
    k.expand vars ("$(" ++ name ++ ")" ++ rest) =
      (vars name).getD ("$(" ++ name ++ ")") ++ k.expand vars rest

variable {k} {env : List Variable} {name value : String} {v : EnvVar} {vs : List EnvVar}

/-- A text without a dollar sign is its own value. -/
theorem Documented.value_plain (hk : k.Documented) (hplain : '$' ∉ v.value.toList)
    (hfrom : v.valueFrom = none) : k.value env v = some v.value := by
  unfold Kubelet.value
  split_ifs with hvalue
  · have htext := hk.text (fun name => (lastValue env name).or (lastValue k.services name))
      v.value "" hplain
    rw [String.append_empty, hk.empty, String.append_empty] at htext
    rw [htext]
  · rw [hfrom]
    exact congrArg some (not_not.mp hvalue).symm

/-- The last entry of a name. -/
def lastEntry (vs : List EnvVar) (name : String) : Option EnvVar :=
  (vs.filter fun v => v.name = name).getLast?

theorem lastEntry_cons (v : EnvVar) (vs : List EnvVar) (name : String) :
    lastEntry (v :: vs) name =
      (lastEntry vs name).or (if v.name = name then some v else none) := by
  have happend : v :: vs = [v] ++ vs := rfl
  unfold lastEntry
  rw [happend, List.filter_append, List.getLast?_append]
  by_cases hname : v.name = name
  · simp [hname]
  · simp [hname]

/-- Entries of other names leave the value. -/
theorem lastValue_resolveFrom_of_absent (h : lastEntry vs name = none) :
    lastValue (k.resolveFrom env vs) name = lastValue env name := by
  induction vs generalizing env with
  | nil => rfl
  | cons v vs ih =>
    rw [lastEntry_cons, Option.or_eq_none_iff] at h
    have hname : v.name ≠ name := by
      intro hname
      simp [hname] at h
    unfold Kubelet.resolveFrom
    split
    · exact ih h.1
    · rw [ih h.1, lastValue_concat, if_neg hname]

/-- The last entry of a name is what its value is taken from. -/
theorem lastValue_resolveFrom (h : lastEntry vs name = some v)
    (hvalue : ∀ env, k.value env v = some value) :
    lastValue (k.resolveFrom env vs) name = some value := by
  induction vs generalizing env with
  | nil => cases h
  | cons w vs ih =>
    rw [lastEntry_cons] at h
    unfold Kubelet.resolveFrom
    cases hlast : lastEntry vs name with
    | some v' =>
      rw [hlast, Option.some_or] at h
      split <;> exact ih (hlast.trans h)
    | none =>
      rw [hlast, Option.none_or] at h
      split_ifs at h with hname
      cases h
      rw [hvalue env]
      simp only
      rw [lastValue_resolveFrom_of_absent hlast, lastValue_concat, if_pos hname]

theorem resolveFrom_append (ws : List EnvVar) :
    k.resolveFrom env (vs ++ ws) = k.resolveFrom (k.resolveFrom env vs) ws := by
  induction vs generalizing env with
  | nil => rfl
  | cons v vs ih =>
    cases hvalue : k.value env v with
    | none =>
      simp only [List.cons_append, Kubelet.resolveFrom, hvalue]
      exact ih
    | some value =>
      simp only [List.cons_append, Kubelet.resolveFrom, hvalue]
      exact ih

/-- A variable that is set by an entry does not depend on the image and the services. -/
theorem getenv_environ (h : lastValue (k.resolveFrom [] vs) name = some value) :
    getenv (k.environ vs) name = value := by
  rw [getenv, Kubelet.environ, lastValue_append, h, Option.some_or, Option.getD_some]

end Kubelet

/-! ## The container of a sandbox -/

/-- The entries of the sandbox container. -/
def Agent.containerEnv (pod : Pod) : List EnvVar :=
  ((pod.spec.containers.find? fun c => c.name = "sandbox").map (·.env)).getD []

/-- The entries that the controller gives every sandbox. -/
def ownEnv (sb : Sandbox) : List EnvVar :=
  [{ name := "HOME", value := homeMountPath },
    { name := "KUBEPARK_SANDBOX", value := sb.metadata.name },
    { name := "KUBEPARK_NAMESPACE", value := sb.metadata.namespaceName },
    { name := "KUBEPARK_OWNER", value := sb.spec.owner.name }]

section Owner

variable {k : Kubelet} {sb : Sandbox} {tpl : SandboxTemplate} {opts : PodOptions}

theorem containerEnv_buildPod :
    Agent.containerEnv (buildPod sb tpl opts) = ownEnv sb ++ tpl.spec.env := by
  simp [Agent.containerEnv, buildPod, ownEnv]

theorem lastEntry_ownEnv : Kubelet.lastEntry (ownEnv sb) "KUBEPARK_OWNER" =
    some { name := "KUBEPARK_OWNER", value := sb.spec.owner.name } := by
  simp [Kubelet.lastEntry, ownEnv]

/-- A `$$` in the name of the owner reaches the container as one `$`. -/
theorem owner_environ_escaped (hk : k.Documented) {front back : String}
    (howner : sb.spec.owner.name = front ++ ("$$" ++ back)) (hfront : '$' ∉ front.toList)
    (hback : '$' ∉ back.toList)
    (htpl : Kubelet.lastEntry tpl.spec.env "KUBEPARK_OWNER" = none) :
    getenv (k.environ (Agent.containerEnv (buildPod sb tpl opts))) "KUBEPARK_OWNER" =
      front ++ ("$" ++ back) := by
  refine Kubelet.getenv_environ ?_
  rw [containerEnv_buildPod, Kubelet.resolveFrom_append,
    Kubelet.lastValue_resolveFrom_of_absent htpl]
  refine Kubelet.lastValue_resolveFrom lastEntry_ownEnv fun env => ?_
  have hne : sb.spec.owner.name ≠ "" := by
    intro hempty
    have hlist := congrArg String.toList (howner.symm.trans hempty)
    simp at hlist
  have htext : ∀ vars, k.expand vars back = back := by
    intro vars
    have htext := hk.text vars back "" hback
    rwa [String.append_empty, hk.empty, String.append_empty] at htext
  rw [Kubelet.value, if_pos hne, howner, hk.text _ _ _ hfront, hk.escaped, htext]

/-- A template that refers to the owner's variable leaves it. -/
theorem owner_environ_reference (hk : k.Documented) (hplain : '$' ∉ sb.spec.owner.name.toList)
    (htpl : tpl.spec.env = [{ name := "KUBEPARK_OWNER", value := "$(KUBEPARK_OWNER)" }]) :
    getenv (k.environ (Agent.containerEnv (buildPod sb tpl opts))) "KUBEPARK_OWNER" =
      sb.spec.owner.name := by
  refine Kubelet.getenv_environ ?_
  rw [containerEnv_buildPod, Kubelet.resolveFrom_append, htpl]
  have hown : lastValue (k.resolveFrom [] (ownEnv sb)) "KUBEPARK_OWNER" =
      some sb.spec.owner.name :=
    Kubelet.lastValue_resolveFrom lastEntry_ownEnv fun env => hk.value_plain hplain rfl
  generalize k.resolveFrom [] (ownEnv sb) = env at hown
  have hreference := hk.reference
    (fun name => (lastValue env name).or (lastValue k.services name)) "KUBEPARK_OWNER" ""
    (by decide)
  rw [hk.empty, String.append_empty, String.append_empty, hown, Option.some_or,
    Option.getD_some] at hreference
  have hvalue : k.value env { name := "KUBEPARK_OWNER", value := "$(KUBEPARK_OWNER)" } =
      some sb.spec.owner.name := by
    rw [Kubelet.value, if_pos (by decide)]
    exact congrArg some hreference
  simp only [Kubelet.resolveFrom, hvalue]
  rw [lastValue_concat, if_pos rfl]

end Owner

end Kubepark
