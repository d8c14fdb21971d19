import Kubepark.AgentExec
import Mathlib.Logic.Relation

/-!
# The persistent shell

The sessions of `internal/agent/session.go` with a terminal : all of them share one shell under one
PTY. `ensureShell` starts it if it is not running, a goroutine for each shell waits for its exit
and then clears the shared fields, and `attachShell` copies between a client and the PTY.

A `ShellTable` is the two shared fields with every shell that was ever started. Its steps are the
atomic ones : a call of `ensureShell`, the exit of a shell, the clean-up after it. Whatever runs is
the shell the fields name (`ShellTable.Sound`), so at most one shell runs and no caller gets the PTY
of another one. The clean-up closes the PTY of the shell the fields name : a shell that was replaced
before its clean-up keeps its PTY open (`shell_managed`).

A `Terminal` is the output of one shell with the clients that have come and gone. A goroutine that
copies output to a client is blocked in its read when the client leaves, and takes one chunk more
(`terminal_lossless`).
-/

namespace Kubepark

namespace Agent

/-! ## Shells -/

/-- A shell that was started, with its PTY. -/
structure Shell where
  cmd : Cmd
  /-- The process state is recorded. -/
  exited : Bool := false
  /-- The goroutine that waits for it has cleaned up. -/
  reaped : Bool := false
  /-- The PTY master is closed. -/
  closed : Bool := false

/-- The shared fields, and all shells by the order of their start. A PTY has the number of its
shell. -/
structure ShellTable where
  ptmx : Option Nat
  shellCmd : Option Nat
  shells : List Shell

namespace ShellTable

variable (m : SessionManager) (s : ShellTable) (n : Nat)

/-- The table of an agent that has just started. -/
def empty : ShellTable :=
  { ptmx := none, shellCmd := none, shells := [] }

def Running : Prop :=
  ∃ sh, s.shells[n]? = some sh ∧ sh.exited = false

/-- The PTY of the shell that is running, as `ensureShell` looks for it. -/
def current : Option Nat := do
  let ptmx ← s.ptmx
  let shellCmd ← s.shellCmd
  let sh ← s.shells[shellCmd]?
  if sh.exited then none else some ptmx

/-- The command of the persistent shell. -/
def shellCommand (term : String) : Cmd :=
  { name := (m.shellInvocation []).1
    args := (m.shellInvocation []).2
    dir := m.cfg.homeDir
    env := m.environ ++
      [{ name := "HOME", value := m.cfg.homeDir },
        { name := "TERM", value := if term = "" then "xterm-256color" else term }] }

/-- A new shell in the shared fields. -/
def start (term : String) : ShellTable :=
  { ptmx := some s.shells.length
    shellCmd := some s.shells.length
    shells := s.shells ++ [{ cmd := shellCommand m term }] }

/-- The PTY of the shell, which is started if it is not running; `failure` is what starting it would
fail with. -/
def ensureShell (term : String) (failure : Option ApiError) : Except ApiError Nat × ShellTable :=
  match s.current with
  | some ptmx => (.ok ptmx, s)
  | none =>
    match failure with
    | some err => (.error err, s)
    | none => (.ok s.shells.length, s.start m term)

/-- The shell exits, and its process state is recorded. -/
def exit : ShellTable :=
  { s with shells := s.shells.modify n fun sh => { sh with exited := true } }

def closePty (ptmx : Option Nat) (shells : List Shell) : List Shell :=
  match ptmx with
  | some p => shells.modify p fun sh => { sh with closed := true }
  | none => shells

/-- The clean-up after a shell : its PTY is dropped if the shared fields still name it. -/
def reap : ShellTable :=
  let shells := s.shells.modify n fun sh => { sh with reaped := true }
  if s.shellCmd = some n then
    { ptmx := none, shellCmd := none, shells := closePty s.ptmx shells }
  else { s with shells := shells }

end ShellTable

/-- One step of the sessions and the shells. A shell is started only as `Allowed` has it. -/
inductive ShellStep (m : SessionManager) (Allowed : ShellTable → Prop) :
    ShellTable → ShellTable → Prop
  | ensureShell {s : ShellTable} {term : String} {failure : Option ApiError}
      (hallowed : failure = none → Allowed s) :
      ShellStep m Allowed s (s.ensureShell m term failure).2
  | exit {s : ShellTable} {n : Nat} (hrunning : s.Running n) : ShellStep m Allowed s (s.exit n)
  | reap {s : ShellTable} {n : Nat} {sh : Shell} (hsh : s.shells[n]? = some sh)
      (hexited : sh.exited = true) (hreaped : sh.reaped = false) :
      ShellStep m Allowed s (s.reap n)

/-- The tables an agent gets to. -/
def ShellRun (m : SessionManager) (Allowed : ShellTable → Prop) : ShellTable → Prop :=
  Relation.ReflTransGen (ShellStep m Allowed) .empty

/-! ## What holds in every run -/

variable {m : SessionManager} {s s' : ShellTable} {n : Nat} {sh : Shell}

namespace ShellTable

theorem mem_modify {shells : List Shell} {f : Shell → Shell} {i : Nat}
    (h : (shells.modify i f)[n]? = some sh) :
    ∃ old, shells[n]? = some old ∧ sh = if i = n then f old else old := by
  rw [List.getElem?_modify] at h
  obtain ⟨old, hold, rfl⟩ := Option.map_eq_some_iff.mp h
  exact ⟨old, hold, rfl⟩

/-- A shell after a start is an earlier one or the new one. -/
theorem mem_start {term : String} (h : (s.start m term).shells[n]? = some sh) :
    s.shells[n]? = some sh ∨
      n = s.shells.length ∧ sh = { cmd := shellCommand m term } := by
  rcases Nat.lt_or_ge n s.shells.length with hlt | hge
  · exact Or.inl (by rwa [start, List.getElem?_append_left hlt] at h)
  · rw [start, List.getElem?_append_right hge, List.getElem?_singleton] at h
    split_ifs at h with hzero
    exact Or.inr ⟨by omega, (Option.some.inj h).symm⟩

/-- What a clean-up leaves of a shell. -/
theorem mem_reap {i : Nat} (h : (s.reap i).shells[n]? = some sh) :
    ∃ old, s.shells[n]? = some old ∧ sh.cmd = old.cmd ∧ sh.exited = old.exited ∧
      sh.reaped = (old.reaped || decide (i = n)) ∧
      sh.closed = (old.closed || decide (s.shellCmd = some i ∧ s.ptmx = some n)) := by
  unfold reap at h
  by_cases hcmd : s.shellCmd = some i
  · rw [if_pos hcmd] at h
    cases hptmx : s.ptmx with
    | none =>
      rw [hptmx] at h
      obtain ⟨old, hold, rfl⟩ := mem_modify h
      refine ⟨old, hold, ?_⟩
      split_ifs <;> simp [*]
    | some p =>
      rw [hptmx] at h
      obtain ⟨mid, hmid, rfl⟩ := mem_modify h
      obtain ⟨old, hold, rfl⟩ := mem_modify hmid
      refine ⟨old, hold, ?_⟩
      split_ifs <;> simp [*]
  · rw [if_neg hcmd] at h
    obtain ⟨old, hold, rfl⟩ := mem_modify h
    have hclosed : decide (s.shellCmd = some i ∧ s.ptmx = some n) = false := by simp [hcmd]
    refine ⟨old, hold, ?_⟩
    rw [hclosed]
    split_ifs <;> simp [*]

theorem length_reap : (s.reap n).shells.length = s.shells.length := by
  unfold reap closePty
  split_ifs
  · split <;> simp
  · simp

/-- What the shared fields say of the shells, in every run. -/
structure Sound (s : ShellTable) : Prop where
  paired : s.ptmx = s.shellCmd
  started : ∀ n, s.shellCmd = some n → n < s.shells.length
  /-- Whatever runs is the shell the fields name. -/
  running : ∀ n, s.Running n → s.shellCmd = some n
  /-- That shell has not been cleaned up. -/
  kept : ∀ (n : Nat) (sh : Shell), s.shellCmd = some n → s.shells[n]? = some sh →
    sh.reaped = false ∧ sh.closed = false

theorem current_eq_some {p : Nat} (hsound : s.Sound) (h : s.current = some p) :
    s.shellCmd = some p ∧ s.Running p := by
  unfold current at h
  rw [hsound.paired] at h
  cases hcmd : s.shellCmd with
  | none => simp [hcmd] at h
  | some n =>
    cases hsh : s.shells[n]? with
    | none => simp [hcmd, hsh] at h
    | some sh =>
      simp only [hcmd, hsh, Option.bind_eq_bind, Option.bind_some] at h
      split_ifs at h with hexited
      obtain rfl := Option.some.inj h
      exact ⟨rfl, sh, hsh, Bool.eq_false_iff.mpr hexited⟩

/-- Nothing runs if `ensureShell` finds no shell. -/
theorem not_running_of_current (hsound : s.Sound) (h : s.current = none) : ¬ s.Running n := by
  rintro ⟨sh, hsh, hexited⟩
  have hcmd := hsound.running n ⟨sh, hsh, hexited⟩
  simp [current, hsound.paired, hcmd, hsh, hexited] at h

theorem Sound.start {term : String} (hsound : s.Sound) (h : s.current = none) :
    (s.start m term).Sound where
  paired := rfl
  started := by
    rintro n ⟨⟩
    simp [ShellTable.start]
  running := by
    rintro n ⟨sh, hsh, hexited⟩
    rcases mem_start hsh with hold | ⟨rfl, -⟩
    · exact absurd ⟨sh, hold, hexited⟩ (not_running_of_current hsound h)
    · rfl
  kept := by
    rintro n sh ⟨⟩ hsh
    rcases mem_start hsh with hold | ⟨-, rfl⟩
    · rw [List.getElem?_eq_none (Nat.le_refl _)] at hold
      exact nomatch hold
    · exact ⟨rfl, rfl⟩

theorem Sound.exit (hsound : s.Sound) : (s.exit n).Sound where
  paired := hsound.paired
  started := by
    intro i hi
    simpa [ShellTable.exit] using hsound.started i hi
  running := by
    rintro i ⟨sh, hsh, hexited⟩
    obtain ⟨old, hold, rfl⟩ := mem_modify hsh
    refine hsound.running i ⟨old, hold, ?_⟩
    split_ifs at hexited
    exact hexited
  kept := by
    intro i sh hcmd hsh
    obtain ⟨old, hold, rfl⟩ := mem_modify hsh
    have hkept := hsound.kept i old hcmd hold
    split_ifs <;> exact hkept

theorem reap_shellCmd {i : Nat} (h : (s.reap n).shellCmd = some i) :
    s.shellCmd = some i ∧ i ≠ n := by
  unfold reap at h
  by_cases hcmd : s.shellCmd = some n
  · simp [hcmd] at h
  · rw [if_neg hcmd] at h
    exact ⟨h, fun hin => hcmd (hin ▸ h)⟩

theorem Sound.reap (hsound : s.Sound) (hsh : s.shells[n]? = some sh) (hexited : sh.exited = true) :
    (s.reap n).Sound where
  paired := by
    unfold ShellTable.reap
    split_ifs
    · rfl
    · exact hsound.paired
  started := by
    intro i hi
    rw [length_reap]
    exact hsound.started i (reap_shellCmd hi).1
  running := by
    rintro i ⟨sh', hsh', hrunning⟩
    obtain ⟨old, hold, -, hsame, -⟩ := mem_reap hsh'
    have hcmd := hsound.running i ⟨old, hold, hsame ▸ hrunning⟩
    have hne : s.shellCmd ≠ some n := by
      rintro hn
      obtain rfl := Option.some.inj (hcmd.symm.trans hn)
      obtain rfl := Option.some.inj (hold.symm.trans hsh)
      rw [hsame, hexited] at hrunning
      exact nomatch hrunning
    rw [ShellTable.reap, if_neg hne]
    exact hcmd
  kept := by
    intro i sh' hcmd hsh'
    obtain ⟨hcmd, hne⟩ := reap_shellCmd hcmd
    obtain ⟨old, hold, -, -, hreaped, hclosed⟩ := mem_reap hsh'
    obtain ⟨holdReaped, holdClosed⟩ := hsound.kept i old hcmd hold
    have hni : ¬ n = i := fun h => hne h.symm
    have hother : s.shellCmd ≠ some n := fun h => hne (Option.some.inj (hcmd.symm.trans h))
    rw [hreaped, hclosed, holdReaped, holdClosed]
    simp [hni, hother]

/-- What a call of `ensureShell` comes to. -/
theorem ensureShell_cases (m : SessionManager) (s : ShellTable) (term : String)
    (failure : Option ApiError) :
    (∃ p, s.current = some p ∧ s.ensureShell m term failure = (.ok p, s)) ∨
      s.current = none ∧ (∃ err, failure = some err ∧
        s.ensureShell m term failure = (.error err, s)) ∨
      s.current = none ∧ failure = none ∧
        s.ensureShell m term failure = (.ok s.shells.length, s.start m term) := by
  unfold ensureShell
  cases s.current with
  | some p => exact Or.inl ⟨p, rfl, rfl⟩
  | none =>
    cases failure with
    | some err => exact Or.inr (Or.inl ⟨rfl, err, rfl, rfl⟩)
    | none => exact Or.inr (Or.inr ⟨rfl, rfl, rfl⟩)

theorem Sound.step {Allowed : ShellTable → Prop} (hsound : s.Sound)
    (h : ShellStep m Allowed s s') : s'.Sound := by
  cases h with
  | @ensureShell term failure _ =>
    rcases ensureShell_cases m s term failure with
      ⟨p, -, heq⟩ | ⟨-, err, -, heq⟩ | ⟨hcurrent, -, heq⟩ <;> rw [heq]
    · exact hsound
    · exact hsound
    · exact hsound.start hcurrent
  | exit hrunning => exact hsound.exit
  | reap hsh hexited hreaped => exact hsound.reap hsh hexited

theorem sound_empty : empty.Sound where
  paired := rfl
  started := nofun
  running := by
    rintro n ⟨sh, hsh, -⟩
    exact nomatch hsh
  kept := nofun

end ShellTable

open ShellTable

theorem ShellRun.sound {Allowed : ShellTable → Prop} (h : ShellRun m Allowed s) : s.Sound := by
  induction h with
  | refl => exact sound_empty
  | tail _ hstep ih => exact ih.step hstep

/-! ## Leaks -/

/-- The shell is managed without leaks. -/
structure Managed (m : SessionManager) (s : ShellTable) : Prop where
  /-- The fields are both set or both unset, and belong to the same shell. -/
  paired : s.ptmx = s.shellCmd
  started : ∀ n, s.shellCmd = some n → n < s.shells.length
  /-- At most one shell has not exited. -/
  unique : ∀ i j, s.Running i → s.Running j → i = j
  /-- `ensureShell` returns the PTY of a shell that has not exited. -/
  returned : ∀ term failure p, (s.ensureShell m term failure).1 = .ok p →
    (s.ensureShell m term failure).2.Running p
  /-- After the clean-up the PTY is closed. -/
  closed : ∀ (n : Nat) (sh : Shell), s.shells[n]? = some sh → sh.reaped = true →
    sh.closed = true

/-- The shell that the fields name has not exited. -/
def Settled (s : ShellTable) : Prop :=
  ∀ n, s.shellCmd = some n → s.Running n

/-- Each PTY is closed, or the fields name it. -/
def Closed (s : ShellTable) : Prop :=
  ∀ (n : Nat) (sh : Shell), s.shells[n]? = some sh → sh.closed = true ∨ s.shellCmd = some n

theorem returned_of_sound (hsound : s.Sound) {term : String} {failure : Option ApiError} {p : Nat}
    (h : (s.ensureShell m term failure).1 = .ok p) :
    (s.ensureShell m term failure).2.Running p := by
  rcases ensureShell_cases m s term failure with
    ⟨p', hcurrent, heq⟩ | ⟨-, err, -, heq⟩ | ⟨-, -, heq⟩ <;> rw [heq] at h ⊢
  · obtain rfl := Except.ok.inj h
    exact (current_eq_some hsound hcurrent).2
  · exact nomatch h
  · obtain rfl := Except.ok.inj h
    exact ⟨{ cmd := shellCommand m term }, by simp [ShellTable.start], rfl⟩

theorem managed_of_sound (hsound : s.Sound)
    (hclosed : ∀ (n : Nat) (sh : Shell), s.shells[n]? = some sh → sh.reaped = true →
      sh.closed = true) :
    Managed m s where
  paired := hsound.paired
  started := hsound.started
  unique _ _ hi hj := Option.some.inj ((hsound.running _ hi).symm.trans (hsound.running _ hj))
  returned _ _ _ h := returned_of_sound hsound h
  closed := hclosed

/-- No shell is replaced before its clean-up, so none is left open. -/
theorem Closed.step (hsound : s.Sound) (hclosed : Closed s) (h : ShellStep m Settled s s') :
    Closed s' := by
  cases h with
  | @ensureShell term failure hallowed =>
    rcases ensureShell_cases m s term failure with
      ⟨p, -, heq⟩ | ⟨-, err, -, heq⟩ | ⟨hcurrent, hfailure, heq⟩ <;> rw [heq]
    · exact hclosed
    · exact hclosed
    · intro n sh hsh
      rcases mem_start hsh with hold | ⟨rfl, -⟩
      · refine (hclosed n sh hold).imp id fun hcmd => ?_
        exact absurd (hallowed hfailure n hcmd) (not_running_of_current hsound hcurrent)
      · exact Or.inr rfl
  | exit hrunning =>
    intro n sh hsh
    obtain ⟨old, hold, rfl⟩ := mem_modify hsh
    have hold := hclosed n old hold
    split_ifs <;> exact hold
  | @reap i _ hsh _ _ =>
    intro n sh' hsh'
    obtain ⟨old, hold, -, -, -, hsame⟩ := mem_reap hsh'
    by_cases hcmd : s.shellCmd = some i
    · rcases hclosed n old hold with hold | hn
      · exact Or.inl (by rw [hsame, hold, Bool.true_or])
      · have hptmx : s.ptmx = some n := hsound.paired.trans hn
        exact Or.inl (by simp [hsame, hcmd, hptmx])
    · refine (hclosed n old hold).imp (fun hold => ?_) fun hn => ?_
      · rw [hsame, hold, Bool.true_or]
      · rw [ShellTable.reap, if_neg hcmd]
        exact hn

theorem ShellRun.closed (h : ShellRun m Settled s) : Closed s := by
  induction h with
  | refl => exact fun n sh hsh => nomatch hsh
  | tail hrun hstep ih => exact Closed.step (ShellRun.sound hrun) ih hstep

theorem ShellRun.managed (h : ShellRun m Settled s) : Managed m s := by
  have hsound := ShellRun.sound h
  refine managed_of_sound hsound fun n sh hsh hreaped => ?_
  refine (ShellRun.closed h n sh hsh).resolve_right fun hcmd => ?_
  rw [(hsound.kept n sh hcmd hsh).1] at hreaped
  exact nomatch hreaped

/-- A shell that has exited and is replaced before its clean-up. -/
theorem leaks_of_not_settled (hsound : s.Sound) (h : ¬ Settled s) (term : String) :
    ∃ n, ShellStep m (fun _ => True) (s.ensureShell m term none).2
        ((s.ensureShell m term none).2.reap n) ∧
      ¬ Managed m ((s.ensureShell m term none).2.reap n) := by
  obtain ⟨n, hcmd, hexited⟩ : ∃ n, s.shellCmd = some n ∧ ¬ s.Running n := by
    simpa [Settled] using h
  have hlt := hsound.started n hcmd
  obtain ⟨sh, hsh⟩ : ∃ sh, s.shells[n]? = some sh := ⟨_, List.getElem?_eq_getElem hlt⟩
  obtain ⟨hreaped, hopen⟩ := hsound.kept n sh hcmd hsh
  have hexited : sh.exited = true := by
    by_contra hfalse
    exact hexited ⟨sh, hsh, Bool.eq_false_iff.mpr hfalse⟩
  have hcurrent : s.current = none := by
    simp [current, hsound.paired, hcmd, hsh, hexited]
  have hstarted : (s.ensureShell m term none).2 = s.start m term := by
    rw [ensureShell, hcurrent]
  have hold : (s.start m term).shells[n]? = some sh := by
    rw [ShellTable.start, List.getElem?_append_left hlt, hsh]
  rw [hstarted]
  refine ⟨n, .reap hold hexited hreaped, fun hmanaged => ?_⟩
  -- The fields name the new shell, and the clean-up after the old one passes over them.
  have hother : (s.start m term).shellCmd ≠ some n := by
    intro heq
    have : s.shells.length = n := Option.some.inj heq
    omega
  have hleft : ((s.start m term).reap n).shells[n]? = some { sh with reaped := true } := by
    rw [ShellTable.reap, if_neg hother, List.getElem?_modify, hold]
    simp
  have hclosed := hmanaged.closed n _ hleft rfl
  rw [hopen] at hclosed
  exact nomatch hclosed

/-- The persistent shell is managed without leaks as long as no shell is started while the fields
name a shell that has exited; one that is leaves a PTY open. -/
theorem shell_managed (m : SessionManager) :
    (∀ s, ShellRun m Settled s → Managed m s) ∧
      ∀ s, ShellRun m (fun _ => True) s → ¬ Settled s → ∀ term, ∃ n,
        ShellStep m (fun _ => True) (s.ensureShell m term none).2
          ((s.ensureShell m term none).2.reap n) ∧
        ¬ Managed m ((s.ensureShell m term none).2.reap n) :=
  ⟨fun _ h => h.managed, fun _ hrun h term => leaks_of_not_settled (ShellRun.sound hrun) h term⟩

/-- A shell exits, and the next session comes before the clean-up. -/
def replacedShell : ShellTable :=
  let exited := (empty.ensureShell exampleManager "" none).2.exit 0
  (exited.ensureShell exampleManager "" none).2.reap 0

theorem replacedShell_leaks :
    ShellRun exampleManager (fun _ => True) replacedShell ∧
      replacedShell.shells.map (fun sh => (sh.exited, sh.reaped, sh.closed)) =
        [(true, true, false), (false, false, false)] ∧
      ¬ Managed exampleManager replacedShell := by
  refine ⟨?_, rfl, fun h => nomatch h.closed 0 _ rfl rfl⟩
  let first := (empty.ensureShell exampleManager "" none).2
  have hfirst : ShellRun exampleManager (fun _ => True) first :=
    Relation.ReflTransGen.single (.ensureShell fun _ => trivial)
  have hexited : ShellRun exampleManager (fun _ => True) (first.exit 0) :=
    hfirst.tail (.exit ⟨_, rfl, rfl⟩)
  have hsecond : ShellRun exampleManager (fun _ => True)
      ((first.exit 0).ensureShell exampleManager "" none).2 :=
    hexited.tail (.ensureShell fun _ => trivial)
  exact hsecond.tail (.reap (n := 0) rfl rfl rfl)

/-! ## Clients -/

/-- A client of the terminal. -/
structure Client where
  /-- The client is connected. -/
  attached : Bool := true
  /-- The goroutine that copies the output to it is running. -/
  reading : Bool := true

/-- A chunk of output that was taken. -/
structure Chunk where
  /-- The clients that were attached. -/
  attached : List Nat
  /-- The client that got it. -/
  delivered : Option Nat
  deriving DecidableEq

/-- The terminal of one shell : its clients by the order in which they came, and its output. -/
structure Terminal where
  clients : List Client
  output : List Chunk

namespace Terminal

variable (t : Terminal) (n : Nat)

/-- The terminal of a shell that has just started. -/
def fresh : Terminal :=
  { clients := [], output := [] }

def attached : List Nat :=
  (List.range t.clients.length).filter fun i => t.clients[i]?.any (·.attached)

def Reading : Prop :=
  t.clients[n]?.any (·.reading) = true

/-- A client attaches, and a goroutine starts to copy the output to it. -/
def attachShell : Terminal :=
  { t with clients := t.clients ++ [{}] }

/-- A client disconnects. The copy of its input ends; the copy of the output waits in its read. -/
def disconnect : Terminal :=
  { t with clients := t.clients.modify n fun client => { client with attached := false } }

/-- The goroutine of a client takes a chunk. If the client is gone the chunk is lost, and the copy
ends with the failed write. -/
def take : Terminal :=
  if n ∈ t.attached then
    { t with output := t.output ++ [{ attached := t.attached, delivered := some n }] }
  else
    { clients := t.clients.modify n fun client => { client with reading := false }
      output := t.output ++ [{ attached := t.attached, delivered := none }] }

end Terminal

/-- One step of the clients and the output. A chunk is taken only as `Allowed` has it. -/
inductive TerminalStep (Allowed : Terminal → Prop) : Terminal → Terminal → Prop
  | attachShell {t : Terminal} : TerminalStep Allowed t t.attachShell
  | disconnect {t : Terminal} {n : Nat} (hattached : n ∈ t.attached) :
      TerminalStep Allowed t (t.disconnect n)
  | take {t : Terminal} {n : Nat} (hreading : t.Reading n) (hallowed : Allowed t) :
      TerminalStep Allowed t (t.take n)

/-- The terminals a shell gets to. -/
def TerminalRun (Allowed : Terminal → Prop) : Terminal → Prop :=
  Relation.ReflTransGen (TerminalStep Allowed) .fresh

/-- Every chunk taken while exactly one client was attached was delivered to it. -/
def Lossless (t : Terminal) : Prop :=
  ∀ chunk ∈ t.output, ∀ n, chunk.attached = [n] → chunk.delivered = some n

/-- With exactly one client attached, no goroutine of another one is reading. -/
def Undisturbed (t : Terminal) : Prop :=
  ∀ n, t.attached = [n] → ∀ i, t.Reading i → i = n

variable {t t' : Terminal}

theorem lossless_take {n : Nat} (hlossless : Lossless t)
    (h : ∀ i, t.attached = [i] → n = i) : Lossless (t.take n) := by
  have hchunk : ∀ delivered, (∀ i, t.attached = [i] → delivered = some i) →
      ∀ chunk ∈ t.output ++ [{ attached := t.attached, delivered := delivered }],
        ∀ i, chunk.attached = [i] → chunk.delivered = some i := by
    intro delivered hdelivered chunk hmem i hi
    rcases List.mem_append.mp hmem with hmem | hmem
    · exact hlossless chunk hmem i hi
    · obtain rfl := List.mem_singleton.mp hmem
      exact hdelivered i hi
  unfold Terminal.take
  split_ifs with hattached
  · exact hchunk (some n) fun i hi => congrArg some (h i hi)
  · refine hchunk none fun i hi => absurd ?_ hattached
    rw [hi, h i hi]
    exact List.mem_singleton_self i

theorem Lossless.step (hlossless : Lossless t) (h : TerminalStep Undisturbed t t') :
    Lossless t' := by
  cases h with
  | attachShell => exact hlossless
  | disconnect => exact hlossless
  | take hreading hallowed => exact lossless_take hlossless fun i hi => hallowed i hi _ hreading

theorem TerminalRun.lossless (h : TerminalRun Undisturbed t) : Lossless t := by
  induction h with
  | refl => exact fun chunk hmem => nomatch hmem
  | tail _ hstep ih => exact ih.step hstep

/-- A goroutine that outlived its client takes a chunk from the client that is there. -/
theorem not_lossless_take {n i : Nat} (hsole : t.attached = [n]) (hne : i ≠ n) :
    ¬ Lossless (t.take i) := by
  intro hlossless
  have hgone : i ∉ t.attached := by
    rw [hsole]
    exact fun hmem => hne (List.mem_singleton.mp hmem)
  rw [Terminal.take, if_neg hgone] at hlossless
  exact nomatch hlossless { attached := t.attached, delivered := none } (by simp) n hsole

/-- No output is lost as long as no goroutine that outlived its client reads beside the one client
that is attached; where one does, it may take a chunk from it. -/
theorem terminal_lossless (t : Terminal) :
    (TerminalRun Undisturbed t → Lossless t) ∧
      (TerminalRun (fun _ => True) t → ¬ Undisturbed t →
        ∃ n, TerminalStep (fun _ => True) t (t.take n) ∧ ¬ Lossless (t.take n)) := by
  refine ⟨fun h => h.lossless, fun _ h => ?_⟩
  obtain ⟨n, hsole, i, hreading, hne⟩ : ∃ n, t.attached = [n] ∧ ∃ i, t.Reading i ∧ i ≠ n := by
    simpa [Undisturbed] using h
  exact ⟨i, .take hreading trivial, not_lossless_take hsole hne⟩

/-- A client leaves, another one comes, and the goroutine of the first takes the next chunk. -/
def reconnected : Terminal :=
  ((Terminal.fresh.attachShell.disconnect 0).attachShell).take 0

theorem reconnected_loses :
    TerminalRun (fun _ => True) reconnected ∧
      reconnected.output = [{ attached := [1], delivered := none }] ∧ ¬ Lossless reconnected := by
  have houtput : reconnected.output = [{ attached := [1], delivered := none }] := by decide
  refine ⟨?_, houtput, fun h => ?_⟩
  · refine Relation.ReflTransGen.tail (Relation.ReflTransGen.tail (Relation.ReflTransGen.tail
      (Relation.ReflTransGen.single .attachShell) (.disconnect (by decide))) .attachShell)
      (.take rfl trivial)
  · exact nomatch h { attached := [1], delivered := none } (by simp [houtput]) 1 rfl

end Agent

end Kubepark
