import Kubepark.AgentIdentity
import Kubepark.Shlex

/-!
# Remote commands

The sessions of `internal/agent/session.go` that run a command : the SSH library splits the raw
command line into words (`Agent.sessionCommand`), the agent joins them with blanks again
(`joinCommand`) and hands the line to a shell (`shellInvocation`). A session without words gets a
login shell, or with a terminal the persistent one.

`RunsAsWritten` is what the client expects : the shell gets a line with the words that were sent,
and a command never ends in a login shell. The split removes quotes and the join puts none back, so
this holds of the command lines whose words are plain, and of no others (`runsAsWritten_iff`).
-/

namespace Kubepark

namespace Agent

/-! ## The session manager -/

/-- What a session reads of the container : the environment and the files that exist. -/
structure SessionManager where
  cfg : Config
  environ : List Variable
  stat : String → Bool

/-- A child process. -/
structure Cmd where
  name : String
  args : List String
  dir : String
  env : List Variable
  deriving DecidableEq

/-- What a session ends in : a child process of its own, or the persistent shell. -/
inductive SessionRun
  | runExec (cmd : Cmd)
  | attachShell
  deriving DecidableEq

namespace SessionManager

variable (m : SessionManager)

def loginShell : String :=
  if getenv m.environ "SHELL" ≠ "" then getenv m.environ "SHELL"
  else (["/bin/bash", "/bin/sh"].find? m.stat).getD "/bin/sh"

end SessionManager

/-- The words of a command on one line. -/
def joinCommand (cmd : List String) : String :=
  " ".intercalate cmd

namespace SessionManager

variable (m : SessionManager)

/-- The program and the arguments for a session. -/
def shellInvocation (clientCmd : List String) : String × List String :=
  if clientCmd.length > 0 then (m.loginShell, ["-c", joinCommand clientCmd])
  else (m.loginShell, ["-l"])

/-- The child process of a command, or of a shell without a terminal. -/
def runExec (command : List String) : Cmd :=
  { name := (m.shellInvocation command).1
    args := (m.shellInvocation command).2
    dir := m.cfg.homeDir
    env := m.environ ++ [{ name := "HOME", value := m.cfg.homeDir }] }

/-- A session goes to a child process or to the persistent shell. -/
def handle (command : List String) (isPty : Bool) : SessionRun :=
  if command.length > 0 then .runExec (m.runExec command)
  else if isPty then .attachShell
  else .runExec (m.runExec command)

end SessionManager

/-- The command of a session, as the SSH library splits what the client sent : empty if it does not
split. -/
def sessionCommand (raw : String) : List String :=
  (Shlex.split raw).getD []

/-! ## What the shell is given -/

section

variable (m : SessionManager) (raw : String) (isPty : Bool)

/-- The session hands the line to a shell. -/
def RunsLine (line : String) : Prop :=
  ∃ cmd, m.handle (sessionCommand raw) isPty = .runExec cmd ∧ cmd.name = m.loginShell ∧
    cmd.args = ["-c", line]

/-- The command runs as the client wrote it : a shell gets a line that splits into the same words,
and a command line that is not empty does not end in a login shell or the persistent one. -/
structure RunsAsWritten : Prop where
  words : ∀ ws, Shlex.split raw = some ws → ws ≠ [] →
    ∃ line, RunsLine m raw isPty line ∧ Shlex.split line = some ws
  runs : raw ≠ "" → ∃ line, RunsLine m raw isPty line

end

variable {m : SessionManager} {raw : String} {isPty : Bool} {ws : List String}

theorem runsLine_iff {line : String} :
    RunsLine m raw isPty line ↔
      sessionCommand raw ≠ [] ∧ line = joinCommand (sessionCommand raw) := by
  unfold RunsLine SessionManager.handle SessionManager.runExec SessionManager.shellInvocation
  cases hcommand : sessionCommand raw with
  | nil => cases isPty <;> simp
  | cons w ws => simp [eq_comm]

/-- A line reaches a shell if there are words. -/
theorem runs_iff : (∃ line, RunsLine m raw isPty line) ↔
    ∃ ws, Shlex.split raw = some ws ∧ ws ≠ [] := by
  simp only [runsLine_iff, exists_and_left, exists_eq, and_true, sessionCommand]
  cases Shlex.split raw <;> simp

theorem runsLine_of_split (hsplit : Shlex.split raw = some ws) (hne : ws ≠ []) {line : String} :
    RunsLine m raw isPty line ↔ line = joinCommand ws := by
  have hcommand : sessionCommand raw = ws := by rw [sessionCommand, hsplit, Option.getD_some]
  rw [runsLine_iff, hcommand]
  exact and_iff_right hne

theorem words_iff (hsplit : Shlex.split raw = some ws) (hne : ws ≠ []) :
    (∃ line, RunsLine m raw isPty line ∧ Shlex.split line = some ws) ↔
      ∀ w ∈ ws, Shlex.Plain w.toList := by
  simp only [runsLine_of_split hsplit hne, exists_eq_left]
  exact Shlex.split_intercalate_iff

theorem split_empty : Shlex.split "" = some [] := rfl

variable (m raw isPty) in
/-- The commands that run as written are the lines of plain words. -/
theorem runsAsWritten_iff :
    RunsAsWritten m raw isPty ↔
      raw = "" ∨
        ∃ ws, Shlex.split raw = some ws ∧ ws ≠ [] ∧ ∀ w ∈ ws, Shlex.Plain w.toList := by
  constructor
  · intro h
    by_cases hraw : raw = ""
    · exact Or.inl hraw
    · obtain ⟨ws, hsplit, hne⟩ := runs_iff.mp (h.runs hraw)
      exact Or.inr ⟨ws, hsplit, hne, (words_iff hsplit hne).mp (h.words ws hsplit hne)⟩
  · rintro (rfl | ⟨ws, hsplit, hne, hplain⟩)
    · refine ⟨fun ws hsplit hne => absurd ?_ hne, fun hraw => absurd rfl hraw⟩
      exact (Option.some.inj (split_empty.symm.trans hsplit)).symm
    · refine ⟨fun ws' hsplit' hne' => ?_, fun _ => runs_iff.mpr ⟨ws, hsplit, hne⟩⟩
      obtain rfl := Option.some.inj (hsplit.symm.trans hsplit')
      exact (words_iff hsplit hne).mpr hplain

/-- The agent of a sandbox. -/
def exampleManager : SessionManager where
  cfg :=
    { addr := ":2222", owner := "alice", hostKeyPEM := .privatePEM 1 "",
      hostCertAuthorized := .publicAuthorized 1, userCAAuthorized := .publicAuthorized 1,
      command := [], homeDir := "/home/sandbox" }
  environ := []
  stat := fun path => path = "/bin/sh"

/-- A file name with a blank is two words for the shell, and a line of blanks is a login shell. -/
theorem quoted_blank_lost :
    ¬ RunsAsWritten exampleManager "cat 'a b'" false ∧
      Shlex.split "cat 'a b'" = some ["cat", "a b"] ∧
      exampleManager.handle (sessionCommand "cat 'a b'") false =
        .runExec
          { name := "/bin/sh", args := ["-c", "cat a b"], dir := "/home/sandbox",
            env := [{ name := "HOME", value := "/home/sandbox" }] } ∧
      Shlex.split "cat a b" = some ["cat", "a", "b"] ∧
      exampleManager.handle (sessionCommand " ") true = .attachShell := by
  have hsplit : Shlex.split "cat 'a b'" = some ["cat", "a b"] := by decide +kernel
  refine ⟨fun h => ?_, hsplit, by decide +kernel, by decide +kernel, by decide +kernel⟩
  have hplain := (words_iff hsplit (by simp)).mp (h.words _ hsplit (by simp))
  exact absurd (hplain "a b" (by simp)) (by decide +kernel)

end Agent

end Kubepark
