import Garak.Pathlib.FileSystem

/-!
# `tooling/utils.py`: `Log` and `Shell`

A run of the tooling appends to a trace: the commands handed to the shell, each
with the status it exited with, and the messages written. Exit statuses are chosen
by the host, freely: the status of a command may depend on its text and on how many
commands were launched before it.
-/

namespace Tooling

open Pathlib

/-- The four colours of `Log`. -/
inductive Level
  | info
  | complete
  | warn
  | error
deriving DecidableEq

/-- One call of a method of `Log`. -/
structure Message where
  level : Level
  text : String
deriving DecidableEq

/-- A command a shell ran to its end, and its exit status. -/
structure Launch where
  command : String
  status : Int
deriving DecidableEq

/-- What a run leaves behind. -/
structure Trace where
  launched : List Launch
  messages : List Message
deriving DecidableEq

/-- The trace before anything happened. -/
def Trace.empty : Trace := ⟨[], []⟩

/-- What a run can ask the machine it runs on. -/
structure Host where
  /-- status of the command launched after so many others -/
  exitStatus : Nat → String → Int
  /-- `command -v name` exits with 0 -/
  installed : String → Bool
  /-- output of `nproc`, or the empty string -/
  nproc : String
  /-- `os.getenv("USER")` -/
  user : Option String
  /-- `sys.platform` -/
  platform : String
  /-- `str.isprintable` of a character beyond ASCII -/
  isPrintable : Char → Bool

/-- The exceptions a run can raise. -/
inductive PyError
  | exception (text : String)
  | calledProcessError (command : String) (status : Int)
  | osError (error : OSError) (filename : Path)
  | recursionError
deriving DecidableEq

/-- What a query answers about a path, the system's error raised as an `OSError`. -/
def asked {α : Type} (query : Path → Except OSError α) (path : Path) : Except PyError α :=
  match query path with
  | .ok answer => .ok answer
  | .error error => .error (.osError error path)

/-- `str(e)` -/
def PyError.text (host : Host) : PyError → String
  | .exception text => text
  | .calledProcessError command status =>
      "Command '" ++ command ++ "' returned non-zero exit status " ++ toString status ++ "."
  | .osError error filename => error.text host.isPrintable filename
  | .recursionError => "maximum recursion depth exceeded"

/-- Code that runs commands and may raise. -/
abbrev Proc := ExceptT PyError (StateM Trace)

/-- Run a procedure on the trace so far. -/
def Proc.exec {α : Type} (p : Proc α) (trace : Trace) : Except PyError α × Trace :=
  p.run.run trace

/-- Raise what a pure computation raised. -/
def Proc.ofExcept {α : Type} : Except PyError α → Proc α
  | .ok a => pure a
  | .error e => throw e

/-- `except Exception`, around code that may raise. -/
def Proc.catchException {α : Type} (p : Proc α) (handler : PyError → Proc α) : Proc α :=
  tryCatch p handler

/-- Write a message. -/
def log (level : Level) (text : String) : Proc Unit :=
  modify fun trace => { trace with messages := trace.messages ++ [⟨level, text⟩] }

/-- `Log.info` -/
def Log.info (msg : String) : Proc Unit := log .info msg

/-- `Log.complete` -/
def Log.complete (msg : String) : Proc Unit := log .complete msg

/-- `Log.warn` -/
def Log.warn (msg : String) : Proc Unit := log .warn msg

/-- `Log.error`. Its docstring ends "then exit the program"; its body only writes. -/
def Log.error (msg : String) : Proc Unit := log .error msg

namespace Shell

/-- `subprocess.run(command, check=check, shell=True)`: the exit status, raised as
`CalledProcessError` when it is not 0 and `check` is set. -/
def spRun (host : Host) (check : Bool) (command : String) : Proc Int := do
  let trace : Trace ← get
  let status := host.exitStatus trace.launched.length command
  set { trace with launched := trace.launched ++ [Launch.mk command status] }
  if check ∧ status ≠ 0 then throw (.calledProcessError command status)
  return status

/-- `Shell.execute`. The returned process is dropped, and with `check=False` the
handler has nothing to catch. -/
def execute (host : Host) (command : String) : Proc Bool := do
  Log.info ("Running: " ++ command)
  Proc.catchException
    (do
      let _ ← spRun host false command
      return true)
    fun error =>
      match error with
      | .calledProcessError _ _ => do
          Log.error (error.text host)
          return false
      | other => throw other

/-- `Shell.is_installed` -/
def isInstalled (host : Host) (command : String) : Bool := host.installed command

end Shell

/-! ## Running procedures -/

namespace Proc

variable {α β : Type}

@[simp] theorem exec_pure (a : α) (trace : Trace) : (pure a : Proc α).exec trace = (.ok a, trace) :=
  rfl

@[simp] theorem exec_throw (e : PyError) (trace : Trace) :
    (throw e : Proc α).exec trace = (.error e, trace) :=
  rfl

theorem exec_bind (p : Proc α) (f : α → Proc β) (trace : Trace) :
    (p >>= f).exec trace =
      match p.exec trace with
      | (.ok a, after) => (f a).exec after
      | (.error e, after) => (.error e, after) := by
  unfold exec ExceptT.run StateT.run
  simp only [bind, ExceptT.bind, ExceptT.mk, StateT.bind, ExceptT.bindCont]
  cases p trace with
  | mk result after => cases result <;> rfl

/-- Sequencing after code that returned. -/
theorem exec_bind_ok {p : Proc α} {f : α → Proc β} {trace after : Trace} {a : α}
    (h : p.exec trace = (.ok a, after)) : (p >>= f).exec trace = (f a).exec after := by
  rw [exec_bind, h]

/-- Sequencing after code that raised. -/
theorem exec_bind_error {p : Proc α} {f : α → Proc β} {trace after : Trace} {e : PyError}
    (h : p.exec trace = (.error e, after)) : (p >>= f).exec trace = (.error e, after) := by
  rw [exec_bind, h]

@[simp] theorem exec_ofExcept_ok (a : α) (trace : Trace) :
    (ofExcept (.ok a)).exec trace = (.ok a, trace) :=
  rfl

@[simp] theorem exec_ofExcept_error (e : PyError) (trace : Trace) :
    (ofExcept (.error e) : Proc α).exec trace = (.error e, trace) :=
  rfl

/-- `except Exception` sees what the code raised, on the trace it left. -/
theorem exec_catch (p : Proc α) (handler : PyError → Proc α) (trace : Trace) :
    (p.catchException handler).exec trace =
      match p.exec trace with
      | (.ok a, after) => (.ok a, after)
      | (.error e, after) => (handler e).exec after := by
  unfold catchException exec ExceptT.run StateT.run
  simp only [tryCatch, tryCatchThe, MonadExceptOf.tryCatch, ExceptT.tryCatch, ExceptT.mk, bind,
    StateT.bind]
  cases p trace with
  | mk result after => cases result <;> rfl

/-- A check of `ok`: it raises when `ok` fails, and leaves nothing on the trace. -/
def Checks (check : Proc Unit) (ok : Prop) (trace : Trace) : Prop :=
  (ok ∧ check.exec trace = (.ok (), trace)) ∨ (¬ ok ∧ ∃ e, check.exec trace = (.error e, trace))

/-- A loop of checks is a check of them all. -/
theorem forM_checks {ok : α → Prop} {check : α → Proc Unit}
    (step : ∀ item trace, (check item).Checks (ok item) trace) (items : List α) (trace : Trace) :
    (forM items check).Checks (∀ item ∈ items, ok item) trace := by
  induction items with
  | nil => exact .inl ⟨fun item member => (List.not_mem_nil member).elim, rfl⟩
  | cons item items ih =>
      unfold Checks
      rw [List.forM_cons, List.forall_mem_cons]
      rcases step item trace with ⟨here, passed⟩ | ⟨here, e, raised⟩
      · rw [exec_bind_ok passed]
        rcases ih with ⟨rest, ran⟩ | ⟨rest, e, raised⟩
        · exact .inl ⟨⟨here, rest⟩, ran⟩
        · exact .inr ⟨fun all => rest all.2, e, raised⟩
      · exact .inr ⟨fun all => here all.1, e, exec_bind_error raised⟩

end Proc

/-! ## What `Shell.execute` leaves behind -/

/-- The trace after one command. -/
def Trace.issue (host : Host) (trace : Trace) (command : String) : Trace :=
  { launched := trace.launched ++ [⟨command, host.exitStatus trace.launched.length command⟩]
    messages := trace.messages ++ [⟨.info, "Running: " ++ command⟩] }

/-- The trace after a sequence of commands. -/
def Trace.issueAll (host : Host) (trace : Trace) (commands : List String) : Trace :=
  commands.foldl (Trace.issue host) trace

/-- The trace after a message. -/
def Trace.say (trace : Trace) (level : Level) (text : String) : Trace :=
  { trace with messages := trace.messages ++ [⟨level, text⟩] }

/-- The commands launched so far. -/
def Trace.commands (trace : Trace) : List String := trace.launched.map Launch.command

@[simp] theorem exec_log (level : Level) (text : String) (trace : Trace) :
    (log level text).exec trace = (.ok (), trace.say level text) :=
  rfl

/-- Whatever the command's status, `execute` returns `True`. -/
theorem Shell.exec_execute (host : Host) (command : String) (trace : Trace) :
    (Shell.execute host command).exec trace = (.ok true, trace.issue host command) :=
  rfl

/-- A loop of `execute` calls launches its commands in order. -/
theorem exec_forM_execute {α : Type} (host : Host) (render : α → String) (items : List α)
    (trace : Trace) :
    Proc.exec (forM items fun item => discard (Shell.execute host (render item))) trace =
      (.ok (), trace.issueAll host (items.map render)) := by
  induction items generalizing trace with
  | nil => rfl
  | cons item items ih =>
      have first : (discard (Shell.execute host (render item)) : Proc Unit).exec trace =
          (.ok (), trace.issue host (render item)) := rfl
      rw [List.forM_cons, Proc.exec_bind_ok first, ih]
      rfl

/-- The launches a sequence of commands adds, when `n` came before. -/
def launches (host : Host) : Nat → List String → List Launch
  | _, [] => []
  | n, command :: commands =>
      ⟨command, host.exitStatus n command⟩ :: launches host (n + 1) commands

theorem Trace.issueAll_launched (host : Host) (trace : Trace) (commands : List String) :
    (trace.issueAll host commands).launched =
      trace.launched ++ launches host trace.launched.length commands := by
  induction commands generalizing trace with
  | nil => simp [Trace.issueAll, launches]
  | cons command commands ih =>
      have step := ih (trace.issue host command)
      simp only [Trace.issueAll, List.foldl_cons] at step ⊢
      rw [step]
      simp [Trace.issue, launches]

theorem launches_command (host : Host) (n : Nat) (commands : List String) :
    (launches host n commands).map Launch.command = commands := by
  induction commands generalizing n with
  | nil => rfl
  | cons command commands ih => simp [launches, ih]

theorem Trace.issueAll_commands (host : Host) (trace : Trace) (commands : List String) :
    (trace.issueAll host commands).commands = trace.commands ++ commands := by
  simp [Trace.commands, Trace.issueAll_launched, launches_command]

theorem Trace.issueAll_append (host : Host) (trace : Trace) (first second : List String) :
    trace.issueAll host (first ++ second) = (trace.issueAll host first).issueAll host second :=
  List.foldl_append

/-- The launches of a sequence all succeed exactly when the host lets each of them. -/
theorem launches_succeed_iff (host : Host) (n : Nat) (commands : List String) :
    (∀ launch ∈ launches host n commands, launch.status = 0) ↔
      ∀ i (h : i < commands.length), host.exitStatus (n + i) commands[i] = 0 := by
  induction commands generalizing n with
  | nil => simp [launches]
  | cons command commands ih =>
      simp only [launches, List.forall_mem_cons, ih]
      constructor
      · rintro ⟨head, tail⟩ i h
        cases i with
        | zero => exact head
        | succ i =>
            have := tail i (by simpa using h)
            rwa [Nat.add_right_comm] at this
      · intro all
        refine ⟨all 0 (by simp), fun i h => ?_⟩
        have := all (i + 1) (by simpa using h)
        rwa [Nat.add_right_comm]

@[simp] theorem Trace.say_commands (trace : Trace) (level : Level) (text : String) :
    (trace.say level text).commands = trace.commands :=
  rfl

@[simp] theorem Trace.say_launched (trace : Trace) (level : Level) (text : String) :
    (trace.say level text).launched = trace.launched :=
  rfl

end Tooling
