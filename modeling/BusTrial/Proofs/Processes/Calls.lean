import BusTrial.Bench
import BusTrial.Proofs.CommandLine.Record

/-!
# The calls of processes

Whatever starts, waits for or ends a process does so through the four calls of `Processes`.  A
`Traced` state notes each of them in its order, with what came of it, and hands everything else on.

* `processCalls` — the calls that the record command makes, in order;
* **`runRecord_eq_traced`** — tracing changes nothing;
* `bench_notes_calls` — a bench has noted just these calls when the command is over.
-/

namespace BusTrial

/-- A call of the processes, with what came of it. -/
inductive ProcessCall where
  | spawn (request : Request) (ended : Outcome Handle)
  | wait (handle : Handle) (ended : Outcome ProcessOutput)
  | kill (handle : Handle) (ended : Outcome Unit)
  | terminate (handle : Handle) (ended : Outcome Unit)
  deriving DecidableEq

/-- A state beside the calls of its processes so far. -/
structure Traced (σ : Type) where
  calls : List ProcessCall := []
  inner : σ

namespace Traced

variable {σ α : Type}

/-- Does something and notes it. -/
def noting (call : Outcome α → ProcessCall) (act : Act σ α) : Act (Traced σ) α :=
  fun o =>
    let (ended, s) := act o.inner
    (ended, { calls := o.calls ++ [call ended], inner := s })

/-- Does something that is not noted. -/
def passing (act : Act σ α) : Act (Traced σ) α :=
  fun o =>
    let (ended, s) := act o.inner
    (ended, { o with inner := s })

theorem noting_projects (call : Outcome α → ProcessCall) (act : Act σ α) :
    Act.Projects inner id (noting call act) act := by
  intro o
  rw [Outcome.map_id]
  rfl

theorem passing_projects (act : Act σ α) : Act.Projects inner id (passing act) act := by
  intro o
  rw [Outcome.map_id]
  rfl

instance [Clock σ] : Clock (Traced σ) where
  now o := Clock.now o.inner
  monotonic o := Clock.monotonic o.inner
  sleep d := passing (Clock.sleep d)

instance [Files σ] : Files (Traced σ) where
  read p := passing (Files.read p)
  write p text := passing (Files.write p text)
  append p text := passing (Files.append p text)
  makeDirectory p := passing (Files.makeDirectory p)

instance [Processes σ] : Processes (Traced σ) where
  spawn r := noting (.spawn r) (Processes.spawn r)
  wait h := noting (.wait h) (Processes.wait h)
  kill h := noting (.kill h) (Processes.kill h)
  terminate h := noting (.terminate h) (Processes.terminate h)

instance [Terminal σ] : Terminal (Traced σ) where
  writeLine line := passing (Terminal.writeLine line)
  writeError text := passing (Terminal.writeError text)

instance [Journal.Feed σ] : Journal.Feed (Traced σ) where
  entriesSince since := passing (Journal.Feed.entriesSince since)

instance [EventLog σ] : EventLog (Traced σ) where
  note e o := { o with inner := EventLog.note e o.inner }

instance [Clock σ] : Clock.Projects (inner : Traced σ → σ) where
  now _ := rfl
  monotonic _ := rfl
  sleep _ := passing_projects _

instance [Files σ] : Files.Projects (inner : Traced σ → σ) where
  read _ := passing_projects _
  write _ _ := passing_projects _
  append _ _ := passing_projects _
  makeDirectory _ := passing_projects _

instance [Processes σ] : Processes.Projects (inner : Traced σ → σ) where
  spawn _ := noting_projects _ _
  wait _ := noting_projects _ _
  kill _ := noting_projects _ _
  terminate _ := noting_projects _ _

instance [Terminal σ] : Terminal.Projects (inner : Traced σ → σ) where
  writeLine _ := passing_projects _
  writeError _ := passing_projects _

instance [Journal.Feed σ] : Journal.Feed.Projects (inner : Traced σ → σ) where
  entriesSince _ := passing_projects _

instance [EventLog σ] : EventLog.Projects (inner : Traced σ → σ) where
  note _ _ := rfl

end Traced

namespace CommandLine

variable {σ : Type} [Clock σ] [Files σ] [Processes σ] [Terminal σ] [Journal.Feed σ] [EventLog σ]

/-- The calls of processes that the record command makes, in order. -/
def processCalls (config : Config) (env : Environment) (command : RecordCommand) (s : σ) :
    List ProcessCall :=
  (runRecord config env command ({ inner := s } : Traced σ)).2.calls

/-- **Tracing changes nothing.**  The record command ends as it does when it is traced, and leaves
the same state. -/
theorem runRecord_eq_traced (config : Config) (env : Environment) (command : RecordCommand)
    (s : σ) :
    runRecord config env command s
      = ((runRecord config env command ({ inner := s } : Traced σ)).1,
          (runRecord config env command ({ inner := s } : Traced σ)).2.inner) := by
  have h := runRecord_projects (f := (Traced.inner : Traced σ → σ)) config env command
    { inner := s }
  rw [Outcome.map_id] at h
  exact h

end CommandLine

/-! ## What a bench notes

A bench notes the calls of its processes by itself, in a list for each kind of call.
-/

namespace ProcessCall

@[simp] def spawned? : ProcessCall → Option Request
  | spawn request _ => some request
  | _ => none

@[simp] def waited? : ProcessCall → Option Handle
  | wait handle _ => some handle
  | _ => none

@[simp] def killed? : ProcessCall → Option Handle
  | kill handle _ => some handle
  | _ => none

@[simp] def terminated? : ProcessCall → Option Handle
  | terminate handle _ => some handle
  | _ => none

end ProcessCall

namespace ScriptedProcesses

/-- The calls have been noted. -/
structure Noted (new : List ProcessCall) (p p' : ScriptedProcesses) : Prop where
  spawned : p'.spawned.toList = p.spawned.toList ++ new.filterMap ProcessCall.spawned?
  waits : p'.waits.toList = p.waits.toList ++ new.filterMap ProcessCall.waited?
  kills : p'.kills.toList = p.kills.toList ++ new.filterMap ProcessCall.killed?
  terminates : p'.terminates.toList = p.terminates.toList ++ new.filterMap ProcessCall.terminated?

theorem Noted.refl (p : ScriptedProcesses) : Noted [] p p :=
  ⟨by simp, by simp, by simp, by simp⟩

theorem Noted.trans {new more : List ProcessCall} {p p' p'' : ScriptedProcesses}
    (h : Noted new p p') (h' : Noted more p' p'') : Noted (new ++ more) p p'' :=
  ⟨by simp [h.spawned, h'.spawned], by simp [h.waits, h'.waits], by simp [h.kills, h'.kills],
    by simp [h.terminates, h'.terminates]⟩

theorem spawn_noted (r : Request) (p : ScriptedProcesses) :
    Noted [.spawn r (spawn r p).1] p (spawn r p).2 := by
  constructor <;> simp [spawn]

theorem wait_noted (h : Handle) (p : ScriptedProcesses) :
    Noted [.wait h (wait h p).1] p (wait h p).2 := by
  obtain ⟨responses, failure, next, spawned, waits, kills, terminates⟩ := p
  rcases responses with _ | ⟨_ | _, rest⟩ <;> constructor <;> simp [wait]

theorem kill_noted (h : Handle) (p : ScriptedProcesses) :
    Noted [.kill h (kill h p).1] p (kill h p).2 := by
  constructor <;> simp [kill]

theorem terminate_noted (h : Handle) (p : ScriptedProcesses) :
    Noted [.terminate h (terminate h p).1] p (terminate h p).2 := by
  obtain ⟨responses, failure, next, spawned, waits, kills, terminates⟩ := p
  rcases failure with _ | failure <;> constructor <;> simp [terminate]

end ScriptedProcesses

namespace Traced

/-- The calls that were made have been noted by the bench. -/
def Notes (o o' : Traced Bench) : Prop :=
  ∃ new, o'.calls = o.calls ++ new ∧
    ScriptedProcesses.Noted new o.inner.processes o'.inner.processes

instance : IsPreorder (Traced Bench) Notes where
  refl o := ⟨[], (List.append_nil _).symm, .refl _⟩
  trans _ _ _ := by
    rintro ⟨new, hcalls, hnoted⟩ ⟨more, hcalls', hnoted'⟩
    exact ⟨new ++ more, by rw [hcalls', hcalls, List.append_assoc], hnoted.trans hnoted'⟩

theorem notes_of_eq {o o' : Traced Bench} (hcalls : o'.calls = o.calls)
    (hprocesses : o'.inner.processes = o.inner.processes) : Notes o o' :=
  ⟨[], by rw [hcalls, List.append_nil], by rw [hprocesses]; exact .refl _⟩

/-- Every call of the processes is noted, however it ends. -/
theorem processes_note : Processes.Move Notes where
  spawn r o := ⟨_, rfl, ScriptedProcesses.spawn_noted r o.inner.processes⟩
  wait h o := ⟨_, rfl, ScriptedProcesses.wait_noted h o.inner.processes⟩
  kill h o := ⟨_, rfl, ScriptedProcesses.kill_noted h o.inner.processes⟩
  terminate h o := ⟨_, rfl, ScriptedProcesses.terminate_noted h o.inner.processes⟩

end Traced

namespace CommandLine

/-- **A bench has noted just the calls of the record command** when it is over. -/
theorem bench_notes_calls (config : Config) (env : Environment) (command : RecordCommand)
    (b : Bench) :
    ScriptedProcesses.Noted (processCalls config env command b) b.processes
      (runRecord config env command b).2.processes := by
  have hmoves : Act.Moves Traced.Notes
      (runRecord config env command : Act (Traced Bench) Int) :=
    runRecord_moves (fun _ _ _ => Traced.notes_of_eq rfl rfl)
      (fun _ _ => Traced.notes_of_eq rfl rfl) Traced.processes_note
      (fun _ _ => Traced.notes_of_eq rfl rfl)
      ⟨fun _ _ => Traced.notes_of_eq rfl rfl, fun _ _ => Traced.notes_of_eq rfl rfl⟩
      (fun _ _ => Traced.notes_of_eq rfl rfl) config env command
  obtain ⟨new, hcalls, hnoted⟩ := hmoves { inner := b }
  rw [runRecord_eq_traced, processCalls, hcalls]
  exact hnoted

end CommandLine

end BusTrial
