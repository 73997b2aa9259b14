import BusTrial.Bench
import BusTrial.Probe.Basic
import BusTrial.Proofs.Act

/-!
# What a wait does

`Probe.waitUntil` is followed down to the three things that it does to the world: it reads the
property, asks the condition about what it found, and sleeps.  `Happens` runs a list of such
`Deed`s, with the condition's state beside the state of the world; a wait *is* the deeds of its
attempts, and a report at the end.

* `Attempt` — one attempt: a read that failed, or a read that the condition was asked about;
* `course` — the deeds of a row of attempts, with one sleep after each miss;
* `waitUntil_of_hit`, `waitUntil_of_misses` — how a wait ends whose first hit comes in time, and
  one that misses as often as it may.  They ask nothing of the devices;
* `exists_course` — of devices that do not crash, one of the two is always the case;
* **`waitUntil_exact`** — the two together, with the reads, the judgements and the sleeps counted.

The induction is on the misses.  Its invariant is that after some misses the wait is one that begins
there, with as many attempts less, the value read last and the failure met last (`waitFrom_misses`).
-/

namespace BusTrial

namespace Probe

variable {σ π : Type}

/-- Something that a wait does to the world, with what came of it. -/
inductive Deed where
  | read (found : Except Failure (Option Value))
  | judge (found : Option Value) (verdict : Except Failure Bool)
  /-- How a sleep ends does not matter. -/
  | sleep (span : Duration)

/-- An attempt of a wait. -/
inductive Attempt where
  /-- The read failed; the condition was not asked. -/
  | unread (failure : Failure)
  | judged (found : Option Value) (verdict : Except Failure Bool)

namespace Attempt

/-- What the attempt comes to. -/
def verdict : Attempt → Except Failure Bool
  | .unread failure => .error failure
  | .judged _ verdict => verdict

/-- The condition was found to hold. -/
def hit (a : Attempt) : Bool :=
  match a.verdict with
  | .ok holds => holds
  | .error _ => false

/-- What was read, if the read succeeded. -/
def found? : Attempt → Option (Option Value)
  | .unread _ => none
  | .judged found _ => some found

/-- The failure of the read or of the condition. -/
def failure? (a : Attempt) : Option Failure :=
  match a.verdict with
  | .ok _ => none
  | .error failure => some failure

/-- The deeds of the attempt itself. -/
def deeds : Attempt → List Deed
  | .unread failure => [.read (.error failure)]
  | .judged found verdict => [.read (.ok found), .judge found verdict]

/-- The deeds up to the next attempt; there is none after a hit. -/
def course (interval : Duration) (a : Attempt) : List Deed :=
  if a.hit then a.deeds else a.deeds ++ [.sleep interval]

end Attempt

/-- The deeds of attempts in a row. -/
def course (interval : Duration) (attempts : List Attempt) : List Deed :=
  attempts.flatMap (Attempt.course interval)

/-- The last of some things that attempts may come with, or one from before them. -/
def latest {β : Type} (pick : Attempt → Option β) (before : β) (attempts : List Attempt) : β :=
  ((attempts.filterMap pick).getLast?).getD before

/-- One more attempt may bring a later one. -/
theorem latest_cons {β : Type} (pick : Attempt → Option β) (before : β) (a : Attempt)
    (rest : List Attempt) :
    latest pick before (a :: rest) = latest pick ((pick a).getD before) rest := by
  cases h : pick a with
  | none => simp [latest, h]
  | some x => simp [latest, h, List.getLast?_cons]

/-- The failure met last, if there was one. -/
def lastFailure (before : Option Failure) (attempts : List Attempt) : Option Failure :=
  latest (fun a => a.failure?.map some) before attempts

/-- The probe after some attempts: it holds what the last read that succeeded found. -/
def afterwards (p : Probe) (attempts : List Attempt) : Probe :=
  { p with last := latest Attempt.found? p.last attempts }

/-- Attempts change a probe one after the other. -/
theorem afterwards_cons (p : Probe) (a : Attempt) (rest : List Attempt) :
    p.afterwards (a :: rest) = (p.afterwards [a]).afterwards rest := by
  simp only [afterwards, latest_cons]
  rfl

/-- Attempts in two parts change it as they do in one row. -/
theorem afterwards_append (p : Probe) (attempts more : List Attempt) :
    p.afterwards (attempts ++ more) = (p.afterwards attempts).afterwards more := by
  induction attempts generalizing p with
  | nil => rfl
  | cons a rest ih =>
      rw [List.cons_append, afterwards_cons, ih, ← afterwards_cons]

/-! ## One read -/

section

variable [Bus σ] [Processes σ]

/-- A read of the property, whatever the probe makes of it. -/
def fetch (p : Probe) : Act σ (Option Value) :=
  p.link.getProperty p.object p.interface p.property

variable {p : Probe} {s t : σ}

/-- A read that went well is kept in the probe. -/
theorem refresh_of_ok {found : Option Value} (h : p.fetch.result s = (.done (.ok found), t)) :
    refresh (p, s) = (.done found, { p with last := found }, t) := by
  have hread := Act.of_result_ok h
  rw [fetch] at hread
  simp only [refresh, hread]

/-- A read that failed leaves the probe as it is. -/
theorem refresh_of_error {failure : Failure}
    (h : p.fetch.result s = (.done (.error failure), t)) :
    refresh (p, s) = (.failed failure, p, t) := by
  have hread := Act.of_result_error h
  rw [fetch] at hread
  simp only [refresh, hread]

end

/-! ## Deeds happen

What a deed does to the world does not depend on what the probe holds, only on how it reads.
-/

section

variable [Clock σ] {condition : Option Value → Act π Bool}

/-- One deed happens, from one state of the condition and the world to another. -/
def Deed.Happens (fetch : Act σ (Option Value)) (condition : Option Value → Act π Bool)
    (x : π × σ) : Deed → π × σ → Prop
  | .read found, y => fetch.result x.2 = (.done found, y.2) ∧ y.1 = x.1
  | .judge found verdict, y => (condition found).result x.1 = (.done verdict, y.1) ∧ y.2 = x.2
  | .sleep span, y =>
    (∃ ended, (Clock.sleep span : Act σ Unit).result x.2 = (.done ended, y.2)) ∧ y.1 = x.1

/-- Deeds happen one after another. -/
inductive Happens (fetch : Act σ (Option Value)) (condition : Option Value → Act π Bool) :
    List Deed → π × σ → π × σ → Prop where
  | nil (x : π × σ) : Happens fetch condition [] x x
  | cons {d : Deed} {rest : List Deed} {x y z : π × σ} :
      d.Happens fetch condition x y → Happens fetch condition rest y z →
        Happens fetch condition (d :: rest) x z

namespace Happens

variable {fetch : Act σ (Option Value)} {x y z : π × σ}

/-- One deed leads from the state before it to the one after it. -/
theorem single {d : Deed} (h : d.Happens fetch condition x y) : Happens fetch condition [d] x y :=
  .cons h (.nil y)

/-- Deeds lead on from where others have led. -/
theorem append {deeds more : List Deed} (first : Happens fetch condition deeds x y)
    (rest : Happens fetch condition more y z) : Happens fetch condition (deeds ++ more) x z := by
  induction first with
  | nil => exact rest
  | cons h _ ih => exact .cons h (ih rest)

/-- Deeds in a row begin with the first of them. -/
theorem cons_inv {d : Deed} {rest : List Deed} (h : Happens fetch condition (d :: rest) x z) :
    ∃ y, d.Happens fetch condition x y ∧ Happens fetch condition rest y z := by
  cases h with
  | cons first rest => exact ⟨_, first, rest⟩

/-- Deeds in two parts meet in a state. -/
theorem append_inv {deeds more : List Deed} (h : Happens fetch condition (deeds ++ more) x z) :
    ∃ y, Happens fetch condition deeds x y ∧ Happens fetch condition more y z := by
  induction deeds generalizing x with
  | nil => exact ⟨x, .nil x, h⟩
  | cons d rest ih =>
      obtain ⟨y, first, h⟩ := h.cons_inv
      obtain ⟨y', hrest, hmore⟩ := ih h
      exact ⟨y', .cons first hrest, hmore⟩

/-- A row of one deed is that deed. -/
theorem single_inv {d : Deed} (h : Happens fetch condition [d] x z) :
    d.Happens fetch condition x z := by
  obtain ⟨y, first, rest⟩ := h.cons_inv
  cases rest
  exact first

end Happens

/-! ## One attempt -/

variable [Bus σ] [Processes σ] {p : Probe} {s t : σ} {x y : π}

/-- An attempt comes to its verdict and leaves the probe with what it read. -/
theorem look_of_happens (a : Attempt) (h : Happens p.fetch condition a.deeds (x, s) (y, t)) :
    (look condition).result (x, p, s) = (.done a.verdict, y, p.afterwards [a], t) := by
  cases a with
  | unread failure =>
      obtain ⟨hread, rfl⟩ := h.single_inv
      have hrefresh := Act.onRight_of (x := y) (refresh_of_error hread)
      refine Act.result_of_failed ?_
      rw [look, Act.bind_of_failed hrefresh]
      rfl
  | judged found verdict =>
      obtain ⟨⟨x', s'⟩, ⟨hread, rfl⟩, hjudge⟩ := h.cons_inv
      obtain ⟨hjudge, rfl⟩ := hjudge.single_inv
      have hrefresh := Act.onRight_of (x := x') (refresh_of_ok hread)
      cases verdict with
      | ok holds =>
          refine Act.result_of_done ?_
          rw [look, Act.bind_of_done hrefresh]
          exact Act.onLeft_of (Act.of_result_ok hjudge)
      | error failure =>
          refine Act.result_of_failed ?_
          rw [look, Act.bind_of_done hrefresh]
          exact Act.onLeft_of (Act.of_result_error hjudge)

/-- A sleep that happened is a pause, whatever the probe was before it. -/
theorem pause_of_happens {span : Duration}
    (h : (Deed.sleep span).Happens p.fetch condition (x, s) (y, t)) (q : Probe) :
    pause span (x, q, s) = (.done (), y, q, t) := by
  obtain ⟨⟨ended, hsleep⟩, rfl⟩ := h
  have hpair : (Clock.sleep span : Act (π × Probe × σ) Unit).result (y, q, s)
      = (.done ended, y, q, t) := by
    cases ended with
    | ok value =>
        have hworld := Act.of_result_ok hsleep
        exact Act.result_of_done (Act.onRight_of (Act.onRight_of hworld))
    | error failure =>
        have hworld := Act.of_result_error hsleep
        exact Act.result_of_failed (Act.onRight_of (Act.onRight_of hworld))
  rw [pause, Act.bind_of_done hpair]
  rfl

/-! ## The attempts of a wait -/

/-- After an attempt that missed there is a sleep. -/
theorem Attempt.course_of_miss {a : Attempt} (interval : Duration) (miss : a.hit = false) :
    a.course interval = a.deeds ++ [.sleep interval] := by
  simp [Attempt.course, miss]

/-- After one that hit there is none. -/
theorem Attempt.course_of_hit {a : Attempt} (interval : Duration) (hit : a.hit = true) :
    a.course interval = a.deeds := by
  simp [Attempt.course, hit]

/-- An attempt that hit was judged true. -/
theorem Attempt.verdict_of_hit {a : Attempt} (hit : a.hit = true) : a.verdict = .ok true := by
  rcases h : a.verdict with failure | holds <;> simp only [Attempt.hit, h] at hit
  · cases hit
  · rw [hit]

/-- A miss costs one attempt and one sleep. -/
theorem waitFrom_miss (a : Attempt) (miss : a.hit = false) (made left : Nat)
    (earlier : Option Failure)
    (h : Happens p.fetch condition (a.course p.timing.interval) (x, s) (y, t)) :
    waitFrom condition p.timing.interval made earlier (left + 1) (x, p, s)
      = waitFrom condition p.timing.interval (made + 1) (lastFailure earlier [a]) left
          (y, p.afterwards [a], t) := by
  rw [a.course_of_miss _ miss] at h
  obtain ⟨⟨x', s'⟩, hattempt, hsleep⟩ := h.append_inv
  have hlook := look_of_happens a hattempt
  have hpause := pause_of_happens hsleep.single_inv (p.afterwards [a])
  rw [waitFrom, Act.bind_of_done hlook]
  rcases hverdict : a.verdict with failure | holds
  · have hlast : lastFailure earlier [a] = some failure := by
      simp [lastFailure, latest, Attempt.failure?, hverdict]
    rw [hlast]
    exact Act.bind_of_done hpause
  · have hlast : lastFailure earlier [a] = earlier := by
      simp [lastFailure, latest, Attempt.failure?, hverdict]
    have hholds : holds = false := by simpa only [Attempt.hit, hverdict] using miss
    rw [hlast, hholds]
    exact Act.bind_of_done hpause

/-- **Misses are used up.**  After some misses a wait goes on like one that begins there. -/
theorem waitFrom_misses (misses : List Attempt) (hmiss : ∀ a ∈ misses, a.hit = false) :
    ∀ {p : Probe} {x : π} {s : σ} (made left : Nat) (earlier : Option Failure),
      Happens p.fetch condition (course p.timing.interval misses) (x, s) (y, t) →
      waitFrom condition p.timing.interval made earlier (misses.length + left) (x, p, s)
        = waitFrom condition p.timing.interval (made + misses.length) (lastFailure earlier misses)
            left (y, p.afterwards misses, t) := by
  induction misses with
  | nil =>
      intro p x s made left earlier h
      cases h
      rw [List.length_nil, Nat.zero_add]
      rfl
  | cons a rest ih =>
      intro p x s made left earlier h
      rw [course, List.flatMap_cons] at h
      obtain ⟨⟨x', s'⟩, hfirst, hrest⟩ := h.append_inv
      have hone := waitFrom_miss a (hmiss a (List.mem_cons_self ..)) made (rest.length + left)
        earlier hfirst
      have hnext := ih (fun b hb => hmiss b (List.mem_cons_of_mem a hb)) (p := p.afterwards [a])
        (made + 1) left (lastFailure earlier [a]) hrest
      have hcount : (a :: rest).length + left = rest.length + left + 1 := by
        simp only [List.length_cons]
        omega
      have hmade : made + (a :: rest).length = made + 1 + rest.length := by
        simp only [List.length_cons]
        omega
      have hlast :
          lastFailure (lastFailure earlier [a]) rest = lastFailure earlier (a :: rest) := by
        simp only [lastFailure, latest_cons]
        rfl
      rw [hcount, hmade, hone, p.afterwards_cons a rest, ← hlast]
      exact hnext

/-! ## The end of a wait -/

section

variable [EventLog σ] {timeout : Duration} {misses : List Attempt}

omit [Bus σ] [Processes σ] [Clock σ] in
/-- However a wait ends, it reports one event. -/
theorem reportWait_notes (p : Probe) (timeout : Duration) (ended : WaitEnd) (t : σ) :
    ∃ e, (reportWait p timeout ended t).2 = EventLog.note e t := by
  cases ended <;> exact ⟨_, rfl⟩

/-- A wait that misses as often as it may is over. -/
theorem waitUntil_of_misses (hmiss : ∀ a ∈ misses, a.hit = false)
    (hcount : misses.length = p.timing.attempts timeout)
    (h : Happens p.fetch condition (course p.timing.interval misses) (x, s) (y, t)) :
    waitUntil timeout condition (x, p, s)
      = (.done false, y, p.afterwards misses,
          (reportWait (p.afterwards misses) timeout
            (.exhausted (lastFailure none misses)) t).2) := by
  have hmisses := waitFrom_misses misses hmiss 0 0 none h
  rw [Nat.add_zero, hcount] at hmisses
  have hwait : waitFrom condition p.timing.interval 0 none (p.timing.attempts timeout) (x, p, s)
      = (.done (.exhausted (lastFailure none misses)), y, p.afterwards misses, t) := by
    rw [hmisses]
    rfl
  rw [waitUntil]
  refine (Act.bind_of_done rfl).trans ?_
  refine (Act.bind_of_done hwait).trans ?_
  rfl

/-- A wait ends with its first hit, if that comes in time. -/
theorem waitUntil_of_hit {hit : Attempt} (hmiss : ∀ a ∈ misses, a.hit = false)
    (hhit : hit.hit = true) (hcount : misses.length < p.timing.attempts timeout)
    (h : Happens p.fetch condition (course p.timing.interval (misses ++ [hit])) (x, s) (y, t)) :
    waitUntil timeout condition (x, p, s)
      = (.done true, y, p.afterwards (misses ++ [hit]),
          (reportWait (p.afterwards (misses ++ [hit])) timeout
            (.satisfied (misses.length + 1)) t).2) := by
  rw [course, List.flatMap_append, List.flatMap_singleton, hit.course_of_hit _ hhit] at h
  obtain ⟨⟨x', s'⟩, hcourse, hattempt⟩ := h.append_inv
  have hlook := look_of_happens (p := p.afterwards misses) hit hattempt
  rw [Attempt.verdict_of_hit hhit, ← afterwards_append] at hlook
  obtain ⟨left, hleft⟩ : ∃ left, p.timing.attempts timeout = misses.length + (left + 1) :=
    ⟨p.timing.attempts timeout - misses.length - 1, by omega⟩
  have hmisses := waitFrom_misses misses hmiss 0 (left + 1) none hcourse
  have hwait : waitFrom condition p.timing.interval 0 none (p.timing.attempts timeout) (x, p, s)
      = (.done (.satisfied (misses.length + 1)), y, p.afterwards (misses ++ [hit]), t) := by
    rw [hleft, hmisses, waitFrom, Act.bind_of_done hlook, Nat.zero_add]
    rfl
  rw [waitUntil]
  refine (Act.bind_of_done rfl).trans ?_
  refine (Act.bind_of_done hwait).trans ?_
  rfl

end

end

/-! ## Every wait takes a course -/

/-- Reads, judgements and sleeps succeed or fail, but do not crash. -/
structure Steady [Clock σ] (fetch : Act σ (Option Value)) (condition : Option Value → Act π Bool)
    (interval : Duration) : Prop where
  fetch : fetch.NeverCrashes
  condition : ∀ found, (condition found).NeverCrashes
  sleep : (Clock.sleep interval : Act σ Unit).NeverCrashes

section

variable [Clock σ] {fetch : Act σ (Option Value)} {condition : Option Value → Act π Bool}
  {interval : Duration}

/-- If nothing crashes, there is an attempt from every state. -/
theorem Steady.exists_attempt (steady : Steady fetch condition interval) (x : π) (s : σ) :
    ∃ a y t, Happens fetch condition (Attempt.deeds a) (x, s) (y, t) := by
  obtain ⟨found, t, hread⟩ := steady.fetch.exists_result s
  cases found with
  | error failure => exact ⟨.unread failure, x, t, .single ⟨hread, rfl⟩⟩
  | ok found =>
      obtain ⟨verdict, y, hjudge⟩ := (steady.condition found).exists_result x
      have hread : Deed.Happens fetch condition (x, s) (.read (.ok found)) (x, t) := ⟨hread, rfl⟩
      exact ⟨.judged found verdict, y, t, .cons hread (.single ⟨hjudge, rfl⟩)⟩

/-- **Up to `n` attempts happen.**  Either the first hit is among them, or all of them miss. -/
theorem Steady.exists_course (steady : Steady fetch condition interval) (n : Nat) :
    ∀ (x : π) (s : σ), ∃ (misses : List Attempt) (hit : Option Attempt) (y : π) (t : σ),
      (∀ a ∈ misses, a.hit = false) ∧ (∀ a ∈ hit, a.hit = true) ∧
        misses.length + hit.toList.length ≤ n ∧ (hit = none → misses.length = n) ∧
        Happens fetch condition (course interval (misses ++ hit.toList)) (x, s) (y, t) := by
  induction n with
  | zero =>
      intro x s
      exact ⟨[], none, x, s, by simp, by simp, by simp, fun _ => rfl, .nil (x, s)⟩
  | succ n ih =>
      intro x s
      obtain ⟨a, y, t, hattempt⟩ := steady.exists_attempt x s
      cases hit : a.hit with
      | true =>
          refine ⟨[], some a, y, t, by simp, by simpa using hit, by simp, nofun, ?_⟩
          simpa [course, a.course_of_hit interval hit] using hattempt
      | false =>
          obtain ⟨ended, t', hsleep⟩ := steady.sleep.exists_result t
          have hcourse : Happens fetch condition (a.course interval) (x, s) (y, t') := by
            rw [a.course_of_miss interval hit]
            exact hattempt.append (.single ⟨⟨ended, hsleep⟩, rfl⟩)
          obtain ⟨misses, found, y', t'', hmiss, hhit, hle, hnone, hrest⟩ := ih y t'
          refine ⟨a :: misses, found, y', t'', ?_, hhit, ?_, fun h => ?_, ?_⟩
          · intro b hb
            rcases List.mem_cons.1 hb with rfl | hb
            · exact hit
            · exact hmiss b hb
          · simp only [List.length_cons]
            omega
          · simp only [List.length_cons, hnone h]
          · exact hcourse.append hrest

end

/-! ## Counting -/

/-- What the reads found, in order. -/
def reads (deeds : List Deed) : List (Except Failure (Option Value)) :=
  deeds.filterMap fun
    | .read found => some found
    | _ => none

/-- What the condition was asked about, in order. -/
def judged (deeds : List Deed) : List (Option Value) :=
  deeds.filterMap fun
    | .judge found _ => some found
    | _ => none

/-- The spans slept, in order. -/
def slept (deeds : List Deed) : List Duration :=
  deeds.filterMap fun
    | .sleep span => some span
    | _ => none

/-- What the reads that succeeded found, in order. -/
def values (deeds : List Deed) : List (Option Value) :=
  (reads deeds).filterMap Except.toOption

/-- Each attempt reads once, and asks the condition if that succeeded. -/
theorem course_cons (interval : Duration) (a : Attempt) (rest : List Attempt) :
    (reads (course interval (a :: rest))).length = (reads (course interval rest)).length + 1 ∧
      values (course interval (a :: rest)) = a.found?.toList ++ values (course interval rest) ∧
      judged (course interval (a :: rest)) = a.found?.toList ++ judged (course interval rest) ∧
      slept (course interval (a :: rest))
        = (if a.hit then [] else [interval]) ++ slept (course interval rest) := by
  simp only [course, List.flatMap_cons, Attempt.course]
  rcases a with failure | ⟨found, failure | holds⟩
  · refine ⟨?_, ?_, ?_, ?_⟩ <;> rfl
  · refine ⟨?_, ?_, ?_, ?_⟩ <;> rfl
  · cases holds <;> refine ⟨?_, ?_, ?_, ?_⟩ <;> rfl

/-- There is one read for each attempt. -/
theorem course_reads (interval : Duration) (attempts : List Attempt) :
    (reads (course interval attempts)).length = attempts.length := by
  induction attempts with
  | nil => rfl
  | cons a rest ih => rw [(course_cons interval a rest).1, ih, List.length_cons]

/-- The values that were read are those of the attempts that found one. -/
theorem course_values (interval : Duration) (attempts : List Attempt) :
    values (course interval attempts) = attempts.filterMap Attempt.found? := by
  induction attempts with
  | nil => rfl
  | cons a rest ih =>
      rw [(course_cons interval a rest).2.1, ih]
      cases h : a.found? <;> simp [h]

/-- Each value that was read is judged, and nothing else is. -/
theorem course_judged (interval : Duration) (attempts : List Attempt) :
    judged (course interval attempts) = values (course interval attempts) := by
  induction attempts with
  | nil => rfl
  | cons a rest ih =>
      obtain ⟨-, hvalues, hjudged, -⟩ := course_cons interval a rest
      rw [hvalues, hjudged, ih]

/-- There is one sleep for each attempt that missed. -/
theorem course_slept (interval : Duration) (misses : List Attempt) (hit : Option Attempt)
    (hmiss : ∀ a ∈ misses, a.hit = false) (hhit : ∀ a ∈ hit, a.hit = true) :
    slept (course interval (misses ++ hit.toList)) = List.replicate misses.length interval := by
  induction misses with
  | nil =>
      cases hit with
      | none => rfl
      | some a =>
          have ha := hhit a rfl
          rw [List.nil_append, Option.toList, (course_cons interval a []).2.2.2, if_pos ha]
          rfl
  | cons a rest ih =>
      have ha := hmiss a (List.mem_cons_self ..)
      have hrest := ih fun b hb => hmiss b (List.mem_cons_of_mem a hb)
      rw [List.cons_append, (course_cons interval a _).2.2.2, hrest, if_neg (by simp [ha])]
      rfl

/-- Afterwards a probe holds the last value that was read, or what it held before. -/
theorem afterwards_eq (p : Probe) (attempts : List Attempt) :
    p.afterwards attempts
      = { p with last := (values (course p.timing.interval attempts)).getLast?.getD p.last } := by
  rw [afterwards, latest, course_values]

/-! ## The whole wait -/

section

variable [Bus σ] [Processes σ] [Clock σ] [EventLog σ]

/-- **What a wait does, exactly.**  With `n` attempts in the time allowed, some attempts miss, and
either the next one hits, in time, or there were `n` of them.  In the first case the wait says so
after one read more than it slept, in the second it gives up after `n` reads and `n` sleeps.  Each
sleep takes one interval, the condition is asked once about each value that was read, in order, and
the last of these values is what the probe holds afterwards. -/
theorem waitUntil_exact (p : Probe) (timeout : Duration) (condition : Option Value → Act π Bool)
    (x : π) (s : σ) (steady : Steady (p.fetch : Act σ _) condition p.timing.interval) :
    let n :=
      if p.timing.interval.nanos = 0 then 1 else timeout.nanos / p.timing.interval.nanos
    ∃ (misses : List Attempt) (hit : Option Attempt) (y : π) (t : σ) (e : LogEvent),
      let deeds := course p.timing.interval (misses ++ hit.toList)
      (∀ a ∈ misses, a.hit = false) ∧ (∀ a ∈ hit, a.hit = true) ∧
        Happens p.fetch condition deeds (x, s) (y, t) ∧
        waitUntil timeout condition (x, p, s)
          = (.done hit.isSome, y, { p with last := (values deeds).getLast?.getD p.last },
              EventLog.note e t) ∧
        judged deeds = values deeds ∧
        match hit with
        | some _ =>
          misses.length + 1 ≤ n ∧ (reads deeds).length = misses.length + 1 ∧
            slept deeds = List.replicate misses.length p.timing.interval
        | none =>
          misses.length = n ∧ (reads deeds).length = n ∧
            slept deeds = List.replicate n p.timing.interval := by
  intro n
  obtain ⟨misses, hit, y, t, hmiss, hhit, hle, hnone, h⟩ := steady.exists_course n x s
  have hlast := afterwards_eq p (misses ++ hit.toList)
  have hslept := course_slept p.timing.interval misses hit hmiss hhit
  have hreads := course_reads p.timing.interval (misses ++ hit.toList)
  have hjudged := course_judged p.timing.interval (misses ++ hit.toList)
  cases hit with
  | none =>
      have hcount := hnone rfl
      simp only [Option.toList, List.append_nil] at h hlast hslept hreads hjudged
      have hwait := waitUntil_of_misses hmiss hcount h
      obtain ⟨e, hnote⟩ := reportWait_notes (p.afterwards misses) timeout
        (.exhausted (lastFailure none misses)) t
      rw [hnote, hlast] at hwait
      refine ⟨misses, none, y, t, e, ?_⟩
      simp only [Option.toList, List.append_nil]
      exact ⟨hmiss, hhit, h, hwait, hjudged, hcount, hreads.trans hcount, hcount ▸ hslept⟩
  | some a =>
      have hcount : misses.length < n := hle
      have hwait := waitUntil_of_hit hmiss (hhit a rfl) hcount h
      have hlength : (misses ++ (some a).toList).length = misses.length + 1 := by simp
      obtain ⟨e, hnote⟩ := reportWait_notes (p.afterwards (misses ++ [a])) timeout
        (.satisfied (misses.length + 1)) t
      rw [hnote] at hwait
      rw [Option.toList] at hlast
      rw [hlast] at hwait
      exact ⟨misses, some a, y, t, e, hmiss, hhit, h, hwait, hjudged, hcount, hreads.trans hlength,
        hslept⟩

end

/-! ### A property that settles

The wait that the law is shown on: the first read fails, the second finds nothing, and the third one
finds what the condition wants.
-/

/-- A probe of a property of the bus in memory. -/
def settlingProbe : Probe where
  link := .direct
  object := ⟨"org.example", "/org/example"⟩
  interface := "org.example.Unit"
  property := "Ready"

/-- The bench with the bus that the property is on. -/
def settlingBench : Bench where
  bus := ({} : ScriptedBus).script ⟨"/org/example", "org.example.Unit", "Ready"⟩
    [.error "busy", .value none, .value (some (.bool true))]

/-- The value is true.  The state counts how often that was asked; it cannot be said of no value. -/
def isReady (found : Option Value) : Act Nat Bool := fun asked =>
  match found with
  | none => (.failed (.assertion "no value"), asked + 1)
  | some value => (.done value.isTruthy, asked + 1)

/-- Nothing crashes on a bench while the property is read. -/
theorem settlingProbe_steady :
    Steady (settlingProbe.fetch : Act Bench _) isReady settlingProbe.timing.interval where
  fetch := by
    intro b crash
    show (ScriptedBus.getProperty _ _ _ b.bus).1 ≠ _
    simp only [ScriptedBus.getProperty]
    split
    · nofun
    · nofun
    · cases ‹Reply› <;> nofun
    · cases ‹Reply› <;> nofun
  condition := by
    rintro (_ | value) asked crash <;> nofun
  sleep := by
    intro b crash
    nofun

/-- The wait comes to its value in time, and sleeps between each two of its reads. -/
theorem waitUntil_exact_settling :
    ∃ (deeds : List Deed) (y : Nat × Bench),
      Happens settlingProbe.fetch isReady deeds (0, settlingBench) y ∧
        (waitUntil (.ofSeconds 5) isReady (0, settlingProbe, settlingBench)).1 = .done true ∧
        (reads deeds).length = (slept deeds).length + 1 ∧ (reads deeds).length ≤ 10 := by
  obtain ⟨misses, hit, y, t, e, -, -, h, hwait, -, hcount⟩ :=
    waitUntil_exact settlingProbe (.ofSeconds 5) isReady 0 settlingBench settlingProbe_steady
  have hdone : (waitUntil (.ofSeconds 5) isReady (0, settlingProbe, settlingBench)).1
      = .done true := rfl
  refine ⟨_, _, h, hdone, ?_⟩
  cases hit with
  | none =>
      rw [hwait] at hdone
      cases hdone
  | some a =>
      obtain ⟨hle, hreads, hslept⟩ := hcount
      rw [hreads, hslept, List.length_replicate]
      exact ⟨rfl, hle⟩

end Probe

end BusTrial
