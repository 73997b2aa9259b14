import BusTrial.Proofs.Bus.Busctl
import BusTrial.Proofs.Probe.Verdict

/-!
# Polling through `busctl`

On a bench each read of a probe takes the next queued response, so a whole wait can be told from the
queue: the number of a response is the number of the attempt that it answers.

* `Polled` — what reading and sleeping leave of a bench;
* `happens_course` — a row of attempts takes as many responses, and each attempt comes to what its
  response says.  This is the induction, and it is on the attempts;
* **`assert_polls`** — an assertion ends with the first response that meets it, or with as many read
  as there is time for.
-/

namespace BusTrial

/-! ## Reading and sleeping on a bench -/

/-- From `b` to `t` that many processes were started, each for the same request, and each waited for
in turn, and that many intervals were slept.  Nothing else was done but to report. -/
structure Polled (request : Request) (interval : Duration) (reads sleeps : Nat) (b t : Bench) :
    Prop where
  spawned : t.processes.spawned.toList
    = b.processes.spawned.toList ++ List.replicate reads request
  waits : t.processes.waits.toList
    = b.processes.waits.toList ++ List.range' b.processes.next reads
  next : t.processes.next = b.processes.next + reads
  responses : t.processes.responses = b.processes.responses.drop reads
  slept : t.clock.sleeps.toList = b.clock.sleeps.toList ++ List.replicate sleeps interval
  ended : (t.processes.kills, t.processes.terminates)
    = (b.processes.kills, b.processes.terminates)
  files : t.files = b.files
  screen : t.screen = b.screen

namespace Polled

variable {request : Request} {interval : Duration} {reads sleeps reads' sleeps' : Nat}
  {a b c t : Bench}

theorem refl (b : Bench) : Polled request interval 0 0 b b where
  spawned := by simp
  waits := by simp
  next := rfl
  responses := rfl
  slept := by simp
  ended := rfl
  files := rfl
  screen := rfl

theorem trans (h : Polled request interval reads sleeps a b)
    (h' : Polled request interval reads' sleeps' b c) :
    Polled request interval (reads + reads') (sleeps + sleeps') a c where
  spawned := by rw [h'.spawned, h.spawned, List.append_assoc, List.replicate_append_replicate]
  waits := by
    have hrange := List.range'_append_1 (s := a.processes.next) (m := reads) (n := reads')
    rw [h'.waits, h.waits, h.next, List.append_assoc, hrange]
  next := by rw [h'.next, h.next, Nat.add_assoc]
  responses := by rw [h'.responses, h.responses, List.drop_drop]
  slept := by rw [h'.slept, h.slept, List.append_assoc, List.replicate_append_replicate]
  ended := h'.ended.trans h.ended
  files := h'.files.trans h.files
  screen := h'.screen.trans h.screen

theorem noted (h : Polled request interval reads sleeps b t) (e : LogEvent) :
    Polled request interval reads sleeps b (EventLog.note e t) :=
  ⟨h.spawned, h.waits, h.next, h.responses, h.slept, h.ended, h.files, h.screen⟩

end Polled

theorem Polled.run (request : Request) (interval : Duration) (b : Bench) :
    Polled request interval 1 0 b (b.afterRun request) where
  spawned := by simp [Bench.afterRun]
  waits := by simp [Bench.afterRun]
  next := rfl
  responses := by simp [Bench.afterRun]
  slept := by simp [Bench.afterRun]
  ended := rfl
  files := rfl
  screen := rfl

theorem Polled.sleep (request : Request) (interval : Duration) (b : Bench) :
    Polled request interval 0 1 b { b with clock := b.clock.sleep interval } where
  spawned := by simp
  waits := by simp
  next := rfl
  responses := rfl
  slept := by simp [SteppedClock.sleep]
  ended := rfl
  files := rfl
  screen := rfl

namespace Probe

/-- What a read of a property finds when this response is next in the queue, if there is one. -/
def answer (p : Probe) (response : Option (Except Failure ProcessOutput)) :
    Except Failure (Option Value) :=
  received response >>= Busctl.propertyOf p.object p.interface p.property

/-- The request that a read of the property makes. -/
def readRequest (p : Probe) (client : Busctl) : Request :=
  client.request "get-property" (Busctl.memberWords p.object p.interface p.property)

/-- The attempt that a read comes to, judged by an assertion. -/
def Attempt.ofAnswer (a : Assertion) : Except Failure (Option Value) → Attempt
  | .ok found => .judged found (a.holds found)
  | .error failure => .unread failure

theorem Attempt.hit_ofAnswer {a : Assertion} {found : Except Failure (Option Value)} :
    (ofAnswer a found).hit = true ↔ ∃ value, found = .ok value ∧ a.Met value := by
  cases found with
  | error failure => simp [ofAnswer, hit, verdict]
  | ok value =>
    have hholds : (ofAnswer a (.ok value)).hit = true ↔ a.holds value = .ok true := by
      simp only [ofAnswer, hit, verdict]
      cases a.holds value <;> simp
    simp [hholds, Assertion.holds_iff_met]

variable {client : Busctl} {p : Probe} {a : Assertion} {interval : Duration} {b t : Bench}

/-- A read takes the next response. -/
theorem fetch_result (hlink : p.link = .system client) (b : Bench) :
    (p.fetch : Act Bench _).result b
      = (.done (p.answer b.processes.responses.head?), b.afterRun (p.readRequest client)) := by
  have hfetch : (p.fetch : Act Bench _)
      = (Processes.run (p.readRequest client) >>= fun out =>
          .ofExcept (Busctl.propertyOf p.object p.interface p.property out)) := by
    rw [fetch, hlink]
    rfl
  have hrun := run_result (p.readRequest client) b
  rw [answer]
  rcases hresponse : received b.processes.responses.head? with failure | out <;>
    rw [hresponse] at hrun
  · rw [hfetch]
    exact Act.result_of_failed (Act.bind_of_failed (Act.of_result_error hrun))
  · have hread : p.fetch b = Act.ofExcept (Busctl.propertyOf p.object p.interface p.property out)
        (b.afterRun (p.readRequest client)) := by
      rw [hfetch]
      exact Act.bind_of_done (Act.of_result_ok hrun)
    show _ = (Outcome.done (Busctl.propertyOf p.object p.interface p.property out), _)
    cases hproperty : Busctl.propertyOf p.object p.interface p.property out with
    | ok found => exact Act.result_of_done (hread.trans (by rw [hproperty]; rfl))
    | error failure => exact Act.result_of_failed (hread.trans (by rw [hproperty]; rfl))

theorem steady_on_bench (hlink : p.link = .system client) (a : Assertion) (interval : Duration) :
    Steady (p.fetch : Act Bench _) (judge a) interval where
  fetch b crash h := by
    have hread := fetch_result hlink b
    rw [Act.result_of_crashed (Prod.ext h rfl)] at hread
    cases hread
  condition := judge_neverCrashes a
  sleep := by
    intro b crash
    nofun

/-! ## Attempts and responses -/

/-- One attempt takes one response, comes to what that says, and is followed by a sleep unless it
hit. -/
theorem happens_attempt {one : Attempt} (hlink : p.link = .system client)
    (h : Happens p.fetch (judge a) (one.course interval) ((), b) ((), t)) :
    one = Attempt.ofAnswer a (p.answer b.processes.responses.head?) ∧
      Polled (p.readRequest client) interval 1 (if one.hit then 0 else 1) b t := by
  -- what the deeds of the attempt itself come to
  have hdeeds : ∀ {c : Bench}, Happens p.fetch (judge a) one.deeds ((), b) ((), c) →
      one = Attempt.ofAnswer a (p.answer b.processes.responses.head?) ∧
        c = b.afterRun (p.readRequest client) := by
    intro c hdeeds
    cases one with
    | unread failure =>
      obtain ⟨hread, -⟩ := hdeeds.single_inv
      rw [fetch_result hlink] at hread
      cases hanswer : p.answer b.processes.responses.head? <;> rw [hanswer] at hread <;> cases hread
      exact ⟨rfl, rfl⟩
    | judged found verdict =>
      obtain ⟨⟨⟨⟩, c'⟩, ⟨hread, -⟩, hjudge⟩ := hdeeds.cons_inv
      obtain ⟨hjudge, hkept⟩ := hjudge.single_inv
      have hverdict := judge_eq_holds hjudge
      rw [fetch_result hlink] at hread
      cases hanswer : p.answer b.processes.responses.head? <;> rw [hanswer] at hread <;> cases hread
      exact ⟨by rw [hverdict]; rfl, hkept⟩
  have hrun := Polled.run (p.readRequest client) interval b
  cases hhit : one.hit with
  | true =>
    rw [one.course_of_hit interval hhit] at h
    obtain ⟨hone, rfl⟩ := hdeeds h
    exact ⟨hone, hrun⟩
  | false =>
    rw [one.course_of_miss interval hhit] at h
    obtain ⟨⟨⟨⟩, c⟩, hattempt, hsleep⟩ := h.append_inv
    obtain ⟨hone, rfl⟩ := hdeeds hattempt
    obtain ⟨⟨ended, hsleep⟩, -⟩ := hsleep.single_inv
    cases hsleep
    exact ⟨hone, hrun.trans (.sleep _ _ _)⟩

/-- **A row of attempts takes as many responses**, in their order. -/
theorem happens_course {attempts : List Attempt} (hlink : p.link = .system client) :
    ∀ {b : Bench}, Happens p.fetch (judge a) (course interval attempts) ((), b) ((), t) →
      Polled (p.readRequest client) interval attempts.length
          (slept (course interval attempts)).length b t ∧
        ∀ (i : Nat) (hi : i < attempts.length),
          attempts[i] = Attempt.ofAnswer a (p.answer b.processes.responses[i]?) := by
  induction attempts with
  | nil =>
    intro b h
    cases h
    exact ⟨.refl _, nofun⟩
  | cons one rest ih =>
    intro b h
    have hslept := (course_cons interval one rest).2.2.2
    rw [course, List.flatMap_cons] at h
    obtain ⟨⟨⟨⟩, c⟩, hfirst, hrest⟩ := h.append_inv
    obtain ⟨hone, hpolled⟩ := happens_attempt hlink hfirst
    obtain ⟨hpolled', hall⟩ := ih hrest
    refine ⟨?_, fun i hi => ?_⟩
    · have hcount : (one :: rest).length = 1 + rest.length := by
        rw [List.length_cons, Nat.add_comm]
      have hsleeps : (slept (course interval (one :: rest))).length
          = (if one.hit then 0 else 1) + (slept (course interval rest)).length := by
        rw [hslept, List.length_append]
        cases one.hit <;> rfl
      rw [hcount, hsleeps]
      exact hpolled.trans hpolled'
    · cases i with
      | zero => rw [← List.head?_eq_getElem?]; exact hone
      | succ i =>
        have hnext := hall i (Nat.lt_of_succ_lt_succ hi)
        rw [hpolled.responses, List.getElem?_drop, Nat.add_comm 1 i] at hnext
        exact hnext

/-! ## The assertion -/

/-- The response with this number, counted from 0, says something of the property that meets the
condition. -/
def Answers (responses : List (Except Failure ProcessOutput)) (condition : Assertion) (k : Nat)
    (found : Option Value) : Prop :=
  ∃ out, responses[k]? = some (.ok out) ∧ Busctl.Says out found ∧ condition.Met found

theorem Answers.unique {responses : List (Except Failure ProcessOutput)} {k : Nat}
    {found other : Option Value} (h : Answers responses a k found)
    (h' : Answers responses a k other) : found = other := by
  obtain ⟨out, hout, hsays, -⟩ := h
  obtain ⟨out', hout', hsays', -⟩ := h'
  obtain rfl : out = out' := Except.ok.inj (Option.some.inj (hout.symm.trans hout'))
  exact hsays.unique hsays'

theorem answer_eq_ok_iff {response : Option (Except Failure ProcessOutput)}
    {found : Option Value} :
    p.answer response = .ok found ↔ ∃ out, response = some (.ok out) ∧ Busctl.Says out found := by
  simp only [answer, Success.bind_eq_ok, received_eq_ok_iff, Busctl.propertyOf_eq_ok_iff]

/-- An attempt hits if and only if its response answers. -/
theorem hit_iff_answers {responses : List (Except Failure ProcessOutput)} {k : Nat} :
    (Attempt.ofAnswer a (p.answer responses[k]?)).hit = true
      ↔ ∃ found, Answers responses a k found := by
  rw [Attempt.hit_ofAnswer]
  refine exists_congr fun found => ?_
  rw [answer_eq_ok_iff, Answers]
  constructor
  · rintro ⟨⟨out, hout, hsays⟩, hmet⟩
    exact ⟨out, hout, hsays, hmet⟩
  · rintro ⟨out, hout, hsays, hmet⟩
    exact ⟨⟨out, hout, hsays⟩, hmet⟩

/-- Attempts that missed had responses that do not answer. -/
theorem not_answers_of_misses {responses : List (Except Failure ProcessOutput)}
    {misses attempts : List Attempt} (hsub : misses <+: attempts)
    (hmiss : ∀ one ∈ misses, one.hit = false)
    (hall : ∀ (i : Nat) (hi : i < attempts.length),
      attempts[i] = Attempt.ofAnswer a (p.answer responses[i]?))
    {k : Nat} (hk : k < misses.length) (found : Option Value) : ¬ Answers responses a k found := by
  intro hanswers
  have hk' : k < attempts.length := Nat.lt_of_lt_of_le hk hsub.length_le
  have hone := hall k hk'
  rw [← hsub.getElem hk] at hone
  have hhit : misses[k].hit = true := by
    rw [hone, hit_iff_answers]
    exact ⟨found, hanswers⟩
  rw [hmiss _ (List.getElem_mem hk)] at hhit
  cases hhit

/-- **An assertion ends with the first response that answers**, which the probe then holds, or
fails when all attempts are used up.  Either way one event is reported at the end. -/
theorem assert_polls (hlink : p.link = .system client) (a : Assertion) (b : Bench) :
    (∃ k found t e, k < p.timing.attempts p.timing.timeout ∧
        Answers b.processes.responses a k found ∧
        (∀ j < k, ∀ other, ¬ Answers b.processes.responses a j other) ∧
        Polled (p.readRequest client) p.timing.interval (k + 1) k b t ∧
        assert a (p, b) = (.done (), { p with last := found }, EventLog.note e t)) ∨
      ((∀ k < p.timing.attempts p.timing.timeout, ∀ found,
          ¬ Answers b.processes.responses a k found) ∧
        ∃ last t e, Polled (p.readRequest client) p.timing.interval
            (p.timing.attempts p.timing.timeout) (p.timing.attempts p.timing.timeout) b t ∧
          assert a (p, b) = (.failed (.assertion (a.complaint last)), { p with last },
            EventLog.note e t)) := by
  have steady := steady_on_bench hlink a p.timing.interval
  obtain ⟨misses, hit, ⟨⟩, t, hmiss, hhit, hle, hnone, h⟩ :=
    steady.exists_course (p.timing.attempts p.timing.timeout) () b
  obtain ⟨hpolled, hall⟩ := happens_course hlink h
  rw [course_slept p.timing.interval misses hit hmiss hhit, List.length_replicate] at hpolled
  have hmisses : ∀ k < misses.length, ∀ found, ¬ Answers b.processes.responses a k found :=
    fun k hk found => not_answers_of_misses (List.prefix_append _ _) hmiss hall hk found
  cases hit with
  | none =>
    have hcount := hnone rfl
    simp only [Option.toList, List.append_nil] at h hpolled
    obtain ⟨e, hnote⟩ := reportWait_notes (p.afterwards misses) p.timing.timeout
      (.exhausted (lastFailure none misses)) t
    have hwait := waitUntil_of_misses hmiss hcount h
    rw [hnote] at hwait
    rw [hcount] at hpolled hmisses
    exact .inr ⟨hmisses, _, t, e, hpolled, assert_of_wait hwait⟩
  | some one =>
    have hlast : misses.length < (misses ++ [one]).length := by simp
    have hone := hall misses.length hlast
    simp only [Option.toList, List.getElem_concat_length] at hone
    have hanswers := hit_iff_answers.1 (hone ▸ hhit one rfl)
    obtain ⟨found, hfound⟩ := hanswers
    obtain ⟨e, hnote⟩ := reportWait_notes (p.afterwards (misses ++ [one])) p.timing.timeout
      (.satisfied (misses.length + 1)) t
    have hwait := waitUntil_of_hit hmiss (hhit one rfl) hle h
    rw [hnote] at hwait
    have hassert := assert_of_wait hwait
    have hheld : (p.afterwards (misses ++ [one])) = { p with last := found } := by
      obtain ⟨out, hout, hsays, -⟩ := hfound
      have hanswer : p.answer b.processes.responses[misses.length]? = .ok found :=
        answer_eq_ok_iff.2 ⟨out, hout, hsays⟩
      rw [afterwards_append, hone, hanswer]
      rfl
    rw [hheld] at hassert
    have hcount : (misses ++ (some one).toList).length = misses.length + 1 := by simp
    rw [hcount] at hpolled
    exact .inl ⟨misses.length, found, t, e, hle, hfound, hmisses, hpolled, hassert⟩

end Probe

end BusTrial
