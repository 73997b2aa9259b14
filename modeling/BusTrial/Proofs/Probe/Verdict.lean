import BusTrial.Probe.Assertion
import BusTrial.Proofs.Probe.Waiting
import BusTrial.Proofs.Success

/-!
# What the verdict of an assertion rests on

`Probe.assert` waits for `Assertion.holds` and, when the wait is in vain, writes `complaint` about
whatever the probe holds by then.  The two are separate functions of a read, and nothing in their
definitions makes them speak of the same one; that they do is shown here.

* `Assertion.Met` — what an expectation asks of a read, said without `holds` and its failures;
* `holds_iff_met` — a read is judged to hold exactly when it meets the expectation;
* `assert_of_wait` — an assertion ends as its wait does;
* **`assert_truthful`** — a verdict is about the value that the probe is left with: a good one about
  the read that ended the wait, a bad one about the last read that succeeded.

The deeds of the wait are those of `Proofs.Probe.Waiting`.  What carries the argument is that a
condition without a state is judged alike whenever it is asked (`judge_eq_holds`), so the verdict that
a read got on the way is the one it deserves.
-/

namespace BusTrial

namespace Assertion

/-! ## What an expectation asks -/

/-- The read meets the expectation. -/
def Met (a : Assertion) (found : Option Value) : Prop :=
  match a with
  | .equal expected accessor =>
    ∃ value part, found = some value ∧ accessor value = .ok part ∧ part.looseEq expected = true
  | .near expected delta accessor =>
    ∃ value part x, found = some value ∧ accessor value = .ok part ∧ part.number? = some x ∧
      (x - expected).abs ≤ delta
  | .greater bound => ∃ value, found = some value ∧ value.compare bound = .ok .gt
  | .less bound => ∃ value, found = some value ∧ value.compare bound = .ok .lt
  | .oneOf candidates =>
    ∃ value, found = some value ∧ ∃ candidate ∈ candidates, candidate.looseEq value = true
  | .noneOf candidates =>
    ∀ value, found = some value → ∀ candidate ∈ candidates, candidate.looseEq value = false
  | .truthy => ∃ value, found = some value ∧ value.isTruthy = true
  | .falsy => ∀ value, found = some value → value.isTruthy = false
  | .absent => found = none
  | .present => ∃ value, found = some value
  | .size expected => ∃ value, found = some value ∧ value.size? = some expected

/-- A value that must be there is there. -/
theorem presentValue_eq_ok {found : Option Value} {value : Value} :
    presentValue found = .ok value ↔ found = some value := by
  cases found <;> simp [presentValue]

/-- Values are ordered as they are compared. -/
theorem orderOf_eq_ok {value bound : Value} {order : Ordering} :
    orderOf value bound = .ok order ↔ value.compare bound = .ok order := by
  rw [orderOf, Success.mapError_eq_ok]

/-- A value is among candidates if one of them is loosely equal to it. -/
theorem among_eq_true {candidates : List Value} {value : Value} :
    among candidates value = true ↔ ∃ candidate ∈ candidates, candidate.looseEq value = true := by
  rw [among, List.any_eq_true]

/-- A value is not among candidates if none of them is loosely equal to it. -/
theorem among_eq_false {candidates : List Value} {value : Value} :
    among candidates value = false ↔ ∀ candidate ∈ candidates, candidate.looseEq value = false := by
  rw [among, List.any_eq_false]
  simp only [Bool.not_eq_true]

/-- Unequal values are reported by the part that was compared, if the accessor picks one. -/
theorem complaint_equal (expected value : Value) (accessor : Accessor) :
    (equal expected accessor).complaint (some value)
      = ((accessor value).toOption.getD value).display ++ " != " ++ expected.display := by
  cases h : accessor value <;>
    simp [complaint, seen, h, Except.toOption, Value.displayOption]

/-- A read is judged to hold exactly when it meets the expectation. -/
theorem holds_iff_met (a : Assertion) (found : Option Value) :
    a.holds found = .ok true ↔ a.Met found := by
  cases a with
  | equal expected accessor =>
      simp only [holds, Met, Success.bind_eq_ok, Success.pure_eq_ok, presentValue_eq_ok]
      constructor
      · rintro ⟨value, hvalue, part, hpart, h⟩
        exact ⟨value, part, hvalue, hpart, h⟩
      · rintro ⟨value, part, hvalue, hpart, h⟩
        exact ⟨value, hvalue, part, hpart, h⟩
  | near expected delta accessor =>
      simp only [holds, Met, Success.bind_eq_ok, presentValue_eq_ok]
      constructor
      · rintro ⟨value, hvalue, part, hpart, h⟩
        cases hx : part.number? with
        | none => simp [hx] at h
        | some x => exact ⟨value, part, x, hvalue, hpart, hx, by simpa [hx] using h⟩
      · rintro ⟨value, part, x, hvalue, hpart, hx, h⟩
        exact ⟨value, hvalue, part, hpart, by simpa [hx] using h⟩
  | greater bound =>
      simp only [holds, Met, Success.bind_eq_ok, Success.pure_eq_ok, presentValue_eq_ok,
        orderOf_eq_ok, beq_iff_eq, exists_eq_right]
  | less bound =>
      simp only [holds, Met, Success.bind_eq_ok, Success.pure_eq_ok, presentValue_eq_ok,
        orderOf_eq_ok, beq_iff_eq, exists_eq_right]
  | oneOf candidates =>
      simp only [holds, Met, Success.bind_eq_ok, Success.pure_eq_ok, presentValue_eq_ok,
        among_eq_true]
  | noneOf candidates => cases found <;> simp [holds, Met, among_eq_false]
  | truthy => cases found <;> simp [holds, Met]
  | falsy => cases found <;> simp [holds, Met]
  | absent => cases found <;> simp [holds, Met]
  | present => cases found <;> simp [holds, Met]
  | size expected =>
      simp only [holds, Met, Success.bind_eq_ok, presentValue_eq_ok]
      refine exists_congr fun value => and_congr_right fun _ => ?_
      cases value.size? <;> simp

end Assertion

namespace Probe

variable {σ : Type} [Clock σ]

/-! ## How reads were judged -/

/-- The condition that an assertion waits for. -/
def judge (a : Assertion) (found : Option Value) : Act Unit Bool :=
  .ofExcept (a.holds found)

/-- Judging says what the assertion holds of the value. -/
theorem judge_result (a : Assertion) (found : Option Value) (x : Unit) :
    (judge a found).result x = (.done (a.holds found), x) := by
  rw [judge]
  cases a.holds found <;> rfl

/-- Judging may fail, but it does not crash. -/
theorem judge_neverCrashes (a : Assertion) (found : Option Value) :
    (judge a found).NeverCrashes := by
  intro x crash
  rw [judge]
  cases a.holds found <;> nofun

/-- A verdict is what the assertion holds of the value. -/
theorem judge_eq_holds {a : Assertion} {found : Option Value} {verdict : Except Failure Bool}
    {x y : Unit} (h : (judge a found).result x = (.done verdict, y)) :
    verdict = a.holds found := by
  rw [judge_result] at h
  cases h
  rfl

/-- A deed that is among some that happen happens. -/
theorem Happens.of_mem {π : Type} {fetch : Act σ (Option Value)}
    {condition : Option Value → Act π Bool} {deeds : List Deed} {x z : π × σ}
    (h : Happens fetch condition deeds x z) {d : Deed} (hd : d ∈ deeds) :
    ∃ y y', d.Happens fetch condition y y' := by
  obtain ⟨before, after, rfl⟩ := List.append_of_mem hd
  obtain ⟨y, -, h⟩ := h.append_inv
  obtain ⟨y', hdeed, -⟩ := h.cons_inv
  exact ⟨y, y', hdeed⟩

/-- An attempt that judged a value has the judgement among its deeds. -/
theorem mem_course_of_judged {interval : Duration} {attempts : List Attempt}
    {found : Option Value} {verdict : Except Failure Bool}
    (h : .judged found verdict ∈ attempts) : .judge found verdict ∈ course interval attempts := by
  refine List.mem_flatMap.2 ⟨_, h, ?_⟩
  rw [Attempt.course]
  split <;> simp [Attempt.deeds]

/-- Every read that was judged on the way got the verdict that it deserves. -/
theorem verdict_eq_holds {a : Assertion} {fetch : Act σ (Option Value)} {interval : Duration}
    {attempts : List Attempt} {x z : Unit × σ}
    (h : Happens fetch (judge a) (course interval attempts) x z) {found : Option Value}
    {verdict : Except Failure Bool} (hmem : .judged found verdict ∈ attempts) :
    verdict = a.holds found := by
  obtain ⟨y, y', hdeed⟩ := h.of_mem (mem_course_of_judged hmem)
  exact judge_eq_holds hdeed.1

/-- What was read by an attempt that missed does not meet the expectation. -/
theorem not_met_of_misses {a : Assertion} {fetch : Act σ (Option Value)} {interval : Duration}
    {attempts misses : List Attempt} {x z : Unit × σ}
    (h : Happens fetch (judge a) (course interval attempts) x z)
    (hsub : ∀ b ∈ misses, b ∈ attempts) (hmiss : ∀ b ∈ misses, b.hit = false)
    {found : Option Value} (hfound : found ∈ misses.filterMap Attempt.found?) : ¬ a.Met found := by
  obtain ⟨b, hb, hbfound⟩ := List.mem_filterMap.1 hfound
  cases b with
  | unread failure => cases hbfound
  | judged found' verdict =>
      cases hbfound
      have hverdict := verdict_eq_holds h (hsub _ hb)
      have hno := hmiss _ hb
      rw [← Assertion.holds_iff_met, ← hverdict]
      rintro rfl
      cases hno

/-- The attempt that a wait ends with read something that meets the expectation. -/
theorem met_of_hit {a : Assertion} {fetch : Act σ (Option Value)} {interval : Duration}
    {attempts : List Attempt} {x z : Unit × σ}
    (h : Happens fetch (judge a) (course interval attempts) x z) {b : Attempt} (hb : b ∈ attempts)
    (hhit : b.hit = true) : ∃ found, b = .judged found (.ok true) ∧ a.Met found := by
  have hverdict := Attempt.verdict_of_hit hhit
  cases b with
  | unread failure => cases hverdict
  | judged found verdict =>
      obtain rfl : verdict = .ok true := hverdict
      exact ⟨found, rfl, (a.holds_iff_met found).1 (verdict_eq_holds h hb).symm⟩

/-! ## How an assertion ends -/

variable [Bus σ] [Processes σ] [EventLog σ]

/-- An assertion ends as its wait does, and speaks of what the probe holds then. -/
theorem assert_of_wait {a : Assertion} {p q : Probe} {s t : σ} {met : Bool}
    (h : waitUntil p.timing.timeout (judge a) ((), p, s) = (.done met, (), q, t)) :
    assert a (p, s)
      = (if met then .done () else .failed (.assertion (a.complaint q.last)), q, t) := by
  rw [assert]
  refine (Act.bind_of_done rfl).trans ?_
  refine (Act.bind_of_done (Act.within_of h)).trans ?_
  refine (Act.bind_of_done rfl).trans ?_
  cases met <;> rfl

/-- The deeds end with the first read that meets the expectation, and it found `last`. -/
structure Confirmed (a : Assertion) (last : Option Value) (deeds : List Deed) : Prop where
  met : a.Met last
  ends : ∃ earlier, deeds = earlier ++ [.read (.ok last), .judge last (.ok true)] ∧
    ∀ found ∈ values earlier, ¬ a.Met found

/-- No read met the expectation, and `text` says so of `last`: what the last read that succeeded
found, or what was there before if none did. -/
structure Refuted (a : Assertion) (before last : Option Value) (deeds : List Deed)
    (text : String) : Prop where
  missed : ∀ found ∈ values deeds, ¬ a.Met found
  newest : ∀ found, (values deeds).getLast? = some found → last = found ∧ ¬ a.Met last
  kept : values deeds = [] → last = before
  complains : text = a.complaint last
  /-- Equality is reported by the part that was compared, if the accessor picks one. -/
  projects : ∀ expected accessor value, a = .equal expected accessor → last = some value →
    text = ((accessor value).toOption.getD value).display ++ " != " ++ expected.display

section

variable {a : Assertion} {p : Probe} {s t : σ} {misses : List Attempt}

omit [Bus σ] [Processes σ] [EventLog σ] in
/-- If all attempts missed, what was read refutes the assertion. -/
theorem refuted_of_misses {fetch : Act σ (Option Value)}
    (hmiss : ∀ b ∈ misses, b.hit = false)
    (h : Happens fetch (judge a) (course p.timing.interval misses) ((), s) ((), t)) :
    Refuted a p.last (p.afterwards misses).last (course p.timing.interval misses)
      (a.complaint (p.afterwards misses).last) := by
  have hlast := afterwards_eq p misses
  have hmissed : ∀ found ∈ values (course p.timing.interval misses), ¬ a.Met found := by
    intro found hfound
    rw [course_values] at hfound
    exact not_met_of_misses h (fun _ hb => hb) hmiss hfound
  refine ⟨hmissed, ?_, ?_, rfl, ?_⟩
  · intro found hfound
    have heq : (p.afterwards misses).last = found := by
      rw [hlast, hfound]
      rfl
    exact ⟨heq, heq ▸ hmissed found (List.mem_of_getLast? hfound)⟩
  · intro hempty
    rw [hlast, hempty]
    rfl
  · rintro expected accessor value rfl hvalue
    rw [hvalue, Assertion.complaint_equal]

omit [Bus σ] [Processes σ] [EventLog σ] in
/-- If the last attempt hit, what was read confirms it. -/
theorem confirmed_of_hit {fetch : Act σ (Option Value)} {b : Attempt}
    (hmiss : ∀ b ∈ misses, b.hit = false) (hhit : b.hit = true)
    (h : Happens fetch (judge a) (course p.timing.interval (misses ++ [b])) ((), s) ((), t)) :
    Confirmed a (p.afterwards (misses ++ [b])).last (course p.timing.interval (misses ++ [b])) := by
  obtain ⟨found, rfl, hmet⟩ :=
    met_of_hit h (List.mem_append_right misses (List.mem_singleton_self b)) hhit
  have hlast : (p.afterwards (misses ++ [.judged found (.ok true)])).last = found := by
    rw [afterwards_append]
    rfl
  rw [hlast]
  refine ⟨hmet, course p.timing.interval misses, ?_, ?_⟩
  · rw [course, List.flatMap_append, List.flatMap_singleton, Attempt.course_of_hit _ hhit]
    rfl
  · intro earlier hearlier
    rw [course_values] at hearlier
    exact not_met_of_misses h (fun _ hb => List.mem_append_left _ hb) hmiss hearlier

/-- **A verdict is about the value that the probe is left with.**  An assertion ends well or fails as
an assertion.  If it ends well, the probe holds what the read that ended the wait found, and that
meets the expectation.  If it fails, no read met the expectation in all the attempts that there was
time for, and the complaint is about what the probe holds. -/
theorem assert_truthful (a : Assertion) (p : Probe) (s : σ)
    (fetch : (p.fetch : Act σ _).NeverCrashes)
    (sleep : (Clock.sleep p.timing.interval : Act σ Unit).NeverCrashes) :
    ∃ (deeds : List Deed) (last : Option Value) (ended : Outcome Unit) (t : σ) (e : LogEvent),
      Happens p.fetch (judge a) deeds ((), s) ((), t) ∧
        assert a (p, s) = (ended, { p with last := last }, EventLog.note e t) ∧
        ((ended = .done () ∧ (reads deeds).length ≤ p.timing.attempts p.timing.timeout ∧
            Confirmed a last deeds) ∨
          ∃ text, ended = .failed (.assertion text) ∧
            (reads deeds).length = p.timing.attempts p.timing.timeout ∧
            Refuted a p.last last deeds text) := by
  have steady : Steady (p.fetch : Act σ _) (judge a) p.timing.interval :=
    ⟨fetch, judge_neverCrashes a, sleep⟩
  obtain ⟨misses, hit, ⟨⟩, t, hmiss, hhit, hle, hnone, h⟩ :=
    steady.exists_course (p.timing.attempts p.timing.timeout) () s
  cases hit with
  | none =>
      simp only [Option.toList, List.append_nil] at h
      have hwait := waitUntil_of_misses hmiss (hnone rfl) h
      obtain ⟨e, hnote⟩ := reportWait_notes (p.afterwards misses) p.timing.timeout
        (.exhausted (lastFailure none misses)) t
      rw [hnote] at hwait
      exact ⟨_, _, _, t, e, h, assert_of_wait hwait,
        .inr ⟨_, rfl, by rw [course_reads, hnone rfl], refuted_of_misses hmiss h⟩⟩
  | some b =>
      have hb := hhit b rfl
      have hwait := waitUntil_of_hit hmiss hb hle h
      obtain ⟨e, hnote⟩ := reportWait_notes (p.afterwards (misses ++ [b])) p.timing.timeout
        (.satisfied (misses.length + 1)) t
      rw [hnote] at hwait
      refine ⟨_, _, _, t, e, h, assert_of_wait hwait, .inl ⟨rfl, ?_, confirmed_of_hit hmiss hb h⟩⟩
      rw [Option.toList, course_reads, List.length_append]
      exact hle

end

/-! ### An assertion that fails

The property settles to a truth value, which has no size.  In the time for three attempts the first
read fails, the second one finds nothing, and the complaint is about what the third one finds.
-/

/-- A probe of the property that settles, with time for three attempts. -/
def hastyProbe : Probe :=
  { settlingProbe with timing := { timeout := .ofMillis 1500 } }

/-- A truth value has no length: the assertion fails with that complaint after three reads. -/
theorem assert_truthful_hasty :
    ∃ (deeds : List Deed) (y : Unit × Bench),
      Happens hastyProbe.fetch (judge (.size 3)) deeds ((), settlingBench) y ∧
        (reads deeds).length = 3 ∧
        (assert (.size 3) (hastyProbe, settlingBench)).1
          = .failed (.assertion "boolean has no length") ∧
        Refuted (.size 3) none (some (.bool true)) deeds "boolean has no length" := by
  obtain ⟨deeds, last, ended, t, e, h, hassert, hends⟩ :=
    assert_truthful (.size 3) hastyProbe settlingBench settlingProbe_steady.fetch
      settlingProbe_steady.sleep
  have hfailed : (assert (.size 3) (hastyProbe, settlingBench)).1
      = .failed (.assertion "boolean has no length") := rfl
  have hlast : (assert (.size 3) (hastyProbe, settlingBench)).2.1.last
      = some (.bool true) := rfl
  rw [hassert] at hfailed hlast
  obtain rfl : last = some (.bool true) := hlast
  rcases hends with ⟨rfl, -, -⟩ | ⟨text, rfl, hcount, hrefuted⟩
  · cases hfailed
  · cases hfailed
    exact ⟨deeds, _, h, hcount, by rw [hassert], hrefuted⟩

end Probe

end BusTrial
