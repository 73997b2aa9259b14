import BusTrial.Bench
import BusTrial.Bus.Busctl
import BusTrial.Proofs.Recorder
import BusTrial.Proofs.Success
import Mathlib.Data.List.TakeWhile

/-!
# What `busctl` is asked, and what it says

A process that is run on a bench takes the next queued response, and so does a request to `busctl`.

* `run_result` — a run leaves the bench as `Bench.afterRun` says, whatever the response is;
* `callMethod_spawned` — a method call starts one process, whatever comes of it;
* `Busctl.Says` — what a run of `busctl` says of a property, said without its reader;
* `propertyOf_eq_ok_iff` — the reader finds just that.
-/

namespace BusTrial

/-! ## Running a process on a bench -/

/-- What a process comes to that this response is for, if there is one. -/
def received (response : Option (Except Failure ProcessOutput)) : Except Failure ProcessOutput :=
  response.getD (.error (.process "no fake response queued"))

theorem received_eq_ok_iff {response : Option (Except Failure ProcessOutput)}
    {out : ProcessOutput} : received response = .ok out ↔ response = some (.ok out) := by
  cases response <;> simp [received]

/-- The bench after a process was started and waited for. -/
def Bench.afterRun (request : Request) (b : Bench) : Bench :=
  { b with
    processes :=
      { b.processes with
        next := b.processes.next + 1
        spawned := b.processes.spawned.push request
        waits := b.processes.waits.push b.processes.next
        responses := b.processes.responses.tail } }

theorem run_result (request : Request) (b : Bench) :
    (Processes.run request : Act Bench ProcessOutput).result b
      = (.done (received b.processes.responses.head?), b.afterRun request) := by
  rcases b with ⟨_, _, ⟨_ | ⟨out | failure, rest⟩, _, _, _, _, _, _⟩, _, _, _, _⟩ <;> rfl

/-! ## What it is asked -/

namespace Busctl

variable (client : Busctl) (object : ObjectRef) (interface method : String)

/-- The requests that a bench was asked to start processes for. -/
abbrev spawned (b : Bench) : Array Request :=
  b.processes.spawned

/-- A call starts one process, whatever comes of it. -/
theorem callMethod_spawned (arguments : List Value) (b : Bench) :
    spawned (client.callMethod object interface method arguments b).2
      = (spawned b).push (client.callRequest object interface method arguments) := by
  have hreport : ∀ level kind members,
      Act.Keeps spawned (report level kind members : Act Bench Unit) :=
    fun _ _ _ _ => rfl
  have hrun : ∀ (r : Request) (c : Bench), spawned (Processes.run r c).2 = (spawned c).push r := by
    intro r c
    rw [← Act.result_snd, run_result]
    rfl
  let after : Outcome (List Value) × Bench → Array Request := fun x => spawned x.2
  rw [callMethod]
  refine (congrArg after (Act.bind_of_done rfl)).trans ?_
  -- all that follows the run leaves the requests as they are
  refine Eq.trans (Act.Moves.after_bind (r := fun s t => spawned t = spawned s) ?_ _) (hrun _ _)
  intro out
  split
  case' isTrue => refine (hreport _ _ _).bind fun _ => (Act.Moves.settle _).bind fun _ => ?_
  all_goals
    refine (Act.Moves.ofExcept _).bind ?_
    rintro (_ | reply)
    · exact Act.Moves.pure _
    · exact Act.Moves.ofExcept _

end Busctl

/-! ## What it says -/

namespace Text

/-- Nothing is left of a text after trimming if and only if it is blank. -/
theorem trimChars_eq_nil_iff {cs : List Char} : trimChars cs = [] ↔ ∀ c ∈ cs, isBlank c = true := by
  have hinner : trimChars cs = [] ↔ ∀ c ∈ cs.dropWhile isBlank, isBlank c = true := by
    simp [trimChars, List.dropWhile_eq_nil_iff]
  rw [hinner]
  constructor
  · intro hall
    rw [← List.dropWhile_eq_nil_iff]
    cases hrest : cs.dropWhile isBlank with
    | nil => rfl
    | cons c rest =>
      have hhead := List.head?_dropWhile_not isBlank cs
      rw [hrest] at hhead hall
      simp [hall c List.mem_cons_self] at hhead
  · intro hall c hc
    exact hall c ((List.dropWhile_sublist isBlank).subset hc)

end Text

namespace TypedReply

theorem read_eq_none_iff {printed : String} :
    read printed = .ok none ↔ Text.isBlankText printed = true := by
  have hblank : Text.isBlankText printed = true ↔ Text.trimChars printed.toList = [] := by
    rw [Text.trimChars_eq_nil_iff, Text.isBlankText, List.all_eq_true]
  rw [hblank, read]
  by_cases hempty : Text.trimChars printed.toList = []
  · simp [hempty]
  · simp only [List.isEmpty_iff, hempty, if_false, iff_false]
    split <;> simp

end TypedReply

namespace Busctl

/-- What a run of `busctl get-property` says of the property: that it is not there, in the errors of
a run that failed; or, in the output of one that did not, nothing at all or a value. -/
inductive Says : ProcessOutput → Option Value → Prop
  | absent {out : ProcessOutput} {marker : String} : out.exitCode ≠ 0 → marker ∈ absentMarkers →
    Text.contains out.errors marker = true → Says out none
  | nothing {out : ProcessOutput} : out.exitCode = 0 → Text.isBlankText out.output = true →
    Says out none
  | value {out : ProcessOutput} {reply : TypedReply} {v : Value} : out.exitCode = 0 →
    TypedReply.read out.output = .ok (some reply) → reply.value = .ok v → Says out (some v)

theorem propertyOf_eq_ok_iff {object : ObjectRef} {interface property : String}
    {out : ProcessOutput} {found : Option Value} :
    propertyOf object interface property out = .ok found ↔ Says out found := by
  by_cases hcode : out.exitCode = 0
  · simp only [propertyOf, hcode, ne_eq, not_true, if_false]
    constructor
    · intro h
      obtain ⟨reply, hread, h⟩ := Success.bind_eq_ok.1 h
      cases reply with
      | none =>
        cases h
        exact .nothing hcode (TypedReply.read_eq_none_iff.1 hread)
      | some reply =>
        obtain ⟨v, hvalue, h⟩ := Success.bind_eq_ok.1 h
        cases h
        exact .value hcode hread hvalue
    · intro h
      cases h with
      | absent hne => exact absurd hcode hne
      | nothing _ hblank =>
        rw [TypedReply.read_eq_none_iff.2 hblank]
        rfl
      | value _ hread hvalue =>
        refine Success.bind_eq_ok.2 ⟨_, hread, ?_⟩
        exact Success.bind_eq_ok.2 ⟨_, hvalue, rfl⟩
  · have habsent : saysAbsent out.errors = true
        ↔ ∃ marker ∈ absentMarkers, Text.contains out.errors marker = true := by
      rw [saysAbsent, List.any_eq_true]
    simp only [propertyOf, hcode, ne_eq, not_false_eq_true, if_true]
    constructor
    · intro h
      split at h
      · next hsays =>
        cases h
        obtain ⟨marker, hmem, hcontains⟩ := habsent.1 hsays
        exact .absent hcode hmem hcontains
      · cases h
    · intro h
      cases h with
      | absent _ hmem hcontains => rw [if_pos (habsent.2 ⟨_, hmem, hcontains⟩)]
      | nothing hzero => exact absurd hzero hcode
      | value hzero => exact absurd hzero hcode

/-- A run says one thing only. -/
theorem Says.unique {out : ProcessOutput} {found other : Option Value} (h : Says out found)
    (h' : Says out other) : found = other := by
  -- both are what is read from the run, whatever the property is called
  have hread : ∀ x, Says out x → propertyOf ⟨"", ""⟩ "" "" out = .ok x :=
    fun _ => propertyOf_eq_ok_iff.2
  exact Except.ok.inj ((hread found h).symm.trans (hread other h'))

end Busctl

end BusTrial
