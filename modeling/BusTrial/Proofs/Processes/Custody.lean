import BusTrial.Proofs.Processes.Turns
import Mathlib.Data.List.Nodup

/-!
# What a command recorder does to its processes

Whatever a recorder is asked, it waits for a process or kills it once at most, and only after asking
it to end.

The handle of the recorder and its flag are set at different moments, some before a call and some
after it.  `Orderly` ties the two to the calls so far: the process in the hand of the recorder is
one that was started and not yet parted from, and a flag that is set stands for a process that was
asked.  A turn keeps it, by the cases of `Goes` (`Orderly.step`), and a sequence of turns does by
induction (`Orderly.run`).  That handles do not come twice is asked of the processes
(`Processes.Fresh`), and the row of calls has it from there (`turns_issue`).

* `Safe` — what holds of all the turns of a recorder;
* **`any_order_is_safe`** — it holds of every sequence of requests.
-/

namespace BusTrial

/-! ## What may be called when -/

namespace ProcessCall

/-- The handle that the call has given out. -/
def issued? : ProcessCall → Option Handle
  | spawn _ (.done handle) => some handle
  | _ => none

/-- The handle of the process that is waited for or killed. -/
def parted? : ProcessCall → Option Handle
  | wait handle _ => some handle
  | kill handle _ => some handle
  | _ => none

/-- What has to come before a call: a process is waited for only after it was asked to end, and
killed only because it could not be asked just now. -/
def Permitted (past : List ProcessCall) : ProcessCall → Prop
  | wait handle _ => terminate handle (.done ()) ∈ past
  | kill handle _ => ∃ earlier failure, past = earlier ++ [terminate handle (.failed failure)]
  | _ => True

end ProcessCall

/-- The handles that were given out. -/
abbrev issued (calls : List ProcessCall) : List Handle :=
  calls.filterMap ProcessCall.issued?

/-- The handles of the processes that were waited for or killed. -/
abbrev parted (calls : List ProcessCall) : List Handle :=
  calls.filterMap ProcessCall.parted?

/-- A call that starts nothing adds no handle. -/
theorem issued_append_of_none {past : List ProcessCall} {call : ProcessCall}
    (h : call.issued? = none) : issued (past ++ [call]) = issued past := by
  simp only [List.filterMap_append, List.filterMap_cons, h, List.filterMap_nil, List.append_nil]

/-- A call that parts from nothing adds none to those that were parted from. -/
theorem parted_append_of_none {past : List ProcessCall} {call : ProcessCall}
    (h : call.parted? = none) : parted (past ++ [call]) = parted past := by
  simp only [List.filterMap_append, List.filterMap_cons, h, List.filterMap_nil, List.append_nil]

namespace CommandRecorder

/-! ## The recorder and the calls so far -/

/-- Every call so far was permitted when it was made. -/
def Lawful (calls : List ProcessCall) : Prop :=
  ∀ past call later, calls = past ++ call :: later → call.Permitted past

/-- One more call is lawful if it is permitted after the others. -/
theorem Lawful.snoc {calls : List ProcessCall} {call : ProcessCall} (h : Lawful calls)
    (hcall : call.Permitted calls) : Lawful (calls ++ [call]) := by
  intro past call' later heq
  rcases later.eq_nil_or_concat with rfl | ⟨later, last, rfl⟩
  · obtain ⟨rfl, hlast⟩ := List.append_inj' heq rfl
    cases hlast
    exact hcall
  · rw [List.concat_eq_append, ← List.cons_append, ← List.append_assoc] at heq
    exact h past call' later (List.append_inj' heq rfl).1

/-- **The calls so far and the recorder they have led to.** -/
structure Orderly (past : List ProcessCall) (r : CommandRecorder) : Prop where
  once : (parted past).Nodup
  lawful : Lawful past
  known : ∀ h ∈ parted past, h ∈ issued past
  held : ∀ h, r.handle = some h → h ∈ issued past ∧ h ∉ parted past
  asked : ∀ h, r.handle = some h → r.terminated = true → .terminate h (.done ()) ∈ past

namespace Orderly

variable {past : List ProcessCall} {r r' : CommandRecorder}

/-- Before any call, a recorder without a process is in order. -/
theorem unborn (hnone : r.handle = none) : Orderly [] r where
  once := List.nodup_nil
  lawful := by
    intro past call later heq
    simp at heq
  known := by simp
  held := by simp [hnone]
  asked := by simp [hnone]

/-- A call that gives out no handle and parts from none. -/
theorem quiet {call : ProcessCall} (h : Orderly past r) (hissued : call.issued? = none)
    (hparted : call.parted? = none) (hpermitted : call.Permitted past) :
    Orderly (past ++ [call]) r := by
  constructor
  · rw [parted_append_of_none hparted]
    exact h.once
  · exact h.lawful.snoc hpermitted
  · rw [issued_append_of_none hissued, parted_append_of_none hparted]
    exact h.known
  · rw [issued_append_of_none hissued, parted_append_of_none hparted]
    exact h.held
  · exact fun handle hheld hflag => List.mem_append_left _ (h.asked handle hheld hflag)

/-- A call that parts from the process of the recorder, which forgets it. -/
theorem part {call : ProcessCall} {h : Handle} (horderly : Orderly past r)
    (hheld : r.handle = some h) (hissued : call.issued? = none) (hparted : call.parted? = some h)
    (hpermitted : call.Permitted past) : Orderly (past ++ [call]) { r with handle := none } := by
  have hparted' : parted (past ++ [call]) = parted past ++ [h] := by
    simp only [List.filterMap_append, List.filterMap_cons, hparted, List.filterMap_nil]
  obtain ⟨hknown, hnew⟩ := horderly.held h hheld
  constructor
  · rw [hparted', ← List.concat_eq_append, List.nodup_concat]
    exact ⟨hnew, horderly.once⟩
  · exact horderly.lawful.snoc hpermitted
  · rw [issued_append_of_none hissued, hparted']
    intro handle hmem
    rcases List.mem_append.mp hmem with hmem | hmem
    · exact horderly.known handle hmem
    · rwa [List.mem_singleton.mp hmem]
  · simp
  · simp

/-- **A turn keeps it.** -/
theorem step {turn : Turn} (h : Orderly past r) (hgoes : Goes r turn r')
    (fresh : (issued (past ++ turn.calls)).Nodup) : Orderly (past ++ turn.calls) r' := by
  cases hgoes with
  | noCommand | nothingToStop | nothingToSave => simpa using h
  | unstarted request abrupt =>
    exact h.quiet (by rcases abrupt with ⟨⟨⟩⟩ | failure | crash <;> rfl) rfl trivial
  | started request handle =>
    have hissued : issued (past ++ [.spawn request (.done handle)]) = issued past ++ [handle] := by
      rw [issued, List.filterMap_append]
      rfl
    have hparted : parted (past ++ [.spawn request (.done handle)]) = parted past :=
      parted_append_of_none rfl
    have hnew : handle ∉ issued past := by
      rw [hissued, ← List.concat_eq_append, List.nodup_concat] at fresh
      exact fresh.1
    constructor
    · rw [hparted]
      exact h.once
    · exact h.lawful.snoc trivial
    · rw [hissued, hparted]
      exact fun known hmem => List.mem_append_left _ (h.known known hmem)
    · rw [hissued, hparted]
      rintro _ ⟨⟩
      exact ⟨List.mem_append_right _ List.mem_cons_self, fun hmem => hnew (h.known _ hmem)⟩
    · nofun
  | asked handle store hheld =>
    have hquiet : Orderly (past ++ [.terminate handle (.done ())]) r := h.quiet rfl rfl trivial
    refine { hquiet with held := hquiet.held, asked := fun other hother _ => ?_ }
    obtain rfl : handle = other := Option.some.inj (hheld.symm.trans hother)
    exact List.mem_append_right _ List.mem_cons_self
  | killed handle failure ended killed store hheld =>
    have hquiet : Orderly (past ++ [.terminate handle (.failed failure)]) r :=
      h.quiet rfl rfl trivial
    have hkilled : Orderly (past ++ [.terminate handle (.failed failure)] ++ [.kill handle killed])
        { r with handle := none } :=
      hquiet.part hheld rfl rfl ⟨past, failure, rfl⟩
    rwa [List.append_assoc] at hkilled
  | interrupted handle crash store hheld => exact h.quiet rfl rfl trivial
  | saved handle out store hheld hflag =>
    exact h.part hheld rfl rfl (h.asked handle hheld hflag)
  | lost handle abrupt store hheld hflag =>
    exact h.part hheld rfl rfl (h.asked handle hheld hflag)

/-- **And so does a sequence of turns.** -/
theorem run {past : List ProcessCall} {r r' : CommandRecorder} {made : List Turn}
    (h : Orderly past r) (hmade : Follows r made r')
    (fresh : (issued (past ++ made.flatMap Turn.calls)).Nodup) :
    Orderly (past ++ made.flatMap Turn.calls) r' := by
  induction hmade generalizing past with
  | nil => simpa using h
  | @cons r r' r'' turn rest hgoes hrest ih =>
    rw [List.flatMap_cons, ← List.append_assoc] at fresh ⊢
    have hfirst : (issued (past ++ turn.calls)).Nodup := by
      rw [issued, List.filterMap_append] at fresh
      exact (List.nodup_append.mp fresh).1
    exact ih (h.step hgoes hfirst) fresh

end Orderly

/-! ## A recorder without a process -/

namespace Turn

/-- A process was started. -/
def Starts (turn : Turn) : Prop :=
  turn.operation = .start ∧ turn.ended = .done ()

/-- The turn has come to waiting for its process, or could not ask it to end. -/
def Spends (turn : Turn) : Prop :=
  (∃ handle ended, .wait handle ended ∈ turn.calls) ∨
    ∃ handle failure, .terminate handle (.failed failure) ∈ turn.calls

/-- The turn was refused before anything was done. -/
def Refused (turn : Turn) : Prop :=
  (∃ failure, turn.ended = .failed failure) ∧ turn.calls = [] ∧ turn.after = turn.before

end Turn

section

variable {r r' : CommandRecorder} {turn : Turn}

/-- A turn that spends the process leaves the recorder without one. -/
theorem Goes.spent (h : Goes r turn r') (hspends : turn.Spends) : r'.handle = none := by
  cases h <;> simp_all [Turn.Spends]

/-- Only a start gives the recorder a process. -/
theorem Goes.unheld (h : Goes r turn r') (hnone : r.handle = none) (hquiet : ¬ turn.Starts) :
    r'.handle = none := by
  cases h <;> simp_all [Turn.Starts]

/-- Without a process all that can be asked for is a start. -/
theorem Goes.refused (h : Goes r turn r') (hnone : r.handle = none)
    (hoperation : turn.operation ≠ .start) : turn.Refused := by
  cases h <;> simp_all [Turn.Refused]

/-- A save that went well has waited for the process and added its block. -/
theorem Goes.block_saved (h : Goes r turn r') (hoperation : turn.operation = .save)
    (hended : turn.ended = .done ()) : ∃ handle out, turn.calls = [.wait handle (.done out)] ∧
      turn.after = turn.before.append (r.block out.output) := by
  cases h with
  | saved handle out store => exact ⟨handle, out, rfl, rfl⟩
  | lost handle abrupt => rcases abrupt with ⟨⟨⟩⟩ | failure | crash <;> cases hended
  | nothingToSave failure => cases hended
  | _ => cases hoperation

/-- No other turn touches the store. -/
theorem Goes.store_kept (h : Goes r turn r')
    (hended : turn.ended ≠ .done () ∨ turn.operation ≠ .save) : turn.after = turn.before := by
  cases h with
  | saved => simp at hended
  | _ => rfl

/-- Without a start the recorder stays without a process. -/
theorem Follows.unheld {made : List Turn} (h : Follows r made r') (hnone : r.handle = none)
    (hquiet : ∀ turn ∈ made, ¬ turn.Starts) : r'.handle = none := by
  induction h with
  | nil => exact hnone
  | cons hgoes _ ih =>
    exact ih (hgoes.unheld hnone (hquiet _ List.mem_cons_self))
      fun turn hmem => hquiet turn (List.mem_cons_of_mem _ hmem)

end

end CommandRecorder

/-! ## Fresh handles -/

/-- **The processes give out fresh handles**: one that is taken is not given out again, whatever
happens.  `taken` says which are taken. -/
structure Processes.Fresh {σ : Type} [Processes σ] [EventLog σ] (taken : σ → Handle → Prop) :
    Prop where
  new : ∀ {request s h t}, (Processes.spawn request : Act σ Handle) s = (.done h, t) →
    ¬ taken s h ∧ taken t h
  stays : Processes.Move fun s t => taken s ≤ taken t
  note : ∀ e s, taken s ≤ taken (EventLog.note e s)

namespace ScriptedProcesses

/-- Waiting hands out no handle. -/
theorem wait_next (h : Handle) (p : ScriptedProcesses) : (wait h p).2.next = p.next := by
  obtain ⟨responses, failure, next, spawned, waits, kills, terminates⟩ := p
  rcases responses with _ | ⟨_ | _, rest⟩ <;> rfl

/-- Asking a process to end hands out no handle. -/
theorem terminate_next (h : Handle) (p : ScriptedProcesses) : (terminate h p).2.next = p.next := by
  obtain ⟨responses, failure, next, spawned, waits, kills, terminates⟩ := p
  rcases failure with _ | failure <;> rfl

end ScriptedProcesses

/-- A bench counts its handles. -/
theorem Bench.processes_fresh : Processes.Fresh fun (b : Bench) h => h < b.processes.next where
  new := by
    rintro request b h t hspawn
    obtain ⟨hended, rfl⟩ := Prod.mk.inj hspawn
    cases hended
    exact ⟨lt_irrefl _, Nat.lt_succ_self _⟩
  stays := {
    spawn := fun request b h hlt => Nat.lt_succ_of_lt hlt
    wait := fun handle b h hlt =>
      hlt.trans_eq (ScriptedProcesses.wait_next handle b.processes).symm
    kill := fun handle b h hlt => hlt
    terminate := fun handle b h hlt =>
      hlt.trans_eq (ScriptedProcesses.terminate_next handle b.processes).symm }
  note _ _ := le_rfl

namespace Traced

variable {σ : Type}

/-- The handles that were given out were free before, are taken now and differ. -/
structure IssuedFresh (taken : σ → Handle → Prop) (new : List ProcessCall) (s t : σ) : Prop where
  nodup : (issued new).Nodup
  free : ∀ h ∈ issued new, ¬ taken s h
  used : ∀ h ∈ issued new, taken t h
  stays : taken s ≤ taken t

variable {taken : σ → Handle → Prop}

/-- Calls that start nothing give out no handle that was taken. -/
theorem IssuedFresh.none {new : List ProcessCall} {s t : σ} (hnone : issued new = [])
    (stays : taken s ≤ taken t) : IssuedFresh taken new s t := by
  constructor <;> simp [hnone, stays]

/-- Fresh handles stay fresh in a longer row of calls, since what was given out is taken from then
on. -/
theorem IssuedFresh.trans {new more : List ProcessCall} {s t u : σ}
    (h : IssuedFresh taken new s t) (h' : IssuedFresh taken more t u) :
    IssuedFresh taken (new ++ more) s u where
  nodup := by
    rw [issued, List.filterMap_append, List.nodup_append]
    refine ⟨h.nodup, h'.nodup, ?_⟩
    rintro handle hnew _ hmore rfl
    exact h'.free handle hmore (h.used handle hnew)
  free := by
    intro handle hmem
    rw [issued, List.filterMap_append, List.mem_append] at hmem
    rcases hmem with hnew | hmore
    · exact h.free handle hnew
    · exact fun htaken => h'.free handle hmore (h.stays handle htaken)
  used := by
    intro handle hmem
    rw [issued, List.filterMap_append, List.mem_append] at hmem
    rcases hmem with hnew | hmore
    · exact h'.stays handle (h.used handle hnew)
    · exact h'.used handle hmore
  stays := h.stays.trans h'.stays

/-- The calls that were made have given out fresh handles. -/
def Issues (taken : σ → Handle → Prop) (o o' : Traced σ) : Prop :=
  ∃ new, o'.calls = o.calls ++ new ∧ IssuedFresh taken new o.inner o'.inner

instance : IsPreorder (Traced σ) (Issues taken) where
  refl o := ⟨[], (List.append_nil _).symm, .none rfl le_rfl⟩
  trans _ _ _ := by
    rintro ⟨new, hcalls, hnew⟩ ⟨more, hcalls', hmore⟩
    exact ⟨new ++ more, by rw [hcalls', hcalls, List.append_assoc], hnew.trans hmore⟩

variable [Processes σ] [EventLog σ]

/-- Whatever is asked of processes with fresh handles gives out fresh ones. -/
theorem processes_issue (fresh : Processes.Fresh taken) : Processes.Move (Issues taken) where
  spawn request o := by
    refine ⟨_, rfl, ?_⟩
    show IssuedFresh taken [.spawn request (Processes.spawn request o.inner).1] o.inner
      (Processes.spawn request o.inner).2
    have hstays := fresh.stays.spawn request o.inner
    rcases hspawn : (Processes.spawn request : Act σ Handle) o.inner with ⟨ended, t⟩
    rw [hspawn] at hstays
    cases ended with
    | done h =>
      obtain ⟨hfree, hused⟩ := fresh.new hspawn
      exact ⟨List.nodup_singleton h, by simpa [ProcessCall.issued?], by simpa [ProcessCall.issued?],
        hstays⟩
    | failed failure => exact .none rfl hstays
    | crashed crash => exact .none rfl hstays
  wait h o := ⟨_, rfl, .none rfl (fresh.stays.wait h o.inner)⟩
  kill h o := ⟨_, rfl, .none rfl (fresh.stays.kill h o.inner)⟩
  terminate h o := ⟨_, rfl, .none rfl (fresh.stays.terminate h o.inner)⟩

end Traced

namespace CommandRecorder

variable {σ : Type} [Processes σ] [EventLog σ] {taken : σ → Handle → Prop}

/-- A turn gives out fresh handles only. -/
theorem turn_issues (fresh : Processes.Fresh taken) (operation : Operation) (store : RecordStore)
    (r : CommandRecorder) (s : σ) :
    Traced.IssuedFresh taken (turn operation (store, r, s)).calls s
      (obey operation (store, r, s)).2.2.2 := by
  have hmove : RecordersMove CommandRecorder (Traced.Issues taken) :=
    CommandRecorder.move (Traced.processes_issue fresh) fun e o =>
      ⟨[], (List.append_nil _).symm, .none rfl (fresh.note e o.inner)⟩
  have hissues : Act.Moves (Act.Beside (Act.Beside (Traced.Issues taken)))
      (obey operation : Act (RecordStore × CommandRecorder × Traced σ) Unit) := by
    cases operation with
    | start => exact hmove.start.onRight
    | stop => exact hmove.stop.onRight
    | save => exact hmove.save
  rcases hrun : obey operation (store, r, ({ inner := s } : Traced σ)) with
    ⟨ended, store', r', calls, t⟩
  obtain ⟨hturn, hleft⟩ := turn_of_traced operation hrun
  obtain ⟨new, hcalls, hnew⟩ := hissues (store, r, { inner := s })
  rw [hrun] at hcalls hnew
  obtain rfl : calls = new := hcalls
  rw [hturn, hleft]
  exact hnew

/-- Turns in a row give out fresh handles only, by induction on the requests. -/
theorem turns_issue (fresh : Processes.Fresh taken) :
    ∀ (operations : List Operation) (x : RecordStore × CommandRecorder × σ),
      ∃ t, Traced.IssuedFresh taken ((turns operations x).flatMap Turn.calls) x.2.2 t
  | [], (_, _, s) => ⟨s, .none rfl le_rfl⟩
  | operation :: rest, (store, r, s) =>
    let ⟨t, h⟩ := turns_issue fresh rest (obey operation (store, r, s)).2
    ⟨t, (turn_issues fresh operation store r s).trans h⟩

/-! ## Any order -/

/-- **What holds of all the turns of a recorder.** -/
structure Safe (r : CommandRecorder) (made : List Turn) : Prop where
  /-- No process is waited for or killed twice, and none both. -/
  once : (parted (made.flatMap Turn.calls)).Nodup
  lawful : Lawful (made.flatMap Turn.calls)
  /-- A save that is done has waited for one process, and adds one block with what that printed. -/
  saved : ∀ turn ∈ made, turn.operation = .save → turn.ended = .done () →
    ∃ h out, turn.calls = [.wait h (.done out)] ∧
      turn.after.blocks = turn.before.blocks
        ++ ["<<<<< " ++ r.description ++ " >>>>>\n" ++ out.output ++ "\n\n"]
  /-- Nothing else adds a block, a save that is not done included. -/
  kept : ∀ turn ∈ made, turn.ended ≠ .done () ∨ turn.operation ≠ .save →
    turn.after.blocks = turn.before.blocks
  /-- A recorder that has come to waiting, or could not ask, does nothing until it is started. -/
  refused : ∀ earlier spending between late later,
    made = earlier ++ spending :: (between ++ late :: later) → spending.Spends →
      (∀ turn ∈ between, ¬ turn.Starts) → late.operation ≠ .start → late.Refused

/-- Turns of a recorder that begins without a process are safe. -/
theorem Follows.safe {r r' : CommandRecorder} {made : List Turn} (hnone : r.handle = none)
    (hmade : Follows r made r') (fresh : (issued (made.flatMap Turn.calls)).Nodup) :
    Safe r made := by
  have horderly : Orderly (made.flatMap Turn.calls) r' := (Orderly.unborn hnone).run hmade fresh
  constructor
  · exact horderly.once
  · exact horderly.lawful
  · intro turn hmem hoperation hended
    obtain ⟨earlier, later, rfl⟩ := List.append_of_mem hmem
    obtain ⟨r₁, hearlier, _ | ⟨hgoes, -⟩⟩ := hmade.split
    obtain ⟨h, out, hcalls, hafter⟩ := hgoes.block_saved hoperation hended
    refine ⟨h, out, hcalls, ?_⟩
    rw [hafter, RecordStore.append, block, hearlier.description]
    rfl
  · intro turn hmem hended
    obtain ⟨earlier, later, rfl⟩ := List.append_of_mem hmem
    obtain ⟨r₁, -, _ | ⟨hgoes, -⟩⟩ := hmade.split
    exact congrArg RecordStore.blocks (hgoes.store_kept hended)
  · rintro earlier spending between late later rfl hspends hquiet hoperation
    obtain ⟨r₁, -, _ | ⟨hspending, hrest⟩⟩ := hmade.split
    obtain ⟨r₂, hbetween, _ | ⟨hlate, -⟩⟩ := hrest.split
    have hunheld : r₂.handle = none := hbetween.unheld (hspending.spent hspends) hquiet
    exact hlate.refused hunheld hoperation

/-- **A recorder may be asked anything at any time.**  Whatever it is asked, and however often, over
processes with fresh handles that answer what they like: its turns are `Safe`. -/
theorem any_order_is_safe (fresh : Processes.Fresh taken) (name : String) (words : List String)
    (operations : List Operation) (store : RecordStore) (s : σ) :
    Safe { description := name, words }
      (turns operations (store, { description := name, words }, s)) := by
  obtain ⟨r', hmade⟩ := turns_follow operations (store, { description := name, words }, s)
  obtain ⟨t, hissued⟩ := turns_issue fresh operations (store, { description := name, words }, s)
  exact hmade.safe rfl hissued.nodup

/-- A recorder that is stopped in vain, started over, started twice in a row, and asked to save too
early and too late.  Only one of the saves adds a block. -/
theorem any_order_is_safe_on_bench :
    Processes.Fresh (fun (b : Bench) h => h < b.processes.next) ∧
      ∃ made : List Turn,
        made = turns [.start, .stop, .save, .start, .start, .save, .stop, .save, .stop, .save]
          ({}, { description := "log", words := ["tail"] },
            ({ processes := {
                responses := [.ok { output := "told" }]
                terminateFailure := some (.process "gone") } } : Bench)) ∧
        made.flatMap Turn.calls =
          [.spawn ⟨"tail", [], true⟩ (.done 0), .terminate 0 (.failed (.process "gone")),
            .kill 0 (.done ()), .spawn ⟨"tail", [], true⟩ (.done 1),
            .spawn ⟨"tail", [], true⟩ (.done 2), .terminate 2 (.done ()),
            .wait 2 (.done { output := "told" })] ∧
        made.map (fun turn => turn.after.blocks)
          = List.replicate 7 [] ++ List.replicate 3 ["<<<<< log >>>>>\ntold\n\n"] ∧
        Safe { description := "log", words := ["tail"] } made :=
  ⟨Bench.processes_fresh, _, rfl, by decide +kernel, by decide +kernel,
    any_order_is_safe Bench.processes_fresh "log" ["tail"] _ {} _⟩

end CommandRecorder

end BusTrial
