import BusTrial.Proofs.Processes.Calls

/-!
# A command recorder that is asked anything at any time

A session asks its recorders to start, to stop and to save, in this order and once.  Here a
`CommandRecorder` is asked in any order and as often as one likes, while the processes answer what
they like.

* `turns` — a sequence of requests.  A `Turn` says how a request ended, and which calls of the
  processes it led to;
* **`obey_goes`** — every turn is one of `Goes`, which also says what it makes of the recorder;
* `turns_follow` — a sequence of turns is a path along `Goes` (`Follows`).

The calls are those of the same request in a `Traced` state.  Nothing after `obey_goes` looks into
the operations of the recorder again.
-/

namespace BusTrial

theorem Traced.noting_of {σ α : Type} {act : Act σ α} {o : Traced σ} {ended : Outcome α} {t : σ}
    (call : Outcome α → ProcessCall) (h : act o.inner = (ended, t)) :
    noting call act o = (ended, { calls := o.calls ++ [call ended], inner := t }) := by
  simp only [noting, h]

namespace CommandRecorder

/-- What a recorder can be asked. -/
inductive Operation where
  | start | stop | save
  deriving DecidableEq, Repr

/-- One request: how it ended, the calls of processes on the way, and the blocks around it. -/
structure Turn where
  operation : Operation
  ended : Outcome Unit
  calls : List ProcessCall
  before : RecordStore
  after : RecordStore

section

variable {σ : Type} [Processes σ] [EventLog σ]

/-- Does what is asked, beside a store. -/
def obey : Operation → Act (RecordStore × CommandRecorder × σ) Unit
  | .start => Act.onRight start
  | .stop => Act.onRight stop
  | .save => save

/-- The turn that a request is. -/
def turn (operation : Operation) (x : RecordStore × CommandRecorder × σ) : Turn where
  operation := operation
  ended := (obey operation x).1
  calls := (obey operation (x.1, x.2.1, ({ inner := x.2.2 } : Traced σ))).2.2.2.calls
  before := x.1
  after := (obey operation x).2.1

/-- The turns of a sequence of requests. -/
def turns : List Operation → RecordStore × CommandRecorder × σ → List Turn
  | [], _ => []
  | operation :: rest, x => turn operation x :: turns rest (obey operation x).2

end

/-! ## What a turn can be -/

/-- All that a turn can be, and what it makes of the recorder. -/
inductive Goes (r : CommandRecorder) : Turn → CommandRecorder → Prop
  | noCommand (failure : Failure) (store : RecordStore) :
    Goes r ⟨.start, .failed failure, [], store, store⟩ r
  | unstarted (request : Request) (abrupt : Outcome Empty) (store : RecordStore) :
    Goes r ⟨.start, abrupt.map Empty.elim, [.spawn request (abrupt.map Empty.elim)], store, store⟩
      r
  | started (request : Request) (h : Handle) (store : RecordStore) :
    Goes r ⟨.start, .done (), [.spawn request (.done h)], store, store⟩
      { r with handle := some h, terminated := false }
  | nothingToStop (failure : Failure) (store : RecordStore) : r.handle = none →
    Goes r ⟨.stop, .failed failure, [], store, store⟩ r
  | asked (h : Handle) (store : RecordStore) : r.handle = some h →
    Goes r ⟨.stop, .done (), [.terminate h (.done ())], store, store⟩ { r with terminated := true }
  | killed (h : Handle) (failure : Failure) (ended killed : Outcome Unit) (store : RecordStore) :
    r.handle = some h → ended ≠ .done () →
      Goes r ⟨.stop, ended, [.terminate h (.failed failure), .kill h killed], store, store⟩
        { r with handle := none }
  | interrupted (h : Handle) (crash : Crash) (store : RecordStore) : r.handle = some h →
    Goes r ⟨.stop, .crashed crash, [.terminate h (.crashed crash)], store, store⟩ r
  | nothingToSave (failure : Failure) (store : RecordStore) :
    Goes r ⟨.save, .failed failure, [], store, store⟩ r
  | saved (h : Handle) (out : ProcessOutput) (store : RecordStore) :
    r.handle = some h → r.terminated = true →
      Goes r ⟨.save, .done (), [.wait h (.done out)], store, store.append (r.block out.output)⟩
        { r with handle := none }
  | lost (h : Handle) (abrupt : Outcome Empty) (store : RecordStore) :
    r.handle = some h → r.terminated = true →
      Goes r ⟨.save, abrupt.map Empty.elim, [.wait h (abrupt.map Empty.elim)], store, store⟩
        { r with handle := none }

section

variable {σ : Type} [Processes σ] [EventLog σ]

theorem start_goes (r : CommandRecorder) (store : RecordStore) (s : σ) :
    ∃ (ended : Outcome Unit) (r' : CommandRecorder) (calls : List ProcessCall) (t : σ),
      start (r, ({ inner := s } : Traced σ)) = (ended, r', { calls, inner := t }) ∧
        Goes r ⟨.start, ended, calls, store, store⟩ r' := by
  obtain ⟨name, words, handle, terminated⟩ := r
  rcases words with _ | ⟨program, arguments⟩
  · exact ⟨_, _, _, _, rfl, .noCommand _ store⟩
  set r : CommandRecorder := ⟨name, program :: arguments, handle, terminated⟩
  set request : Request := ⟨program, arguments, true⟩
  rcases hspawn : (Processes.spawn request : Act σ Handle) s with ⟨ended, t⟩
  have htraced : (Processes.spawn request : Act (CommandRecorder × Traced σ) Handle)
      (r, { inner := s }) = (ended, r, { calls := [.spawn request ended], inner := t }) :=
    Act.onRight_of (Traced.noting_of (.spawn request) hspawn)
  rcases ended.done_or_abrupt with ⟨h, rfl⟩ | ⟨abrupt, rfl⟩
  · exact ⟨_, _, _, _, (Act.bind_of_done rfl).trans ((Act.bind_of_done rfl).trans
      (Act.bind_of_done htraced)), .started request h store⟩
  · exact ⟨_, _, _, _, (Act.bind_of_done rfl).trans ((Act.bind_of_done rfl).trans
      (Act.bind_of_abrupt htraced)), .unstarted request abrupt store⟩

omit [EventLog σ] in
theorem stop_goes (r : CommandRecorder) (store : RecordStore) (s : σ) :
    ∃ (ended : Outcome Unit) (r' : CommandRecorder) (calls : List ProcessCall) (t : σ),
      stop (r, ({ inner := s } : Traced σ)) = (ended, r', { calls, inner := t }) ∧
        Goes r ⟨.stop, ended, calls, store, store⟩ r' := by
  obtain ⟨name, words, handle, terminated⟩ := r
  rcases handle with _ | h
  · exact ⟨_, _, _, _, rfl, .nothingToStop _ store rfl⟩
  set r : CommandRecorder := ⟨name, words, some h, terminated⟩
  rcases hask : (Processes.terminate h : Act σ Unit) s with ⟨answer, t⟩
  have htraced : (Processes.terminate h : Act (CommandRecorder × Traced σ) Unit)
      (r, { inner := s }) = (answer, r, { calls := [.terminate h answer], inner := t }) :=
    Act.onRight_of (Traced.noting_of (.terminate h) hask)
  rcases answer with ⟨⟨⟩⟩ | failure | crash
  · exact ⟨_, _, _, _, (Act.bind_of_done rfl).trans (Act.bind_of_done (Act.result_of_done htraced)),
      .asked h store rfl⟩
  · rcases hkill : (Processes.kill h : Act σ Unit) t with ⟨killed, t'⟩
    have hkilled : (Processes.kill h : Act (CommandRecorder × Traced σ) Unit)
        ({ r with handle := none }, { calls := [.terminate h (.failed failure)], inner := t })
          = (killed, { r with handle := none },
              { calls := [.terminate h (.failed failure), .kill h killed], inner := t' }) :=
      Act.onRight_of (Traced.noting_of (.kill h) hkill)
    rcases killed with ⟨⟨⟩⟩ | failure' | crash
    · exact ⟨_, _, _, _, (Act.bind_of_done rfl).trans <|
        (Act.bind_of_done (Act.result_of_failed htraced)).trans <|
          (Act.bind_of_done rfl).trans (Act.bind_of_done (Act.result_of_done hkilled)),
        .killed h failure _ _ store rfl nofun⟩
    · exact ⟨_, _, _, _, (Act.bind_of_done rfl).trans <|
        (Act.bind_of_done (Act.result_of_failed htraced)).trans <|
          (Act.bind_of_done rfl).trans (Act.bind_of_done (Act.result_of_failed hkilled)),
        .killed h failure _ _ store rfl nofun⟩
    · exact ⟨_, _, _, _, (Act.bind_of_done rfl).trans <|
        (Act.bind_of_done (Act.result_of_failed htraced)).trans <|
          (Act.bind_of_done rfl).trans (Act.bind_of_crashed (Act.result_of_crashed hkilled)),
        .killed h failure _ _ store rfl nofun⟩
  · exact ⟨_, _, _, _,
      (Act.bind_of_done rfl).trans (Act.bind_of_crashed (Act.result_of_crashed htraced)),
      .interrupted h crash store rfl⟩

theorem save_goes (r : CommandRecorder) (store : RecordStore) (s : σ) :
    ∃ (ended : Outcome Unit) (store' : RecordStore) (r' : CommandRecorder)
        (calls : List ProcessCall) (t : σ),
      save (store, r, ({ inner := s } : Traced σ)) = (ended, store', r', { calls, inner := t }) ∧
        Goes r ⟨.save, ended, calls, store, store'⟩ r' := by
  obtain ⟨name, words, handle, terminated⟩ := r
  rcases handle with _ | h
  · exact ⟨_, _, _, _, _, rfl, .nothingToSave _ store⟩
  rcases terminated with _ | _
  · exact ⟨_, _, _, _, _, rfl, .nothingToSave _ store⟩
  rcases hwait : (Processes.wait h : Act σ ProcessOutput) s with ⟨ended, t⟩
  have htraced : (Processes.wait h : Act (RecordStore × CommandRecorder × Traced σ) ProcessOutput)
      (store, ⟨name, words, none, true⟩, { inner := s })
        = (ended, store, ⟨name, words, none, true⟩, { calls := [.wait h ended], inner := t }) :=
    Act.onRight_of (Act.onRight_of (Traced.noting_of (.wait h) hwait))
  rcases ended.done_or_abrupt with ⟨out, rfl⟩ | ⟨abrupt, rfl⟩
  · exact ⟨_, _, _, _, _, (Act.bind_of_done rfl).trans ((Act.bind_of_done rfl).trans
      (Act.bind_of_done htraced)), .saved h out store rfl rfl⟩
  · exact ⟨_, _, _, _, _, (Act.bind_of_done rfl).trans ((Act.bind_of_done rfl).trans
      (Act.bind_of_abrupt htraced)), .lost h abrupt store rfl rfl⟩

/-- A request in a traced state is the same request, and its calls are noted. -/
theorem obey_projects (operation : Operation) :
    Act.Projects (Prod.map id (Prod.map id (Traced.inner : Traced σ → σ))) id (obey operation)
      (obey operation) := by
  have h : RecordersProject (id : CommandRecorder → CommandRecorder)
      (Traced.inner : Traced σ → σ) := CommandRecorder.project
  cases operation with
  | start => exact h.start.onRight
  | stop => exact h.stop.onRight
  | save => exact h.save

/-- A turn can be read off the request in a traced state. -/
theorem turn_of_traced (operation : Operation) {store store' : RecordStore}
    {r r' : CommandRecorder} {s t : σ} {ended : Outcome Unit} {calls : List ProcessCall}
    (h : obey operation (store, r, ({ inner := s } : Traced σ))
      = (ended, store', r', { calls, inner := t })) :
    turn operation (store, r, s) = ⟨operation, ended, calls, store, store'⟩ ∧
      (obey operation (store, r, s)).2 = (store', r', t) := by
  have hplain : obey operation (store, r, s) = (ended, store', r', t) := by
    have hprojects := obey_projects operation (store, r, ({ inner := s } : Traced σ))
    rw [Outcome.map_id, h] at hprojects
    exact hprojects
  exact ⟨by simp only [turn, hplain, h], by rw [hplain]⟩

/-- **A turn is one of `Goes`**, and goes on to what the request leaves. -/
theorem obey_goes (operation : Operation) (store : RecordStore) (r : CommandRecorder) (s : σ) :
    Goes r (turn operation (store, r, s)) (obey operation (store, r, s)).2.2.1 := by
  cases operation with
  | start =>
    obtain ⟨ended, r', calls, t, hrun, hgoes⟩ := start_goes r store s
    obtain ⟨hturn, hleft⟩ := turn_of_traced .start (Act.onRight_of hrun)
    rw [hturn, hleft]
    exact hgoes
  | stop =>
    obtain ⟨ended, r', calls, t, hrun, hgoes⟩ := stop_goes r store s
    obtain ⟨hturn, hleft⟩ := turn_of_traced .stop (Act.onRight_of hrun)
    rw [hturn, hleft]
    exact hgoes
  | save =>
    obtain ⟨ended, store', r', calls, t, hrun, hgoes⟩ := save_goes r store s
    obtain ⟨hturn, hleft⟩ := turn_of_traced .save hrun
    rw [hturn, hleft]
    exact hgoes

end

/-! ## What a sequence of turns can be -/

/-- Turns, each from what the one before it made of the recorder. -/
inductive Follows : CommandRecorder → List Turn → CommandRecorder → Prop
  | nil (r : CommandRecorder) : Follows r [] r
  | cons {r r' r'' : CommandRecorder} {turn : Turn} {rest : List Turn} :
    Goes r turn r' → Follows r' rest r'' → Follows r (turn :: rest) r''

theorem Follows.split {r r'' : CommandRecorder} :
    ∀ {earlier later : List Turn}, Follows r (earlier ++ later) r'' →
      ∃ r', Follows r earlier r' ∧ Follows r' later r''
  | [], _, h => ⟨r, .nil r, h⟩
  | _ :: _, _, .cons hgoes hrest =>
    let ⟨r', hearlier, hlater⟩ := hrest.split
    ⟨r', .cons hgoes hearlier, hlater⟩

theorem turns_follow {σ : Type} [Processes σ] [EventLog σ] :
    ∀ (operations : List Operation) (x : RecordStore × CommandRecorder × σ),
      ∃ r', Follows x.2.1 (turns operations x) r'
  | [], (_, r, _) => ⟨r, .nil r⟩
  | operation :: rest, (store, r, s) =>
    let ⟨r', h⟩ := turns_follow rest (obey operation (store, r, s)).2
    ⟨r', .cons (obey_goes operation store r s) h⟩

theorem Goes.description {r r' : CommandRecorder} {turn : Turn} (h : Goes r turn r') :
    r'.description = r.description := by
  cases h <;> rfl

theorem Follows.description {r r' : CommandRecorder} {made : List Turn} (h : Follows r made r') :
    r'.description = r.description := by
  induction h with
  | nil => rfl
  | cons hgoes _ ih => exact ih.trans hgoes.description

end CommandRecorder

end BusTrial
