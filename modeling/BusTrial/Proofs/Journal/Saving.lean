import BusTrial.Bench
import BusTrial.Proofs.Journal.Window

/-!
# What a journal recorder saves

A `JournalRecorder` can be asked in any order, while the devices do what they like in between
(`Asked`).  Saving looks only at the latest start and at the latest stop after that (`Encloses`).

* `save_of_read`, `save_of_unread`, `save_of_unready` — the ways in which saving ends;
* `stamps_of_encloses`, `exists_encloses` — which stamps a recorder has after a history, by
  induction on its end: a start takes the stop away, and a stop needs a start;
* **`saves_window`** — the block that is saved after a history, and when there is none.
-/

namespace BusTrial

namespace JournalRecorder

open Journal (Entry IsWindow)

variable {σ : Type} [Journal.Feed σ] [Processes σ] [EventLog σ]

/-! ## Saving -/

section

variable {r : JournalRecorder} {began ended : Duration} {since : Instant} {s t : σ}

/-- The failure to save what was not recorded to its end. -/
def unready (r : JournalRecorder) : Failure :=
  .journal (r.description ++ " saved before it was stopped")

/-- Nothing is saved, and nothing is read, without a start and a stop after it. -/
theorem save_of_unready (h : r.started = none ∨ r.stopped = none) (store : RecordStore) (s : σ) :
    save (store, r, s) = (.failed r.unready, store, r, s) := by
  obtain ⟨name, source, started, stopped⟩ := r
  rcases started with _ | ⟨began, since⟩
  · rfl
  · obtain rfl : stopped = none := h.resolve_left nofun
    rfl

omit [EventLog σ] in
/-- Reading the journal leaves alone what stands beside the state. -/
theorem entriesSince_beside {outcome : Outcome (List Entry)}
    (h : r.source.entriesSince since s = (outcome, t)) (store : RecordStore) :
    r.source.entriesSince since (store, r, s) = (outcome, store, r, t) := by
  rw [Journal.Source.entriesSince_onRight, Journal.Source.entriesSince_onRight]
  exact Act.onRight_of (Act.onRight_of h)

variable (hstarted : r.started = some (began, since)) (hstopped : r.stopped = some ended)

include hstarted hstopped

/-- If the journal cannot be read, saving ends in the same way and keeps the store. -/
theorem save_of_unread (abrupt : Outcome Empty)
    (h : r.source.entriesSince (since.before slack) s = (abrupt.map Empty.elim, t))
    (store : RecordStore) : save (store, r, s) = (abrupt.map Empty.elim, store, r, t) := by
  rw [save]
  refine (Act.bind_of_done rfl).trans ?_
  simp only [hstarted, hstopped]
  exact Act.bind_of_abrupt (entriesSince_beside h store)

/-- What was read is cut down to the window, and its lines make the block. -/
theorem save_of_read {entries : List Entry}
    (h : r.source.entriesSince (since.before slack) s = (.done entries, t)) (store : RecordStore) :
    match (window began ended entries).mapM Entry.line? with
    | none => save (store, r, s) = (.crashed .dateOutOfRange, store, r, t)
    | some lines => ∃ event, save (store, r, s)
        = (.done (), store.append (block r.description lines), r, EventLog.note event t) := by
  have hsave : save (store, r, s) = _ := (Act.bind_of_done rfl).trans (by
    simp only [hstarted, hstopped]
    exact Act.bind_of_done (entriesSince_beside h store))
  cases hlines : (window began ended entries).mapM Entry.line? with
  | none =>
    simp only [hlines] at hsave
    exact hsave
  | some lines =>
    simp only [hlines] at hsave
    exact ⟨_, hsave⟩

end

/-- Saving leaves the recorder as it is, however it ends. -/
theorem save_keeps (r : JournalRecorder) (store : RecordStore) (s : σ) :
    (save (store, r, s)).2.2.1 = r := by
  by_cases hready : r.started = none ∨ r.stopped = none
  · rw [save_of_unready hready]
  obtain ⟨hstarted, hstopped⟩ := not_or.1 hready
  obtain ⟨⟨began, since⟩, hstarted⟩ := Option.ne_none_iff_exists'.1 hstarted
  obtain ⟨ended, hstopped⟩ := Option.ne_none_iff_exists'.1 hstopped
  rcases hread : r.source.entriesSince (since.before slack) s with ⟨outcome, t⟩
  rcases outcome.done_or_abrupt with ⟨entries, rfl⟩ | ⟨abrupt, rfl⟩
  · have hsave := save_of_read hstarted hstopped hread store
    split at hsave
    · rw [hsave]
    · obtain ⟨event, hsave⟩ := hsave
      rw [hsave]
  · rw [save_of_unread hstarted hstopped abrupt hread]

/-! ## A history of requests -/

/-- What is asked of a recorder, and the state that the devices are in when it is asked.  In between
they can do anything. -/
inductive Asked (σ : Type) where
  | start (s : σ)
  | stop (s : σ)
  | save (store : RecordStore) (s : σ)

/-- The latest start was asked for in the state `began`, and the latest stop after it in the state
`ended`. -/
def Encloses (history : List (Asked σ)) (began ended : σ) : Prop :=
  ∃ earlier between later,
    history = earlier ++ .start began :: between ++ .stop ended :: later ∧
      (∀ s, .start s ∉ between ++ later) ∧ ∀ s, .stop s ∉ later

variable [Clock σ]

/-- What a request makes of the recorder. -/
def ask (r : JournalRecorder) : Asked σ → JournalRecorder
  | .start s => (start (r, s)).2.1
  | .stop s => (stop (r, s)).2.1
  | .save store s => (save (store, r, s)).2.2.1

/-- What a history makes of the recorder. -/
def askAll (r : JournalRecorder) (history : List (Asked σ)) : JournalRecorder :=
  history.foldl ask r

variable {r : JournalRecorder}

/-- A start notes the time on both clocks and takes the stop away. -/
theorem ask_start (s : σ) : r.ask (.start s)
    = { r with started := some (Clock.monotonic s, Clock.now s), stopped := none } :=
  rfl

/-- A stop after a start notes the time. -/
theorem ask_stop (s : σ) (h : r.started ≠ none) :
    r.ask (.stop s) = { r with stopped := some (Clock.monotonic s) } := by
  obtain ⟨name, source, started, stopped⟩ := r
  rcases started with _ | started
  · exact absurd rfl h
  · rfl

/-- A stop without a start changes nothing. -/
theorem ask_stop_of_unstarted (s : σ) (h : r.started = none) : r.ask (.stop s) = r := by
  obtain ⟨name, source, started, stopped⟩ := r
  obtain rfl : started = none := h
  rfl

/-- Saving changes nothing about the recorder. -/
theorem ask_save (store : RecordStore) (s : σ) : r.ask (.save store s) = r :=
  save_keeps r store s

/-- Nothing that is asked changes what the recorder is called or where it reads. -/
theorem ask_identity (r : JournalRecorder) (asked : Asked σ) :
    (r.ask asked).description = r.description ∧ (r.ask asked).source = r.source := by
  cases asked with
  | start s => exact ⟨rfl, rfl⟩
  | stop s =>
    by_cases h : r.started = none
    · rw [ask_stop_of_unstarted s h]
      exact ⟨rfl, rfl⟩
    · rw [ask_stop s h]
      exact ⟨rfl, rfl⟩
  | save store s =>
    rw [ask_save]
    exact ⟨rfl, rfl⟩

/-- No history changes what the recorder is called or where it reads. -/
theorem askAll_identity (history : List (Asked σ)) (r : JournalRecorder) :
    (r.askAll history).description = r.description ∧ (r.askAll history).source = r.source := by
  induction history generalizing r with
  | nil => exact ⟨rfl, rfl⟩
  | cons asked history ih =>
    obtain ⟨hname, hsource⟩ := ih (r.ask asked)
    exact ⟨hname.trans (r.ask_identity asked).1, hsource.trans (r.ask_identity asked).2⟩

/-- A history in two parts is asked one after the other. -/
theorem askAll_append (r : JournalRecorder) (history later : List (Asked σ)) :
    r.askAll (history ++ later) = (r.askAll history).askAll later :=
  List.foldl_append

/-- As long as no start is asked for, the recorder keeps the one it has. -/
theorem started_askAll {history : List (Asked σ)} (h : ∀ s, .start s ∉ history)
    (r : JournalRecorder) : (r.askAll history).started = r.started := by
  induction history generalizing r with
  | nil => rfl
  | cons asked history ih =>
    have hrest := ih (fun s hmem => h s (List.mem_cons_of_mem _ hmem)) (r.ask asked)
    refine hrest.trans ?_
    cases asked with
    | start s => exact absurd List.mem_cons_self (h s)
    | stop s =>
      by_cases hnone : r.started = none
      · rw [ask_stop_of_unstarted s hnone]
      · rw [ask_stop s hnone]
    | save store s => rw [ask_save]

/-- As long as neither a start nor a stop is asked for, it stays as it is. -/
theorem askAll_of_quiet {history : List (Asked σ)} (hstart : ∀ s, .start s ∉ history)
    (hstop : ∀ s, .stop s ∉ history) (r : JournalRecorder) : r.askAll history = r := by
  induction history with
  | nil => rfl
  | cons asked history ih =>
    cases asked with
    | start s => exact absurd List.mem_cons_self (hstart s)
    | stop s => exact absurd List.mem_cons_self (hstop s)
    | save store s =>
      have hrest := ih (fun s hmem => hstart s (List.mem_cons_of_mem _ hmem))
        fun s hmem => hstop s (List.mem_cons_of_mem _ hmem)
      show (r.ask (.save store s)).askAll history = r
      rw [ask_save, hrest]

/-- **The stamps are those of the latest start and of the latest stop after it.** -/
theorem stamps_of_encloses {history : List (Asked σ)} {began ended : σ}
    (h : Encloses history began ended) (r : JournalRecorder) :
    (r.askAll history).started = some (Clock.monotonic began, Clock.now began) ∧
      (r.askAll history).stopped = some (Clock.monotonic ended) := by
  obtain ⟨earlier, between, later, rfl, hstart, hstop⟩ := h
  have hbetween : ∀ s, .start s ∉ between := fun s hmem => hstart s (List.mem_append_left _ hmem)
  have hlater : ∀ s, .start s ∉ later := fun s hmem => hstart s (List.mem_append_right _ hmem)
  rw [askAll_append, askAll_append]
  set running := ((r.askAll earlier).ask (.start began)).askAll between
  have hrunning : running.started = some (Clock.monotonic began, Clock.now began) := by
    rw [started_askAll hbetween, ask_start]
  show ((running.ask (.stop ended)).askAll later).started = _ ∧
    ((running.ask (.stop ended)).askAll later).stopped = _
  rw [askAll_of_quiet hlater hstop, ask_stop ended (by rw [hrunning]; nofun)]
  exact ⟨hrunning, rfl⟩

/-- What is asked last is asked of the recorder that the rest has led to. -/
theorem askAll_concat (r : JournalRecorder) (history : List (Asked σ)) (asked : Asked σ) :
    r.askAll (history ++ [asked]) = (r.askAll history).ask asked :=
  askAll_append r history [asked]

/-- A recorder that has a start was asked for one. -/
theorem exists_latest_start {history : List (Asked σ)} (hfresh : r.started = none)
    (h : (r.askAll history).started ≠ none) :
    ∃ earlier began later, history = earlier ++ .start began :: later ∧ ∀ s, .start s ∉ later := by
  induction history using List.reverseRecOn with
  | nil => exact absurd hfresh h
  | append_singleton history asked ih =>
    by_cases hstart : ∃ s, asked = .start s
    · obtain ⟨s, rfl⟩ := hstart
      exact ⟨history, s, [], rfl, fun _ => List.not_mem_nil⟩
    · have hnone : ∀ s, .start s ∉ [asked] := fun s hmem =>
        hstart ⟨s, (List.mem_singleton.1 hmem).symm⟩
      rw [askAll_append, started_askAll hnone] at h
      obtain ⟨earlier, began, later, rfl, hlater⟩ := ih h
      refine ⟨earlier, began, later ++ [asked], by simp, fun s hmem => ?_⟩
      exact (List.mem_append.1 hmem).elim (hlater s) (hnone s)

/-- **A recorder that has both stamps was started, and stopped after that.** -/
theorem exists_encloses {history : List (Asked σ)} (hfresh : r.started = none)
    (hstarted : (r.askAll history).started ≠ none) (hstopped : (r.askAll history).stopped ≠ none) :
    ∃ began ended, Encloses history began ended := by
  induction history using List.reverseRecOn with
  | nil => exact absurd hfresh hstarted
  | append_singleton history asked ih =>
    rw [askAll_concat] at hstarted hstopped
    cases asked with
    | start s => exact absurd rfl hstopped
    | stop s =>
      have hbefore : (r.askAll history).started ≠ none := by
        intro hnone
        rw [ask_stop_of_unstarted s hnone] at hstarted
        exact hstarted hnone
      obtain ⟨earlier, began, later, rfl, hlater⟩ := exists_latest_start hfresh hbefore
      exact ⟨began, s, earlier, later, [], rfl, by simpa using hlater, fun _ => List.not_mem_nil⟩
    | save store s =>
      rw [ask_save] at hstarted hstopped
      obtain ⟨began, ended, earlier, between, later, rfl, hstart, hstop⟩ := ih hstarted hstopped
      refine ⟨began, ended, earlier, between, later ++ [.save store s], by simp, fun s' hmem => ?_,
        fun s' hmem => ?_⟩
      · have hmem' : Asked.start s' ∈ between ++ later := by simpa using hmem
        exact hstart s' hmem'
      · have hmem' : Asked.stop s' ∈ later := by simpa using hmem
        exact hstop s' hmem'

/-! ## What is saved -/

/-- Entries that all have a line have their lines in a row. -/
theorem exists_lines {entries : List Entry} (h : ∀ e ∈ entries, ∃ line, e.line? = some line) :
    ∃ lines, entries.mapM Entry.line? = some lines ∧ entries.map Entry.line? = lines.map some := by
  induction entries with
  | nil => exact ⟨[], rfl, rfl⟩
  | cons e entries ih =>
    obtain ⟨⟨line, hline⟩, hentries⟩ := List.forall_mem_cons.1 h
    obtain ⟨lines, hlines, hmap⟩ := ih hentries
    refine ⟨line :: lines, ?_, by rw [List.map_cons, List.map_cons, hline, hmap]⟩
    rw [List.mapM_cons, hline, hlines]
    rfl

/-- **What a recorder saves after a history.**  If it was started, and stopped after the latest start,
then it asks for the entries from a second before that start on.  If these are read and those of the
window have a date, one block is added to the store: its header, the lines of the window in order,
and three line feeds.  If reading fails, so does saving, and the store stays as it is.  It also does,
and nothing is read, if there was no stop after the latest start. -/
theorem saves_window (name : String) (source : Journal.Source) (history : List (Asked σ))
    (store : RecordStore) (s : σ) :
    let r := askAll { description := name, source } history
    (∀ began ended, Encloses history began ended →
      let read := source.entriesSince ((Clock.now began).before (.ofSeconds 1)) s
      (∀ entries t, read = (.done entries, t) →
        (∀ e ∈ entries, e.Within (Clock.monotonic began) (Clock.monotonic ended) →
          ∃ line, e.line? = some line) →
        ∃ kept lines event,
          IsWindow (Clock.monotonic began) (Clock.monotonic ended) entries kept ∧
            (∀ other, IsWindow (Clock.monotonic began) (Clock.monotonic ended) entries other →
              other = kept) ∧
            kept.map Entry.line? = lines.map some ∧
            save (store, r, s) = (.done (),
              ⟨store.blocks ++ ["<<<<< " ++ name ++ " >>>>>\n" ++ String.join lines ++ "\n\n\n"]⟩,
              r, EventLog.note event t)) ∧
      (∀ failure t, read = (.failed failure, t) →
        save (store, r, s) = (.failed failure, store, r, t))) ∧
    ((∀ began ended, ¬ Encloses history began ended) →
      save (store, r, s)
        = (.failed (.journal (name ++ " saved before it was stopped")), store, r, s)) := by
  intro r
  obtain ⟨hname, hsource⟩ : r.description = name ∧ r.source = source := askAll_identity history _
  refine ⟨fun began ended hencloses => ?_, fun hnone => ?_⟩
  · obtain ⟨hstarted, hstopped⟩ : r.started = _ ∧ r.stopped = _ := stamps_of_encloses hencloses _
    refine ⟨fun entries t hread hdates => ?_, fun failure t hread => ?_⟩
    · have hwindow := isWindow_window (Clock.monotonic began) (Clock.monotonic ended) entries
      obtain ⟨lines, hlines, hmap⟩ := exists_lines fun e he => by
        obtain ⟨hmem, hwithin⟩ := List.mem_filter.1 (hwindow.perm.mem_iff.1 he)
        exact hdates e hmem (of_decide_eq_true hwithin)
      rw [← hsource] at hread
      have hsave := save_of_read hstarted hstopped hread store
      rw [hlines, hname] at hsave
      obtain ⟨event, hsave⟩ := hsave
      exact ⟨_, lines, event, hwindow, fun other => hwindow.unique, hmap, hsave⟩
    · rw [← hsource] at hread
      exact save_of_unread hstarted hstopped (.failed failure) hread store
  · have hunready : r.started = none ∨ r.stopped = none := by
      by_contra hboth
      obtain ⟨hstarted, hstopped⟩ := not_or.1 hboth
      obtain ⟨began, ended, hencloses⟩ := exists_encloses rfl hstarted hstopped
      exact hnone began ended hencloses
    rw [save_of_unready hunready store s, unready, hname]

/-! ### A journal that is not in order -/

/-- Entries out of order, two of them with the same stamp. -/
def unorderedEntries : List Entry :=
  [(102000, "after"), (101999, "last"), (100500, "first"), (100249, "before"), (100250, "edge"),
    (100500, "second")].map fun (millis, message) =>
      { monotonic := .ofMillis millis, realtime := .epoch, message }

/-- A bench with such a journal, so many milliseconds after its start. -/
def unorderedAt (millis : Nat) : Bench where
  clock := { monotonic := .ofMillis millis }
  journal := { entries := unorderedEntries }

/-- A recording that was ended, and another one after it. -/
def twice : List (Asked Bench) :=
  [.start (unorderedAt 1000), .stop (unorderedAt 2000), .start (unorderedAt 100250),
    .stop (unorderedAt 101500)]

/-- Saving takes the second recording, an entry at its very start and one from the second of its
end. -/
theorem saves_window_unordered :
    Encloses twice (unorderedAt 100250) (unorderedAt 101500) ∧
      let r := askAll { description := "journal", source := .feed } twice
      (save ({}, r, unorderedAt 101500)).2.1
        = ⟨["<<<<< journal >>>>>\n00:00:00[100.25000000] kernel: edge\n"
            ++ "00:00:00[100.50000000] kernel: first\n00:00:00[100.50000000] kernel: second\n"
            ++ "00:00:00[101.99900000] kernel: last\n\n\n\n"]⟩ := by
  have hencloses : Encloses twice (unorderedAt 100250) (unorderedAt 101500) :=
    ⟨[.start (unorderedAt 1000), .stop (unorderedAt 2000)], [], [], rfl,
      fun _ => List.not_mem_nil, fun _ => List.not_mem_nil⟩
  have hdates : ∀ e ∈ unorderedEntries, ∃ line, e.line? = some line := by
    have hall : ∀ e ∈ unorderedEntries, e.line?.isSome = true := by decide +kernel
    exact fun e he => Option.isSome_iff_exists.1 (hall e he)
  have h := (saves_window "journal" .feed twice {} (unorderedAt 101500)).1 _ _ hencloses
  obtain ⟨kept, lines, event, -, hunique, hmap, hsave⟩ := h.1 unorderedEntries _ rfl
    fun e he _ => hdates e he
  have hcut : window (.ofMillis 100250) (.ofMillis 101500) unorderedEntries
      = [(100250, "edge"), (100500, "first"), (100500, "second"), (101999, "last")].map
          fun (millis, message) => { monotonic := .ofMillis millis, realtime := .epoch, message } := by
    have hle (m n : Nat) : (⟨m⟩ : Duration) ≤ ⟨n⟩ ↔ m ≤ n := .rfl
    have hlt (m n : Nat) : (⟨m⟩ : Duration) < ⟨n⟩ ↔ m < n := .rfl
    simp [window, unorderedEntries, List.mergeSort, List.MergeSort.Internal.splitInTwo,
      Duration.ofMillis, Duration.wholeSeconds, hle, hlt]
  obtain rfl := hunique _ (isWindow_window _ _ _)
  have hlines : lines = ["00:00:00[100.25000000] kernel: edge\n",
      "00:00:00[100.50000000] kernel: first\n", "00:00:00[100.50000000] kernel: second\n",
      "00:00:00[101.99900000] kernel: last\n"] := by
    refine List.map_inj_right (fun _ _ => Option.some.inj) |>.1 (hmap.symm.trans ?_)
    exact (congrArg _ hcut).trans (by decide +kernel)
  rw [hlines] at hsave
  refine ⟨hencloses, (congrArg (fun x => x.2.1) hsave).trans ?_⟩
  show RecordStore.mk ([] ++ ["<<<<< " ++ "journal" ++ " >>>>>\n" ++ String.join _ ++ "\n\n\n"]) = _
  decide +kernel

end JournalRecorder

end BusTrial
