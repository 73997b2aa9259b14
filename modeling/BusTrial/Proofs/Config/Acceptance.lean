import BusTrial.Config.Load
import Mathlib.Tactic.SplitIfs
import Mathlib.Tactic.Common

/-!
# Configurations that can be used

`Config.Usable` says what a configuration must fulfil, without the order in which `Config.problem?`
asks for it.

* `problem?_eq_none_iff` — a configuration has no problem exactly when it is usable;
* `afflicts_of_problem?` — a problem that is found is one that the configuration has, so that its
  sentence names a key whose value is at fault;
* `attempts_of_accepted`, `words_of_accepted` — what probes and monitors rely on.
-/

namespace BusTrial

theorem Text.isBlankText_eq_false_iff {text : String} :
    isBlankText text = false ↔ ∃ c ∈ text.toList, isBlank c = false := by
  simp [isBlankText]

theorem Text.startsWith_slash_iff {text : String} :
    startsWith text "/" = true ↔ text.toList.head? = some '/' := by
  have hslash : "/".toList = ['/'] := rfl
  rw [startsWith, hslash]
  cases text.toList with
  | nil => exact ⟨nofun, nofun⟩
  | cons c rest =>
    simp only [List.isPrefixOf, Bool.and_true, beq_iff_eq, List.head?_cons, Option.some.injEq]
    exact eq_comm

theorem Monitor.hasCommand_iff {m : Monitor} :
    m.hasCommand = true ↔ ∃ program, m.words.head? = some program ∧
      ∃ c ∈ program.toList, Text.isBlank c = false := by
  rw [Monitor.hasCommand]
  cases m.words <;> simp [Text.isBlankText_eq_false_iff]

namespace Config

/-- What a configuration must fulfil to be used. -/
structure Usable (c : Config) : Prop where
  /-- The service has a name that is not blank. -/
  named : ∃ ch ∈ c.service.name.toList, Text.isBlank ch = false
  /-- All object paths begin at the root. -/
  rooted : c.service.pathBase.toList.head? = some '/'
  /-- Probes pause between reads. -/
  pauses : 0 < c.probe.intervalMillis
  /-- There is time for a read. -/
  inTime : c.probe.intervalMillis ≤ c.probe.timeoutMillis
  /-- Wiping a device is attempted. -/
  wipes : 0 < c.commands.wipeAttempts
  /-- Each monitor names a program, and not with blanks only. -/
  commands : ∀ m ∈ c.flight.monitors, ∃ program, m.words.head? = some program ∧
    ∃ ch ∈ program.toList, Text.isBlank ch = false

end Config

/-- The configuration has the problem. -/
def ConfigProblem.Afflicts : ConfigProblem → Config → Prop
  | .blankServiceName, c => ∀ ch ∈ c.service.name.toList, Text.isBlank ch = true
  | .relativePathBase, c => c.service.pathBase.toList.head? ≠ some '/'
  | .noInterval, c => c.probe.intervalMillis = 0
  | .intervalBeyondTimeout, c => c.probe.timeoutMillis < c.probe.intervalMillis
  | .noWipeAttempts, c => c.commands.wipeAttempts = 0
  | .monitorWithoutCommand label, c => ∃ m ∈ c.flight.monitors, m.label = label ∧
    ∀ program, m.words.head? = some program → ∀ ch ∈ program.toList, Text.isBlank ch = true

namespace Config

variable {c : Config}

/-- A usable configuration has none of the problems. -/
theorem Usable.not_afflicts (usable : c.Usable) (p : ConfigProblem) : ¬ p.Afflicts c := by
  intro h
  cases p with
  | blankServiceName =>
    obtain ⟨ch, hmem, hch⟩ := usable.named
    exact absurd (h ch hmem) (by simp [hch])
  | relativePathBase => exact h usable.rooted
  | noInterval => exact (Nat.ne_of_gt usable.pauses) h
  | intervalBeyondTimeout => exact Nat.not_lt.2 usable.inTime h
  | noWipeAttempts => exact (Nat.ne_of_gt usable.wipes) h
  | monitorWithoutCommand label =>
    obtain ⟨m, hmem, -, hblank⟩ := h
    obtain ⟨program, hprogram, ch, hch, hvisible⟩ := usable.commands m hmem
    exact absurd (hblank program hprogram ch hch) (by simp [hvisible])

/-- **A problem that is found is there.** -/
theorem afflicts_of_problem? {p : ConfigProblem} (h : c.problem? = some p) : p.Afflicts c := by
  rw [problem?] at h
  split_ifs at h with hname hpath hzero hbeyond hwipe
  · cases h
    exact List.all_eq_true.1 hname
  · cases h
    intro hhead
    simp [Text.startsWith_slash_iff.2 hhead] at hpath
  · cases h
    exact hzero
  · cases h
    exact hbeyond
  · cases h
    exact hwipe
  · obtain ⟨m, hfind, rfl⟩ := Option.map_eq_some_iff.1 h
    refine ⟨m, List.mem_of_find?_eq_some hfind, rfl, fun program hprogram ch hch => ?_⟩
    have hlacks : ¬ m.hasCommand = true := by simpa using List.find?_some hfind
    by_contra hvisible
    exact hlacks (Monitor.hasCommand_iff.2 ⟨program, hprogram, ch, hch, by simpa using hvisible⟩)

/-- **A configuration has no problem exactly when it is usable.** -/
theorem problem?_eq_none_iff : c.problem? = none ↔ c.Usable := by
  constructor
  · intro h
    rw [problem?] at h
    split_ifs at h with hname hpath hzero hbeyond hwipe
    have hmonitors := List.find?_eq_none.1 (Option.map_eq_none_iff.1 h)
    exact {
      named := Text.isBlankText_eq_false_iff.1 (by simpa using hname)
      rooted := Text.startsWith_slash_iff.1 (by simpa using hpath)
      pauses := Nat.pos_of_ne_zero hzero
      inTime := Nat.not_lt.1 hbeyond
      wipes := Nat.pos_of_ne_zero hwipe
      commands := fun m hmem => Monitor.hasCommand_iff.1 (by simpa using hmonitors m hmem) }
  · intro usable
    cases h : c.problem? with
    | none => rfl
    | some p => exact absurd (afflicts_of_problem? h) (usable.not_afflicts p)

/-- Both times are counted in the same unit, which does not matter for their ratio. -/
theorem attempts_of_accepted (accepted : c.problem? = none) :
    c.timing.attempts c.timing.timeout = c.probe.timeoutMillis / c.probe.intervalMillis := by
  have hpauses := (problem?_eq_none_iff.1 accepted).pauses
  have hnanos : c.timing.interval.nanos ≠ 0 := by
    show c.probe.intervalMillis * 1000000 ≠ 0
    omega
  rw [Timing.attempts, if_neg hnanos]
  exact Nat.mul_div_mul_right _ _ (by decide)

/-- The monitors of a configuration that can be used name programs. -/
theorem words_of_accepted (accepted : c.problem? = none) :
    ∀ m ∈ c.flight.monitors, m.words ≠ [] := by
  intro m hmem hnil
  obtain ⟨program, hprogram, -⟩ := (problem?_eq_none_iff.1 accepted).commands m hmem
  rw [hnil] at hprogram
  cases hprogram

end Config

end BusTrial
