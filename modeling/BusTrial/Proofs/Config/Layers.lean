import BusTrial.Proofs.Act
import BusTrial.Proofs.Config.Acceptance
import BusTrial.Proofs.Config.Keys

/-!
# What a configuration is made of

Each key of the configuration of a run has the value from the command line, or else that in the
configuration file, or else its default, whatever the layers say about other keys.

* `Layered` — the configuration has these values, with its paths seen from the directory of the run;
* `layered_effective`, `Layered.unique` — there is just one such configuration, and it is the
  effective one;
* `load_cases` — what `Config.load` makes of a file that can be read;
* **`loads_layered_iff_usable`** — it ends with that configuration if it is usable, and with one of
  its problems if it is not.
-/

namespace BusTrial

namespace Config

variable {overrides : Overrides} {directory : FilePath} {document : KeyMap Toml} {file : ConfigPatch}

/-! ## The value of a key -/

/-- A document says one thing of a key. -/
theorem Key.Named.unique {key : Key} {found found' : Option key.Value} (h : key.Named document found)
    (h' : key.Named document found') : found = found' := by
  cases h with
  | nothing absent =>
    cases h' with
    | nothing => rfl
    | value found read =>
      rw [absent] at found
      cases found
  | value found read =>
    cases h' with
    | nothing absent =>
      rw [absent] at found
      cases found
    | value found' read' =>
      rw [found] at found'
      cases found'
      exact read.symm.trans read'

/-- The value of a key that is in effect. -/
inductive Key.Effective (overrides : Overrides) (document : KeyMap Toml) (key : Key) :
    key.Value → Prop
  | overridden {value : key.Value} (given : overrides.value? key = some value) :
    Effective overrides document key value
  | named {value : key.Value} (given : overrides.value? key = none)
      (names : key.Named document (some value)) : Effective overrides document key value
  | default (given : overrides.value? key = none) (names : key.Named document none) :
    Effective overrides document key (({} : Config).value key)

theorem Key.Effective.unique {key : Key} {value value' : key.Value}
    (h : key.Effective overrides document value) (h' : key.Effective overrides document value') :
    value = value' := by
  cases h with
  | overridden given =>
    cases h' with
    | overridden given' => exact Option.some.inj (given.symm.trans given')
    | named given' => exact nomatch given.symm.trans given'
    | default given' => exact nomatch given.symm.trans given'
  | named given names =>
    cases h' with
    | overridden given' => exact nomatch given.symm.trans given'
    | named _ names' => exact Option.some.inj (names.unique names')
    | default _ names' => exact nomatch names.unique names'
  | default given names =>
    cases h' with
    | overridden given' => exact nomatch given.symm.trans given'
    | named _ names' => exact nomatch names.unique names'
    | default => rfl

/-- The configuration has the values that are in effect, with its paths seen from the directory. -/
def Layered (overrides : Overrides) (document : KeyMap Toml) (directory : FilePath) (c : Config) :
    Prop :=
  ∀ key, ∃ value, key.Effective overrides document value ∧ c.value key = key.seenFrom directory value

/-- There is no other configuration than that. -/
theorem Layered.unique {c c' : Config} (h : Layered overrides document directory c)
    (h' : Layered overrides document directory c') : c = c' := by
  refine ext_keys fun key => ?_
  obtain ⟨value, heffective, hvalue⟩ := h key
  obtain ⟨value', heffective', hvalue'⟩ := h' key
  rw [hvalue, hvalue', heffective.unique heffective']

/-- **The layers make up the configuration with the values in effect.** -/
theorem layered_effective (readable : ConfigPatch.ofDocument? document = some file) :
    Layered overrides document directory (effective file overrides.patch directory) := by
  intro key
  rw [effective, value_completePaths, value_apply, value_apply, Overrides.value?_patch]
  refine ⟨_, ?_, rfl⟩
  have names := named_of_ofDocument? readable key
  cases given : overrides.value? key with
  | some value => exact .overridden given
  | none =>
    cases named : file.value? key with
    | some value => exact .named given (named ▸ names)
    | none => exact .default given (named ▸ names)

/-! ## Loading -/

/-- The document that a run asks for: an empty one if it asks for no file, and otherwise what stands
in the file, seen from its directory. -/
inductive Asked {σ : Type} [Files σ] (overrides : Overrides) (directory : FilePath) :
    KeyMap Toml → σ → σ → Prop
  | nothing {s : σ} (asks : overrides.configPath = none) : Asked overrides directory [] s s
  | file {s t : σ} {path : FilePath} {text : String} {document : KeyMap Toml}
      (asks : overrides.configPath = some path)
      (read : Files.read (.absolute directory path) s = (.done text, t))
      (parsed : Toml.parse text = some document) : Asked overrides directory document s t

variable {σ : Type} [Files σ] {s t : σ}

/-- Loading reads a layer and checks what it makes up. -/
theorem load_eq (overrides : Overrides) (directory : FilePath) :
    (load overrides directory : Act σ Config)
      = (match overrides.configPath with
          | some path => readPatch (.absolute directory path)
          | none => pure {}) >>= fun file =>
        .ofExcept ((checked file overrides.patch directory).mapError ConfigProblem.failure) := by
  rw [load]
  cases overrides.configPath <;> rfl

/-- Once its file is read, a configuration is checked. -/
theorem load_of_asked (asked : Asked overrides directory document s t)
    (readable : ConfigPatch.ofDocument? document = some file) :
    load overrides directory s
      = Act.ofExcept ((checked file overrides.patch directory).mapError ConfigProblem.failure) t := by
  cases asked with
  | nothing asks =>
    obtain rfl : {} = file := Option.some.inj readable
    rw [load_eq, asks]
    exact Act.bind_of_done rfl
  | file asks read parsed =>
    rw [load_eq, asks]
    refine Act.bind_of_done ?_
    refine (Act.bind_of_done read).trans ?_
    simp only [ConfigPatch.ofText?, parsed, Option.bind_eq_bind, Option.bind_some, readable]
    rfl

/-- What loading ends with is the effective configuration, which is usable, or else a problem that
it has. -/
theorem load_cases (asked : Asked overrides directory document s t)
    (readable : ConfigPatch.ofDocument? document = some file) :
    let config := effective file overrides.patch directory
    (config.Usable ∧ load overrides directory s = (.done config, t)) ∨
      ∃ problem : ConfigProblem, problem.Afflicts config ∧
        load overrides directory s = (.failed (.plain .invalidConfig problem.message), t) := by
  intro config
  rw [load_of_asked asked readable, checked]
  cases found : config.problem? with
  | none =>
    exact .inl ⟨problem?_eq_none_iff.1 found, rfl⟩
  | some problem =>
    exact .inr ⟨problem, afflicts_of_problem? found, rfl⟩

/-- Loading ends with the effective configuration if that is usable. -/
theorem load_of_usable (asked : Asked overrides directory document s t)
    (readable : ConfigPatch.ofDocument? document = some file)
    (usable : (effective file overrides.patch directory).Usable) :
    load overrides directory s = (.done (effective file overrides.patch directory), t) :=
  ((load_cases asked readable).resolve_right fun ⟨problem, hafflicts, _⟩ =>
    usable.not_afflicts problem hafflicts).2

/-- **A run is configured by its layers, key by key, or not at all.**  If it asks for no file, or for
one that can be read, there is just one configuration whose keys each have the value from the command
line, or else that in the file, or else the default.  Loading ends with that configuration, and with
no other, exactly if it is usable; if it is not, then it fails with a problem that this configuration
has. -/
theorem loads_layered_iff_usable (overrides : Overrides) (directory : FilePath)
    (document : KeyMap Toml) (file : ConfigPatch) (s t : σ)
    (asked : Asked overrides directory document s t)
    (readable : ConfigPatch.ofDocument? document = some file) :
    ∃ config, Layered overrides document directory config ∧
      (∀ other, Layered overrides document directory other → other = config) ∧
      (∀ loaded, load overrides directory s = (.done loaded, t) ↔
        loaded = config ∧ config.Usable) ∧
      (¬ config.Usable → ∃ problem : ConfigProblem, problem.Afflicts config ∧
        load overrides directory s = (.failed (.plain .invalidConfig problem.message), t)) := by
  have hlayered : Layered overrides document directory (effective file overrides.patch directory) :=
    layered_effective readable
  refine ⟨_, hlayered, fun other hother => hother.unique hlayered, fun loaded => ?_, fun hnot => ?_⟩
  · rcases load_cases asked readable with ⟨usable, hload⟩ | ⟨problem, hafflicts, hload⟩
    · rw [hload, Prod.mk.injEq, Outcome.done.injEq]
      exact ⟨fun h => ⟨h.1.symm, usable⟩, fun h => ⟨h.1.symm, rfl⟩⟩
    · rw [hload, Prod.mk.injEq]
      exact ⟨fun h => (nomatch h.1), fun h => absurd hafflicts (h.2.not_afflicts problem)⟩
  · exact (load_cases asked readable).resolve_left fun h => hnot h.1

/-! ### A file and a command line that both name the timeout -/

/-- The text of a configuration file. -/
def slowProbes : String :=
  "[probe]\ntimeout_ms = 9000\ninterval_ms = 250\n[logging]\nrun_log_path = \"/var/log/run.jsonl\"\n"

/-- A disk with that file. -/
def slowDisk : FileTable :=
  ({} : FileTable).put ⟨"/work/trial.toml"⟩ slowProbes

/-- What the file says. -/
def slowLayer : ConfigPatch where
  probe := { timeoutMillis := some 9000, intervalMillis := some 250 }
  logging := { runLogPath := some ⟨"/var/log/run.jsonl"⟩ }

/-- A command line that names the file and allows for less time. -/
def hurried : Overrides where
  configPath := some ⟨"trial.toml"⟩
  recordPath := some ⟨"out/record.log"⟩
  timeoutMillis := some 1000

theorem slowProbes_read : ∃ document, Toml.parse slowProbes = some document ∧
    ConfigPatch.ofDocument? document = some slowLayer := by
  obtain ⟨document, parsed⟩ :=
    Option.isSome_iff_exists.1 (show (Toml.parse slowProbes).isSome = true by decide +kernel)
  have hread : ConfigPatch.ofText? slowProbes = some slowLayer := by decide +kernel
  rw [ConfigPatch.ofText?, parsed] at hread
  exact ⟨document, parsed, hread⟩

theorem hurried_usable : (effective slowLayer hurried.patch ⟨"/work"⟩).Usable :=
  problem?_eq_none_iff.1 (by decide +kernel)

/-- The command line decides on the timeout and the file on the interval, and relative paths are seen
from the directory. -/
theorem loads_layered_iff_usable_hurried :
    ∃ document t config, Asked hurried ⟨"/work"⟩ document slowDisk t ∧
      ConfigPatch.ofDocument? document = some slowLayer ∧
      load hurried ⟨"/work"⟩ slowDisk = (.done config, t) ∧
      config.probe = ⟨1000, 250⟩ ∧ config.flight.recordPath = ⟨"/work/out/record.log"⟩ := by
  obtain ⟨document, parsed, readable⟩ := slowProbes_read
  have asked : Asked hurried ⟨"/work"⟩ document slowDisk _ := .file rfl rfl parsed
  obtain ⟨config, -, honly, hload, -⟩ :=
    loads_layered_iff_usable hurried ⟨"/work"⟩ document slowLayer slowDisk _ asked readable
  obtain rfl := honly _ (layered_effective readable)
  exact ⟨document, _, _, asked, readable, (hload _).2 ⟨rfl, hurried_usable⟩, rfl, rfl⟩

end Config

end BusTrial
