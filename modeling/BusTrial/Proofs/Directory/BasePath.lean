import BusTrial.Proofs.Config.Consumers
import BusTrial.Proofs.Directory.Subtree
import BusTrial.Proofs.ObjectPath

/-!
# Base paths that are no object paths

A configuration is accepted with every base path that begins with a slash.  A directory puts that path
in front of a suffix and then asks whether the result is an object path; if it is not, the object is
refused, and the bus is not asked for it.

* `isValid_append_iff` — behind a base path, a suffix makes an object path exactly if the base path is
  one as well;
* `isValid_resolvePath_iff` — so a suffix is completed to an object path exactly then, or if it begins
  with the base path and is not completed at all;
* `Lookup.refused_iff`, `Lookup.asked_iff` — what a look-up makes of either;
* **`loaded_resolves_iff`** — a configuration that was loaded is good for all suffixes exactly if its
  base path is an object path;
* `hyphenated_refused` — one that was loaded, and is not.
-/

namespace BusTrial

namespace ObjectPath

/-- **Behind a text that begins with a slash, a path makes a path exactly if that text is one.** -/
theorem isValid_append_iff {base suffix : String} (rooted : base.toList.head? = some '/')
    (hbase : base ≠ "/") (hsuffix : Row suffix.toList) :
    isValid (base ++ suffix) = true ↔ isValid base = true := by
  obtain ⟨tail, htail⟩ := List.head?_eq_some_iff.1 rooted
  have hne : base ++ suffix ≠ "/" := by
    obtain ⟨rest, hrest, -⟩ := hsuffix.pieces
    intro h
    simpa [htail, hrest] using congrArg String.toList h
  rw [isValid_iff, isValid_iff, or_iff_right hbase, or_iff_right hne, String.toList_append, htail]
  exact row_append_iff hsuffix

end ObjectPath

/-- A file that can be read is a document that can be read. -/
theorem ConfigPatch.document_of_ofText? {text : String} {patch : ConfigPatch}
    (h : ofText? text = some patch) :
    ∃ document, Toml.parse text = some document ∧ ofDocument? document = some patch :=
  Option.bind_eq_some_iff.1 h

namespace Directory

variable {d : Directory} {suffix : String} {deeds : List Deed} {ended : Outcome (Option ObjectRef)}

/-! ## Completing a suffix -/

/-- **A suffix is completed to an object path exactly if it is put behind one**, or not completed at
all. -/
theorem isValid_resolvePath_iff (rooted : d.pathBase.toList.head? = some '/')
    (hsuffix : ObjectPath.isValid suffix = true) (hroot : suffix ≠ "/") :
    ObjectPath.isValid (d.resolvePath suffix) = true
      ↔ ObjectPath.isValid d.pathBase = true ∨ Text.startsWith suffix d.pathBase = true := by
  have hrow := ObjectPath.row_of_isValid hsuffix hroot
  cases hstart : Text.startsWith suffix d.pathBase with
  | true => simp [resolvePath_eq_self hstart, hsuffix]
  | false =>
    -- every suffix that is a path begins with the root
    have hbase : d.pathBase ≠ "/" := by
      intro h
      obtain ⟨rest, hrest, -⟩ := hrow.pieces
      rw [h, Bool.eq_false_iff] at hstart
      exact hstart (Text.startsWith_slash_iff.2 (by rw [hrest, List.head?_cons]))
    rw [resolvePath_eq_append hstart, ObjectPath.isValid_append_iff rooted hbase hrow]
    simp

/-- If all suffixes can be completed, then they are put behind an object path. -/
theorem isValid_pathBase (rooted : d.pathBase.toList.head? = some '/')
    (h : ∀ suffix, ObjectPath.isValid suffix = true → suffix ≠ "/" →
      ObjectPath.isValid (d.resolvePath suffix) = true) : ObjectPath.isValid d.pathBase = true := by
  have hshort : ObjectPath.isValid "/a" = true := by decide
  have hcompleted := h "/a" hshort (by decide)
  rcases (isValid_resolvePath_iff rooted hshort (by decide)).1 hcompleted with hbase | hstart
  · exact hbase
  -- the starts of a path with one letter that begin with a slash are paths
  · obtain ⟨tail, htail⟩ := List.head?_eq_some_iff.1 rooted
    obtain ⟨rest, hrest⟩ := Text.startsWith_iff.1 hstart
    have hletter : ['a'] = tail ++ rest.toList := by
      simpa [htail] using congrArg String.toList hrest
    rw [ObjectPath.isValid, htail]
    rcases List.append_eq_singleton_iff.1 hletter.symm with ⟨rfl, -⟩ | ⟨rfl, -⟩ <;> decide

/-! ## Looking an object up -/

/-- The deed by which an object is refused without asking for it. -/
def refusal (d : Directory) (suffix : String) : Deed :=
  .note (.of "warn" "bus.object.invalid_path" [("path", .string (d.resolvePath suffix))])

/-- An object is refused exactly if its path is none. -/
theorem Lookup.refused_iff (h : Lookup d suffix deeds ended) :
    deeds = [d.refusal suffix] ↔ ObjectPath.isValid (d.resolvePath suffix) = false := by
  cases h with
  | malformed hinvalid => exact iff_of_true rfl hinvalid
  | undescribed _ hvalid | interrupted _ hvalid | unexported _ hvalid | found _ hvalid =>
    simp [refusal, hvalid]

/-- Otherwise the bus is asked for it, once. -/
theorem Lookup.asked_iff (h : Lookup d suffix deeds ended) :
    descriptions deeds = [d.target suffix]
      ↔ ObjectPath.isValid (d.resolvePath suffix) = true := by
  cases h with
  | malformed hinvalid => simp [descriptions, Deed.described, hinvalid]
  | undescribed _ hvalid | interrupted _ hvalid | unexported _ hvalid | found _ hvalid =>
    exact iff_of_true rfl hvalid

theorem object_of_invalid {σ : Type} [Bus σ] [Processes σ] [EventLog σ]
    (h : ObjectPath.isValid (d.resolvePath suffix) = false) (s : σ) :
    (d.object suffix s).1 = .done none := by
  obtain ⟨_, _, _, hlookup, -, hend⟩ := exists_lookup d suffix s
  rw [hend]
  cases hlookup with
  | malformed => rfl
  | undescribed _ hvalid | interrupted _ hvalid | unexported _ hvalid | found _ hvalid =>
    exact absurd hvalid (by simp [h])

/-! ## The base path of a configuration -/

/-- **A configuration that was loaded is good for all suffixes exactly if its base path is an object
path**, which loading does not ask for.  Each suffix that is an object path other than the root is
completed to one exactly if the base path is one too, or if the suffix begins with it; the bus is then
asked for that object, once.  Every other suffix is refused, and the bus is not asked. -/
theorem loaded_resolves_iff {σ τ : Type} [Files σ] [Bus τ] [Processes τ] [EventLog τ]
    (overrides : Overrides) (directory : FilePath) (config : Config) (s t : σ)
    (loaded : Config.load overrides directory s = (.done config, t)) (link : BusLink) :
    let d := Suite.directoryOf config link
    let base := config.service.pathBase
    ((∀ suffix, ObjectPath.isValid suffix = true → suffix ≠ "/" →
      ObjectPath.isValid (d.resolvePath suffix) = true) ↔ ObjectPath.isValid base = true) ∧
    ∀ suffix, ObjectPath.isValid suffix = true → suffix ≠ "/" →
      (ObjectPath.isValid (d.resolvePath suffix) = true
        ↔ ObjectPath.isValid base = true ∨ Text.startsWith suffix base = true) ∧
      ∀ u : τ, ∃ deeds ended v, Lookup d suffix deeds ended ∧
        InTurn (Deed.Happens link) deeds u v ∧ d.object suffix u = (ended, v) ∧
        (descriptions deeds = [d.target suffix]
          ↔ ObjectPath.isValid base = true ∨ Text.startsWith suffix base = true) ∧
        (deeds = [d.refusal suffix]
          ↔ ObjectPath.isValid base = false ∧ Text.startsWith suffix base = false) := by
  intro d base
  have rooted : d.pathBase.toList.head? = some '/' :=
    (Config.problem?_eq_none_iff.1 (Config.accepted_of_loaded loaded).1).rooted
  refine ⟨⟨isValid_pathBase rooted, fun hbase suffix hsuffix hroot => ?_⟩,
    fun suffix hsuffix hroot => ?_⟩
  · exact (isValid_resolvePath_iff rooted hsuffix hroot).2 (.inl hbase)
  · have hresolves := isValid_resolvePath_iff rooted hsuffix hroot
    refine ⟨hresolves, fun u => ?_⟩
    obtain ⟨deeds, ended, v, hlookup, hdeeds, hend⟩ := exists_lookup d suffix u
    have hrefuses := not_congr hresolves
    simp only [not_or, Bool.not_eq_true] at hrefuses
    exact ⟨deeds, ended, v, hlookup, hdeeds, hend, hlookup.asked_iff.trans hresolves,
      hlookup.refused_iff.trans hrefuses⟩

/-- The manager is looked up where the service has it. -/
theorem loaded_resolves_iff_hurried :
    ∃ config t, Config.load Config.hurried ⟨"/work"⟩ Config.slowDisk = (.done config, t) ∧
      ObjectPath.isValid "/Manager" = true ∧ "/Manager" ≠ "/" ∧
      ObjectPath.isValid ((Suite.directoryOf config .direct).resolvePath "/Manager") = true ∧
      ∃ deeds ended v, InTurn (Deed.Happens .direct) deeds ({} : Bench) v ∧
        (Suite.directoryOf config .direct).object "/Manager" {} = (ended, v) ∧
        descriptions deeds = [⟨"org.freedesktop.UDisks2", "/org/freedesktop/UDisks2/Manager"⟩] := by
  obtain ⟨document, parsed, readable⟩ := Config.slowProbes_read
  have asked : Config.Asked Config.hurried ⟨"/work"⟩ document Config.slowDisk _ :=
    .file rfl rfl parsed
  have loaded := Config.load_of_usable asked readable Config.hurried_usable
  have hmanager : ObjectPath.isValid "/Manager" = true := by decide
  have hroot : "/Manager" ≠ "/" := by decide
  have hbase : ObjectPath.isValid "/org/freedesktop/UDisks2" = true := by decide
  obtain ⟨hall, hsuffixes⟩ :=
    loaded_resolves_iff (τ := Bench) Config.hurried ⟨"/work"⟩ _ Config.slowDisk _ loaded .direct
  obtain ⟨deeds, ended, v, -, hdeeds, hend, hasked, -⟩ :=
    (hsuffixes "/Manager" hmanager hroot).2 {}
  exact ⟨_, _, loaded, hmanager, hroot, hall.2 hbase "/Manager" hmanager hroot, deeds, ended, v,
    hdeeds, hend, hasked.2 (.inl hbase)⟩

/-! ### A base path with a hyphen -/

/-- The text of a configuration file. -/
def hyphenated : String :=
  "[service]\npath_prefix = \"/org/freedesktop/UDisks-2\"\n"

/-- A disk with that file. -/
def hyphenatedDisk : FileTable :=
  ({} : FileTable).put ⟨"/work/trial.toml"⟩ hyphenated

/-- What the file says. -/
def hyphenatedLayer : ConfigPatch where
  service := { pathBase := some "/org/freedesktop/UDisks-2" }

/-- A command line that names the file. -/
def plainly : Overrides where
  configPath := some ⟨"trial.toml"⟩

/-- A configuration is loaded whose base path is no object path.  The manager is then refused, even on
a bench whose bus describes an object at that place. -/
theorem hyphenated_refused :
    ∃ config t, Config.load plainly ⟨"/work"⟩ hyphenatedDisk = (.done config, t) ∧
      ObjectPath.isValid "/Manager" = true ∧ "/Manager" ≠ "/" ∧
      ObjectPath.isValid ((Suite.directoryOf config .direct).resolvePath "/Manager") = false ∧
      ((Suite.directoryOf config .direct).object "/Manager"
        (benchWith "/org/freedesktop/UDisks-2/Manager")).1 = .done none := by
  have hread : ConfigPatch.ofText? hyphenated = some hyphenatedLayer := by decide +kernel
  obtain ⟨document, parsed, readable⟩ := ConfigPatch.document_of_ofText? hread
  have asked : Config.Asked plainly ⟨"/work"⟩ document hyphenatedDisk _ := .file rfl rfl parsed
  have usable : (Config.effective hyphenatedLayer plainly.patch ⟨"/work"⟩).Usable :=
    Config.problem?_eq_none_iff.1 (by decide +kernel)
  have loaded := Config.load_of_usable asked readable usable
  have hinvalid : ObjectPath.isValid ((Suite.directoryOf
      (Config.effective hyphenatedLayer plainly.patch ⟨"/work"⟩) .direct).resolvePath "/Manager")
        = false := by decide +kernel
  exact ⟨_, _, loaded, by decide, by decide, hinvalid, object_of_invalid hinvalid _⟩

end Directory

end BusTrial
