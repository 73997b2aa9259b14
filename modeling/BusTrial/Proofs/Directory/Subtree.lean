import BusTrial.Bench
import BusTrial.Proofs.Directory.Asking
import BusTrial.Proofs.Text
import BusTrial.Suite.Basic

/-!
# The subtree of a service

All objects of a service have paths within one base path.  A directory completes a suffix to such a path,
unless the text begins with the base path already; since only characters are compared, a text `Strays`
that begins with those of the base path and goes on in the middle of an element.

* `slash_not_mem_fileName`, `fileName?_ne_none` — the name under which a device is looked for is one
  element of a path;
* `resolvePath_eq_self`, `resolvePath_eq_append` — a text stays as it is, or becomes a path below the
  base path;
* `within_resolvePath_iff` — the path is within the base path exactly if the text does not stray;
* `below_device_iff` — a device is looked for below the block devices exactly if its suffix is not
  taken for a full path;
* **`resolution_within_subtree`** — all of it, for whatever is looked up;
* `stray_resolved_outside` — a text that strays, and a device that is found elsewhere.
-/

namespace BusTrial

/-! ## The names of devices -/

namespace FilePath

variable {p : FilePath}

theorem mem_of_mem_dropIdleEnd {piece : List Char} {all : List (List Char)}
    (h : piece ∈ dropIdleEnd all) : piece ∈ all :=
  List.mem_reverse.1 ((List.dropWhile_suffix _).subset (List.mem_reverse.1 h))

/-- No piece of a path holds a slash. -/
theorem slash_not_mem_of_mem_pieces {piece : List Char} (h : piece ∈ p.pieces.2) : '/' ∉ piece := by
  unfold pieces at h
  split at h
  · exact Text.not_mem_of_mem_splitOn h
  · split at h
    · rename_i hpieces
      exact Text.not_mem_of_mem_splitOn (hpieces ▸ List.mem_cons_of_mem _ h)
    · exact Text.not_mem_of_mem_splitOn h

/-- The name of a file holds no slash. -/
theorem slash_not_mem_fileName {name : String} (h : p.fileName? = some name) :
    '/' ∉ name.toList := by
  unfold fileName? at h
  split at h
  · cases h
  · rename_i piece hlast
    cases h
    rw [String.toList_ofList]
    exact slash_not_mem_of_mem_pieces (mem_of_mem_dropIdleEnd (List.mem_of_getLast? hlast))
  · cases h

theorem dropIdleEnd_concat {all : List (List Char)} {last : List Char} (h : isIdle last = false) :
    dropIdleEnd (all ++ [last]) = all ++ [last] := by
  simp [dropIdleEnd, h]

/-- Elements of an object path are pieces that count. -/
theorem pieces_of_elements
    (h : ∀ piece ∈ p.text.toList.splitOn '/', ObjectPath.isElement piece = true) :
    p.pieces = (none, p.text.toList.splitOn '/') := by
  unfold pieces
  split
  · rename_i rest htext
    have hempty : [] ∈ p.text.toList.splitOn '/' := by
      rw [htext, ← List.nil_append ('/' :: rest), List.splitOn_append_cons_self]
      exact List.mem_append_left _ (by simp)
    cases h [] hempty
  · split
    · rename_i hdot
      cases h ['.'] (hdot ▸ List.mem_cons_self)
    · rfl

/-- A row of elements names a file by the last one. -/
theorem fileName?_ne_none
    (h : ∀ piece ∈ p.text.toList.splitOn '/', ObjectPath.isElement piece = true) :
    p.fileName? ≠ none := by
  obtain ⟨all, last, hall⟩ : ∃ all last, p.text.toList.splitOn '/' = all ++ [last] :=
    (List.eq_nil_or_concat' _).resolve_left (List.splitOn_ne_nil _ _)
  have hlast := h last (hall ▸ List.mem_concat_self)
  have hcounts : isIdle last = false := by
    rw [isIdle, Bool.or_eq_false_iff, beq_eq_false_iff_ne, beq_eq_false_iff_ne]
    constructor <;> (rintro rfl; cases hlast)
  rw [fileName?, pieces_of_elements h, hall, dropIdleEnd_concat hcounts, List.getLast?_concat]
  split
  · rename_i hdots
    cases hdots
    cases hlast
  · nofun
  · rename_i hnone
    cases hnone

end FilePath

/-- What follows the first element of an object path is a row of elements. -/
theorem ObjectPath.elements_of_isValidChars {first rest : List Char} (hfirst : '/' ∉ first)
    (h : isValidChars ('/' :: (first ++ '/' :: rest)) = true) :
    ∀ piece ∈ rest.splitOn '/', isElement piece = true := by
  -- more than the slash of the root is left, whether or not the first element is empty
  have hall : ((first ++ '/' :: rest).splitOn '/').all isElement = true := by
    cases first <;> exact h
  rw [List.splitOn_append_cons_self_of_not_mem hfirst, List.all_cons, Bool.and_eq_true,
    List.all_eq_true] at hall
  exact hall.2

namespace Directory

/-- A path below another one. -/
def Below (base path : String) : Prop :=
  ∃ rest, path = base ++ "/" ++ rest

/-- A path within another one: that one itself, or one below it. -/
def Within (base path : String) : Prop :=
  path = base ∨ Below base path

/-- The text begins with the characters of a path, but is not within it. -/
def Strays (base text : String) : Prop :=
  Text.startsWith text base = true ∧ ¬ Within base text

theorem below_iff {base path : String} :
    Below base path ↔ Text.startsWith path (base ++ "/") = true :=
  Text.startsWith_iff.symm

instance (base path : String) : Decidable (Below base path) :=
  decidable_of_iff _ below_iff.symm

instance (base path : String) : Decidable (Within base path) :=
  inferInstanceAs (Decidable (path = base ∨ Below base path))

instance (base text : String) : Decidable (Strays base text) :=
  inferInstanceAs (Decidable (Text.startsWith text base = true ∧ ¬ Within base text))

theorem Within.startsWith {base path : String} (h : Within base path) :
    Text.startsWith path base = true := by
  rw [Text.startsWith_iff]
  rcases h with rfl | ⟨rest, rfl⟩
  · exact ⟨"", (String.append_empty).symm⟩
  · exact ⟨"/" ++ rest, String.append_assoc⟩

section

variable {d : Directory} {suffix : String}

theorem resolvePath_eq_self (h : Text.startsWith suffix d.pathBase = true) :
    d.resolvePath suffix = suffix :=
  if_pos h

theorem resolvePath_eq_append (h : Text.startsWith suffix d.pathBase = false) :
    d.resolvePath suffix = d.pathBase ++ suffix :=
  if_neg (by simp [h])

/-- **What is completed stays as it is.** -/
theorem resolvePath_resolvePath (d : Directory) (suffix : String) :
    d.resolvePath (d.resolvePath suffix) = d.resolvePath suffix := by
  apply resolvePath_eq_self
  cases h : Text.startsWith suffix d.pathBase with
  | true => rw [resolvePath_eq_self h, h]
  | false =>
    rw [resolvePath_eq_append h]
    exact Text.startsWith_iff.2 ⟨suffix, rfl⟩

/-- **Only a text that strays leaves the base path.** -/
theorem within_resolvePath_iff (rooted : Text.startsWith suffix "/" = true) :
    Within d.pathBase (d.resolvePath suffix) ↔ ¬ Strays d.pathBase suffix := by
  cases h : Text.startsWith suffix d.pathBase with
  | true => simp [resolvePath_eq_self h, Strays, h]
  | false =>
    obtain ⟨rest, rfl⟩ := Text.startsWith_iff.1 rooted
    rw [resolvePath_eq_append h]
    simp only [Strays, h, Bool.false_eq_true, false_and, not_false_eq_true, iff_true]
    exact .inr ⟨rest, String.append_assoc.symm⟩

/-! ## Devices -/

/-- The name by which a block device is looked for. -/
def deviceName (device : String) : String :=
  (FilePath.mk device).fileName?.getD device

theorem deviceSuffix_eq (device : String) :
    deviceSuffix device = "/block_devices/" ++ deviceName device := rfl

/-- The name holds no slash if the path of the device is one. -/
theorem slash_not_mem_deviceName {device : String}
    (h : ObjectPath.isValid (deviceSuffix device) = true) : '/' ∉ (deviceName device).toList := by
  cases hname : (FilePath.mk device).fileName? with
  | some name =>
    rw [deviceName, hname]
    exact FilePath.slash_not_mem_fileName hname
  | none =>
    rw [deviceSuffix_eq, deviceName, hname, ObjectPath.isValid, String.toList_append] at h
    have hfirst : '/' ∉ "block_devices".toList := by decide
    exact absurd hname (FilePath.fileName?_ne_none (ObjectPath.elements_of_isValidChars hfirst h))

/-- **A device is looked for below the block devices exactly if its suffix is taken for one.** -/
theorem below_device_iff {device : String} (rooted : Text.startsWith d.pathBase "/" = true)
    (valid : ObjectPath.isValid (d.resolvePath (deviceSuffix device)) = true) :
    Below (d.pathBase ++ "/block_devices") (d.resolvePath (deviceSuffix device))
      ↔ Text.startsWith (deviceSuffix device) d.pathBase = false := by
  constructor
  · rintro ⟨rest, hpath⟩
    by_contra hstart
    have hself := resolvePath_eq_self (Bool.eq_true_of_not_eq_false hstart)
    rw [hself] at valid hpath
    -- the base path has a slash, and so there are three of them on the right and two on the left
    obtain ⟨base, hbase⟩ := Text.startsWith_iff.1 rooted
    have hname := List.count_eq_zero.2 (slash_not_mem_deviceName valid)
    have htwo : (deviceSuffix device).toList.count '/' = 2 := by
      simp [deviceSuffix_eq, hname]
    have hthree : 3 ≤ (d.pathBase ++ "/block_devices" ++ "/" ++ rest).toList.count '/' := by
      simp [hbase]
      omega
    rw [← hpath] at hthree
    omega
  · intro hstart
    rw [resolvePath_eq_append hstart, deviceSuffix_eq]
    have hdevices : "/block_devices/" = "/block_devices" ++ "/" := rfl
    exact ⟨deviceName device, by simp only [hdevices, String.append_assoc]⟩

end

/-! ## All that is looked up -/

/-- **What is looked up is within the base path, unless its suffix is taken for a full path.**  A text
within the base path stays as it is, and any other text that does not stray is put below the base path,
which is where every path leads but for the texts that stray.  A device is looked for, and found, below
the block devices of the base path, unless its suffix begins with the base path. -/
theorem resolution_within_subtree {σ : Type} [Bus σ] [Processes σ] [EventLog σ] (d : Directory)
    (rooted : Text.startsWith d.pathBase "/" = true) :
    (∀ suffix, Text.startsWith suffix "/" = true →
      (Within d.pathBase suffix → d.resolvePath suffix = suffix) ∧
      (¬ Within d.pathBase suffix → ¬ Strays d.pathBase suffix →
        d.resolvePath suffix = d.pathBase ++ suffix) ∧
      (Within d.pathBase (d.resolvePath suffix) ↔ ¬ Strays d.pathBase suffix)) ∧
    (∀ suffix, d.resolvePath (d.resolvePath suffix) = d.resolvePath suffix) ∧
    ∀ (device : String) (s : σ), ∃ (deeds : List Deed) (ended : Outcome (Option ObjectRef)) (t : σ),
      InTurn (Deed.Happens d.link) deeds s t ∧ d.device device s = (ended, t) ∧ calls deeds = [] ∧
        ∀ object, object ∈ descriptions deeds ∨ ended = .done (some object) →
          object.service = d.service ∧ (Below (d.pathBase ++ "/block_devices") object.path
            ↔ Text.startsWith (deviceSuffix device) d.pathBase = false) := by
  refine ⟨fun suffix hsuffix => ⟨fun h => resolvePath_eq_self h.startsWith, fun h hstays => ?_,
    within_resolvePath_iff hsuffix⟩, d.resolvePath_resolvePath, fun device s => ?_⟩
  · exact resolvePath_eq_append (Bool.eq_false_iff.2 fun hstart => hstays ⟨hstart, h⟩)
  · obtain ⟨deeds, ended, t, hlookup, hdeeds, hend⟩ := exists_lookup d (deviceSuffix device) s
    refine ⟨deeds, ended, t, hdeeds, hend, hlookup.calls_eq, fun object hobject => ?_⟩
    obtain ⟨rfl, valid⟩ := hlookup.eq_target hobject
    exact ⟨rfl, below_device_iff rooted valid⟩

/-! ### Texts that stray

The service is looked for at other base paths than its own, on a bench whose bus describes one disk.
-/

/-- The directory of the service at a base path. -/
def rootedAt (base : String) : Directory :=
  Suite.directoryOf { service := { pathBase := base } } .direct

/-- The bench whose bus describes the object at a path. -/
def benchWith (path : String) : Bench where
  bus := ({} : ScriptedBus).describe path "<interface name=\"org.freedesktop.UDisks2.Block\"/>"

/-- The manager and a disk are looked up where they belong. -/
theorem resolution_within_subtree_udisks :
    Text.startsWith (rootedAt "/org/freedesktop/UDisks2").pathBase "/" = true ∧
      Text.startsWith "/Manager" "/" = true ∧
      Within "/org/freedesktop/UDisks2"
        ((rootedAt "/org/freedesktop/UDisks2").resolvePath "/Manager") ∧
      ∃ deeds object c, InTurn (Deed.Happens .direct) deeds
          (benchWith "/org/freedesktop/UDisks2/block_devices/sda") c ∧
        (rootedAt "/org/freedesktop/UDisks2").device "/dev/sda"
          (benchWith "/org/freedesktop/UDisks2/block_devices/sda") = (.done (some object), c) ∧
        Below "/org/freedesktop/UDisks2/block_devices" object.path := by
  have rooted : Text.startsWith (rootedAt "/org/freedesktop/UDisks2").pathBase "/" = true := rfl
  have hmanager : Text.startsWith "/Manager" "/" = true := rfl
  obtain ⟨hresolve, -, hdevice⟩ :=
    resolution_within_subtree (σ := Bench) (rootedAt "/org/freedesktop/UDisks2") rooted
  obtain ⟨-, -, hwithin⟩ := hresolve "/Manager" hmanager
  have hstays : ¬ Strays "/org/freedesktop/UDisks2" "/Manager" := by decide
  obtain ⟨deeds, ended, c, hdeeds, hend, -, hobjects⟩ :=
    hdevice "/dev/sda" (benchWith "/org/freedesktop/UDisks2/block_devices/sda")
  obtain rfl : ended = .done (some ⟨"org.freedesktop.UDisks2",
    "/org/freedesktop/UDisks2/block_devices/sda"⟩) := (congrArg Prod.fst hend).symm
  exact ⟨rooted, hmanager, hwithin.2 hstays, deeds, _, c, hdeeds, hend,
    (hobjects _ (.inr rfl)).2.2 rfl⟩

/-- A text that shares leading characters only is taken for a full path, and so is the suffix of a
device: what is found there is not below the base path. -/
theorem stray_resolved_outside :
    (ObjectPath.isValid "/org/freedesktop/UDisks2" = true ∧ "/org/freedesktop/UDisks2" ≠ "/" ∧
      Text.startsWith "/org/freedesktop/UDisks2Other" "/" = true ∧
      ¬ Within "/org/freedesktop/UDisks2" "/org/freedesktop/UDisks2Other" ∧
      (rootedAt "/org/freedesktop/UDisks2").resolvePath "/org/freedesktop/UDisks2Other"
        ≠ "/org/freedesktop/UDisks2" ++ "/org/freedesktop/UDisks2Other" ∧
      ¬ Within "/org/freedesktop/UDisks2"
        ((rootedAt "/org/freedesktop/UDisks2").resolvePath "/org/freedesktop/UDisks2Other")) ∧
    ObjectPath.isValid "/block" = true ∧
      ((rootedAt "/block").device "sda" (benchWith "/block_devices/sda")).1
        = .done (some ⟨"org.freedesktop.UDisks2", "/block_devices/sda"⟩) ∧
      ¬ Within "/block" "/block_devices/sda" :=
  ⟨by decide, rfl, rfl, by decide⟩

end Directory

end BusTrial
