import BusTrial.Directory
import BusTrial.Proofs.Act
import BusTrial.Proofs.Deeds

/-!
# What a directory asks the bus

A directory asks the bus to describe an object, or calls a method of one, and hands events to the run
log.  These are its `Deed`s; each of them comes with what came of it, whichever bus is in use.

* `Lookup` — all that looking an object up can be;
* `Introspection` — all that can be asked about the description of an object: what it says of itself,
  and only if that is no text, what the bus says of it;
* **`exists_lookup`**, **`exists_introspection`** — what they do is just that.

Nothing after these looks into the two operations again.
-/

namespace BusTrial

namespace Directory

/-- Something that a directory does, with what came of it. -/
inductive Deed where
  /-- The bus is asked for the description of an object. -/
  | describe (object : ObjectRef) (ended : Outcome String)
  | call (made : MethodCall) (ended : Outcome (List Value))
  | note (event : LogEvent)

namespace Deed

/-- The object that is described. -/
def described : Deed → List ObjectRef
  | .describe object _ => [object]
  | _ => []

/-- The call that is made. -/
def called : Deed → List MethodCall
  | .call made _ => [made]
  | _ => []

variable {σ : Type} [Bus σ] [Processes σ] [EventLog σ]

/-- A deed leads from one state to another. -/
def Happens (link : BusLink) : Deed → σ → σ → Prop
  | .describe object ended, s, t => link.introspect object s = (ended, t)
  | .call made ended, s, t =>
    link.callMethod made.object made.interface made.method made.arguments s = (ended, t)
  | .note event, s, t => t = EventLog.note event s

end Deed

/-- The objects described in the course of some deeds. -/
def descriptions (deeds : List Deed) : List ObjectRef :=
  deeds.flatMap Deed.described

/-- The methods called in the course of some deeds. -/
def calls (deeds : List Deed) : List MethodCall :=
  deeds.flatMap Deed.called

/-! ## Looking an object up -/

/-- The object of a path suffix, whether it is exported or not. -/
def target (d : Directory) (suffix : String) : ObjectRef :=
  ⟨d.service, d.resolvePath suffix⟩

/-- All that looking an object up can be.  The bus is asked for one description at most, and the object
is found if that names an interface of the service. -/
inductive Lookup (d : Directory) (suffix : String) : List Deed → Outcome (Option ObjectRef) → Prop
  | malformed : ObjectPath.isValid (d.resolvePath suffix) = false →
    Lookup d suffix
      [.note (.of "warn" "bus.object.invalid_path" [("path", .string (d.resolvePath suffix))])]
      (.done none)
  | undescribed (failure : Failure) : ObjectPath.isValid (d.resolvePath suffix) = true →
    Lookup d suffix
      [.describe (d.target suffix) (.failed failure),
        .note (.of "debug" "bus.object.lookup_failed"
          [("object", .string (d.target suffix).display), ("error", .string failure.message)])]
      (.done none)
  | interrupted (crash : Crash) : ObjectPath.isValid (d.resolvePath suffix) = true →
    Lookup d suffix [.describe (d.target suffix) (.crashed crash)] (.crashed crash)
  | unexported (xml : String) : ObjectPath.isValid (d.resolvePath suffix) = true →
    Text.contains xml d.exportMarker = false →
    Lookup d suffix
      [.describe (d.target suffix) (.done xml),
        .note (.of "debug" "bus.object.not_exported"
          [("object", .string (d.target suffix).display)])]
      (.done none)
  | found (xml : String) : ObjectPath.isValid (d.resolvePath suffix) = true →
    Text.contains xml d.exportMarker = true →
    Lookup d suffix [.describe (d.target suffix) (.done xml)] (.done (some (d.target suffix)))

namespace Lookup

variable {d : Directory} {suffix : String} {deeds : List Deed} {ended : Outcome (Option ObjectRef)}

/-- No method is called to look an object up. -/
theorem calls_eq (h : Lookup d suffix deeds ended) : calls deeds = [] := by
  cases h <;> rfl

/-- Only the object of the suffix is described or found, and only if its path is one. -/
theorem eq_target {object : ObjectRef} (h : Lookup d suffix deeds ended)
    (hobject : object ∈ descriptions deeds ∨ ended = .done (some object)) :
    object = d.target suffix ∧ ObjectPath.isValid (d.resolvePath suffix) = true := by
  cases h with
  | malformed hvalid => simp [descriptions, Deed.described] at hobject
  | undescribed failure hvalid
  | interrupted crash hvalid
  | unexported xml hvalid =>
    exact ⟨by simpa [descriptions, Deed.described] using hobject, hvalid⟩
  | found xml hvalid hmarker =>
    exact ⟨by simpa [descriptions, Deed.described, eq_comm] using hobject, hvalid⟩

end Lookup

section

variable {σ : Type} [Bus σ] [Processes σ] [EventLog σ]

/-- **Looking an object up is a `Lookup`.** -/
theorem exists_lookup (d : Directory) (suffix : String) (s : σ) :
    ∃ (deeds : List Deed) (ended : Outcome (Option ObjectRef)) (t : σ),
      Lookup d suffix deeds ended ∧ InTurn (Deed.Happens d.link) deeds s t ∧
        d.object suffix s = (ended, t) := by
  cases hvalid : ObjectPath.isValid (d.resolvePath suffix) with
  | false =>
    refine ⟨_, _, _, .malformed hvalid, .single rfl, ?_⟩
    rw [object, hvalid]
    rfl
  | true =>
    rcases hdescribe : (d.link.introspect (d.target suffix) : Act σ String) s with ⟨ended, t⟩
    have hdeed : (Deed.describe (d.target suffix) ended).Happens d.link s t := hdescribe
    cases ended with
    | failed failure =>
      refine ⟨_, _, _, .undescribed failure hvalid, .cons hdeed (.single rfl), ?_⟩
      rw [object, hvalid]
      exact Act.bind_of_done (Act.result_of_failed hdescribe)
    | crashed crash =>
      refine ⟨_, _, _, .interrupted crash hvalid, .single hdeed, ?_⟩
      rw [object, hvalid]
      exact Act.bind_of_crashed (Act.result_of_crashed hdescribe)
    | done xml =>
      have hresult := Act.result_of_done hdescribe
      cases hmarker : Text.contains xml d.exportMarker with
      | false =>
        refine ⟨_, _, _, .unexported xml hvalid hmarker, .cons hdeed (.single rfl), ?_⟩
        rw [object, hvalid]
        refine (Act.bind_of_done hresult).trans ?_
        simp only [hmarker]
        rfl
      | true =>
        refine ⟨_, _, _, .found xml hvalid hmarker, .single hdeed, ?_⟩
        rw [object, hvalid]
        refine (Act.bind_of_done hresult).trans ?_
        simp only [hmarker]
        rfl

/-! ## Describing an object -/

/-- The call by which an object describes itself. -/
def selfDescription (object : ObjectRef) : MethodCall where
  object := object
  interface := "org.freedesktop.DBus.Introspectable"
  method := "Introspect"
  arguments := []

/-- All that can be asked about the description of an object.  What it replies first is its
description if that is a text; otherwise the bus is asked. -/
inductive Introspection (object : ObjectRef) : List Deed → Outcome String → Prop
  | refused (abrupt : Outcome Empty) :
    Introspection object [.call (selfDescription object) (abrupt.map Empty.elim)]
      (abrupt.map Empty.elim)
  | own (values : List Value) (xml : String) : values.head?.bind Value.text? = some xml →
    Introspection object [.call (selfDescription object) (.done values)] (.done xml)
  | ofBus (values : List Value) (ended : Outcome String) : values.head?.bind Value.text? = none →
    Introspection object
      [.call (selfDescription object) (.done values), .describe object ended] ended

/-- An object is asked to describe itself once. -/
theorem Introspection.calls_eq {object : ObjectRef} {deeds : List Deed} {ended : Outcome String}
    (h : Introspection object deeds ended) : calls deeds = [selfDescription object] := by
  cases h <;> rfl

/-- **Asking for the description of an object is an `Introspection`.** -/
theorem exists_introspection (d : Directory) (object : ObjectRef) (s : σ) :
    ∃ (deeds : List Deed) (ended : Outcome String) (t : σ),
      Introspection object deeds ended ∧ InTurn (Deed.Happens d.link) deeds s t ∧
        d.describeManager object s = (ended, t) := by
  rcases hcall : (d.link.callMethod object introspectable "Introspect" [] : Act σ (List Value)) s
    with ⟨ended, t⟩
  have hdeed : (Deed.call (selfDescription object) ended).Happens d.link s t := hcall
  rcases ended.done_or_abrupt with ⟨values, rfl⟩ | ⟨abrupt, rfl⟩
  · cases htext : values.head?.bind Value.text? with
    | some xml =>
      refine ⟨_, _, _, .own values xml htext, .single hdeed, ?_⟩
      rw [describeManager, Act.bind_of_done hcall, htext]
      rfl
    | none =>
      rcases hdescribe : (d.link.introspect object : Act σ String) t with ⟨ended, u⟩
      refine ⟨_, _, _, .ofBus values ended htext, .cons hdeed (.single hdescribe), ?_⟩
      rw [describeManager, Act.bind_of_done hcall, htext]
      exact hdescribe
  · refine ⟨_, _, _, .refused abrupt, .single hdeed, ?_⟩
    rw [describeManager, Act.bind_of_abrupt hcall]

end

end Directory

end BusTrial
