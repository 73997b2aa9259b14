import BusTrial.Bench
import BusTrial.Proofs.Directory.Asking
import BusTrial.Suite.Basic

/-!
# Checking for a module

A check for an optional module of the service takes a few steps: the manager is looked up and
introspected, and if its description does not name the module, modules are enabled and the manager is
introspected again.  Each of these may fail, and then the check is over.

* `Step`, `Step.Takes` — the steps, and the deeds that they take;
* `Checks` — all that a check can be;
* `exists_check` — what a check does is just that;
* **`checkModuleLoaded_sound`** — modules are enabled once at most and only where that is needed, and
  the answer is what the last description says.
-/

namespace BusTrial

namespace Directory

/-- A step of a check for a module, with what came of it. -/
inductive Step where
  | lookUp (ended : Outcome (Option ObjectRef))
  | introspect (ended : Outcome String)
  | enable (ended : Outcome (List Value))

/-- The manager of the service. -/
def manager (d : Directory) : ObjectRef :=
  d.target "/Manager"

/-- The call that enables modules. -/
def enabling (d : Directory) : MethodCall where
  object := d.manager
  interface := d.service ++ ".Manager"
  method := "EnableModules"
  arguments := [.bool true]

/-- The interface of a module stands in a description. -/
def names (d : Directory) (module xml : String) : Bool :=
  Text.contains xml ("interface name=\"" ++ d.service ++ ".Manager." ++ module ++ "\"")

namespace Step

/-- The description that was found. -/
def text? : Step → Option String
  | .introspect (.done xml) => some xml
  | _ => none

/-- The step came to no value. -/
@[simp] def EndsIn (abrupt : Outcome Empty) : Step → Prop
  | .lookUp ended => ended = abrupt.map Empty.elim
  | .introspect ended => ended = abrupt.map Empty.elim
  | .enable ended => ended = abrupt.map Empty.elim

/-- The deeds that a step takes. -/
inductive Takes (d : Directory) (module : String) : Step → List Deed → Prop
  | lookUp {deeds : List Deed} {ended : Outcome (Option ObjectRef)} :
    Lookup d "/Manager" deeds ended → Takes d module (.lookUp ended) deeds
  | introspect {deeds : List Deed} {ended : Outcome String} :
    Introspection d.manager deeds ended → Takes d module (.introspect ended) deeds
  | enable (ended : Outcome (List Value)) :
    Takes d module (.enable ended)
      [.note (.of "info" "suite.module.enabling" [("module", .string module)]),
        .call d.enabling ended]

end Step

/-- The descriptions that were found, in order. -/
def texts (steps : List Step) : List String :=
  steps.filterMap Step.text?

/-- The calls among some that enable modules. -/
def enablings (made : List MethodCall) : List MethodCall :=
  made.filter fun call => call.method == "EnableModules"

/-- All that can follow a description that does not name the module. -/
inductive Enables (d : Directory) (module : String) : List Step → Outcome Bool → Prop
  | refused (abrupt : Outcome Empty) :
    Enables d module [.enable (abrupt.map Empty.elim)] (abrupt.map Empty.elim)
  | undescribed (values : List Value) (abrupt : Outcome Empty) :
    Enables d module [.enable (.done values), .introspect (abrupt.map Empty.elim)]
      (abrupt.map Empty.elim)
  | checked (values : List Value) (xml : String) :
    Enables d module [.enable (.done values), .introspect (.done xml)]
      (.done (d.names module xml))

/-- All that a check can be, step by step. -/
inductive Checks (d : Directory) (module : String) : List Step → Outcome Bool → Prop
  | missing :
    Checks d module [.lookUp (.done none)] (.failed (.bus (d.service ++ " exports no Manager")))
  | lost (abrupt : Outcome Empty) :
    Checks d module [.lookUp (abrupt.map Empty.elim)] (abrupt.map Empty.elim)
  | undescribed (abrupt : Outcome Empty) :
    Checks d module [.lookUp (.done (some d.manager)), .introspect (abrupt.map Empty.elim)]
      (abrupt.map Empty.elim)
  | loaded (xml : String) : d.names module xml = true →
    Checks d module [.lookUp (.done (some d.manager)), .introspect (.done xml)] (.done true)
  | enabled {rest : List Step} {ended : Outcome Bool} (xml : String) :
    d.names module xml = false → Enables d module rest ended →
    Checks d module (.lookUp (.done (some d.manager)) :: .introspect (.done xml) :: rest) ended

section

variable {σ : Type} [Bus σ] [Processes σ] [EventLog σ]

/-- A step leads from one state to another. -/
def Step.Happens (d : Directory) (module : String) (step : Step) (s t : σ) : Prop :=
  ∃ deeds, step.Takes d module deeds ∧ InTurn (Deed.Happens d.link) deeds s t

/-- What a check does once the first description is found not to name the module. -/
def enableAndCheck (d : Directory) (module : String) : Act σ Bool := do
  report "info" "suite.module.enabling" [("module", .string module)]
  let _ ← (d.interface d.manager ".Manager").call "EnableModules" [.bool true]
  return Text.contains (← d.describeManager d.manager) (d.moduleMarker module)

theorem exists_introspect (d : Directory) (module : String) (s : σ) :
    ∃ (ended : Outcome String) (t : σ), (Step.introspect ended).Happens d module s t ∧
      d.describeManager d.manager s = (ended, t) := by
  obtain ⟨deeds, ended, t, hintrospection, hdeeds, hdescribe⟩ :=
    exists_introspection d d.manager s
  exact ⟨ended, t, ⟨deeds, .introspect hintrospection, hdeeds⟩, hdescribe⟩

theorem exists_enables (d : Directory) (module : String) (s : σ) :
    ∃ (steps : List Step) (ended : Outcome Bool) (t : σ),
      Enables d module steps ended ∧ InTurn (Step.Happens d module) steps s t ∧
        d.enableAndCheck module s = (ended, t) := by
  rcases hcall : (d.interface d.manager ".Manager").call "EnableModules" [.bool true]
    (EventLog.note (.of "info" "suite.module.enabling" [("module", .string module)]) s)
    with ⟨enabled, t⟩
  have henable : (Step.enable enabled).Happens d module s t :=
    ⟨_, .enable enabled, .cons rfl (.single hcall)⟩
  rcases enabled.done_or_abrupt with ⟨values, rfl⟩ | ⟨abrupt, rfl⟩
  case inr =>
    exact ⟨_, _, t, .refused abrupt, .single henable,
      (Act.bind_of_done rfl).trans (Act.bind_of_abrupt hcall)⟩
  have hbegins := (Act.bind_of_done rfl : d.enableAndCheck module s = _).trans
    (Act.bind_of_done hcall)
  obtain ⟨described, u, hintrospect, hdescribe⟩ := exists_introspect d module t
  have hsteps := InTurn.cons henable (.single hintrospect)
  rcases described.done_or_abrupt with ⟨xml, rfl⟩ | ⟨abrupt, rfl⟩
  · exact ⟨_, _, u, .checked values xml, hsteps, hbegins.trans (Act.bind_of_done hdescribe)⟩
  · exact ⟨_, _, u, .undescribed values abrupt, hsteps,
      hbegins.trans (Act.bind_of_abrupt hdescribe)⟩

/-- **A check is one of `Checks`.** -/
theorem exists_check (d : Directory) (module : String) (s : σ) :
    ∃ (steps : List Step) (ended : Outcome Bool) (t : σ),
      Checks d module steps ended ∧ InTurn (Step.Happens d module) steps s t ∧
        d.checkModuleLoaded module s = (ended, t) := by
  obtain ⟨deeds, found, t, hlookup, hdeeds, hobject⟩ := exists_lookup d "/Manager" s
  have hlookUp : (Step.lookUp found).Happens d module s t := ⟨deeds, .lookUp hlookup, hdeeds⟩
  rcases found.done_or_abrupt with ⟨object?, rfl⟩ | ⟨abrupt, rfl⟩
  case inr => exact ⟨_, _, t, .lost abrupt, .single hlookUp, Act.bind_of_abrupt hobject⟩
  rcases object? with _ | object
  · exact ⟨_, _, t, .missing, .single hlookUp, Act.bind_of_done hobject⟩
  obtain ⟨rfl, -⟩ := hlookup.eq_target (.inr rfl)
  obtain ⟨described, u, hintrospect, hdescribe⟩ := exists_introspect d module t
  have hsteps := InTurn.cons hlookUp (.single hintrospect)
  rcases described.done_or_abrupt with ⟨xml, rfl⟩ | ⟨abrupt, rfl⟩
  case inr =>
    exact ⟨_, _, u, .undescribed abrupt, hsteps,
      (Act.bind_of_done hobject).trans (Act.bind_of_abrupt hdescribe)⟩
  have hends : d.checkModuleLoaded module s
      = (if Text.contains xml (d.moduleMarker module) then pure true
          else d.enableAndCheck module) u :=
    (Act.bind_of_done hobject).trans (Act.bind_of_done hdescribe)
  cases hmarker : Text.contains xml (d.moduleMarker module) with
  | true =>
    rw [if_pos hmarker] at hends
    exact ⟨_, _, u, .loaded xml hmarker, hsteps, hends⟩
  | false =>
    rw [if_neg (by simp [hmarker])] at hends
    obtain ⟨rest, ended, v, henables, hrest, hend⟩ := exists_enables d module u
    exact ⟨_, ended, v, .enabled xml hmarker henables, hsteps.append hrest, hends.trans hend⟩

end

/-! ## What can be relied on -/

/-- The call that a step makes, if that is one of a method. -/
def Step.made (d : Directory) : Step → List MethodCall
  | .lookUp _ => []
  | .introspect _ => [selfDescription d.manager]
  | .enable _ => [d.enabling]

theorem Step.Takes.calls_eq {d : Directory} {module : String} {step : Step} {deeds : List Deed}
    (h : step.Takes d module deeds) : calls deeds = step.made d := by
  cases h with
  | lookUp h => exact h.calls_eq
  | introspect h => exact h.calls_eq
  | enable ended => rfl

theorem calls_flatten {d : Directory} {module : String} {steps : List Step}
    {rows : List (List Deed)} (h : List.Forall₂ (Step.Takes d module) steps rows) :
    calls rows.flatten = steps.flatMap (Step.made d) := by
  induction h with
  | nil => rfl
  | cons first _ ih =>
    rw [List.flatten_cons, calls, List.flatMap_append, ← calls, ← calls, ih, first.calls_eq,
      List.flatMap_cons]

/-- A step that comes to no value is the last one, and all ends as it does. -/
def Stops (steps : List Step) (ended : Outcome Bool) : Prop :=
  ∀ step after abrupt, step :: after <:+ steps → step.EndsIn abrupt →
    after = [] ∧ ended = abrupt.map Empty.elim

theorem Stops.last {step : Step} {ended : Outcome Bool}
    (h : ∀ abrupt, step.EndsIn abrupt → ended = abrupt.map Empty.elim) : Stops [step] ended := by
  intro step' after abrupt hsuffix hends
  obtain ⟨rfl, rfl⟩ : step' = step ∧ after = [] := by
    simpa [List.suffix_cons_iff] using hsuffix
  exact ⟨rfl, h abrupt hends⟩

theorem Stops.cons {step : Step} {rest : List Step} {ended : Outcome Bool}
    (h : ∀ abrupt, ¬ step.EndsIn abrupt) (stops : Stops rest ended) : Stops (step :: rest) ended := by
  intro step' after abrupt hsuffix hends
  rcases List.suffix_cons_iff.1 hsuffix with hall | hrest
  · obtain ⟨rfl, rfl⟩ := List.cons.inj hall
    exact absurd hends (h abrupt)
  · exact stops step' after abrupt hrest hends

/-- What can be relied on of a check: of the steps that it takes, the calls that it makes and what it
comes to. -/
structure Sound (d : Directory) (module : String) (steps : List Step) (made : List MethodCall)
    (ended : Outcome Bool) : Prop where
  /-- The manager is asked to describe itself and to enable modules, and nothing else is called. -/
  known : ∀ call ∈ made, call = selfDescription d.manager ∨ call = d.enabling
  /-- Modules are enabled once at most. -/
  once : (enablings made).length ≤ 1
  /-- They are enabled right after a description that does not name the module. -/
  needed : ∀ before enabled after, steps = before ++ .enable enabled :: after →
    ∃ xml, before.getLast? = some (.introspect (.done xml)) ∧ d.names module xml = false
  /-- The answer is what the last description says.  A module that is loaded is so without modules
  being enabled exactly if the first description named it. -/
  answer : ∀ loaded, ended = .done loaded → ∃ first last,
    (texts steps).head? = some first ∧ (texts steps).getLast? = some last ∧
      d.names module last = loaded ∧
      (loaded = true ∧ enablings made = [] ↔ d.names module first = true)
  /-- The manager is looked up first, and only once. -/
  begins : ∃ found rest, steps = .lookUp found :: rest ∧ ∀ again, .lookUp again ∉ rest
  /-- Without a manager no method is called. -/
  missing : .lookUp (.done none) ∈ steps → steps = [.lookUp (.done none)] ∧ made = [] ∧
    ended = .failed (.bus (d.service ++ " exports no Manager"))
  stops : Stops steps ended

section

variable {d : Directory} {module : String} {steps : List Step} {ended : Outcome Bool}

theorem Enables.stops (h : Enables d module steps ended) : Stops steps ended := by
  cases h with
  | refused abrupt => exact .last (by simp)
  | undescribed values abrupt => exact .cons (by simp) (.last (by simp))
  | checked values xml => exact .cons (by simp) (.last (by simp))

theorem Checks.stops (h : Checks d module steps ended) : Stops steps ended := by
  cases h with
  | missing => exact .last (by simp)
  | lost abrupt => exact .last (by simp)
  | undescribed abrupt => exact .cons (by simp) (.last (by simp))
  | loaded xml hmarker => exact .cons (by simp) (.last (by simp))
  | enabled xml hmarker h =>
    exact .cons (by simp) (.cons (by simp) h.stops)

theorem Checks.answer {loaded : Bool} (h : Checks d module steps (.done loaded)) :
    ∃ first last, (texts steps).head? = some first ∧ (texts steps).getLast? = some last ∧
      d.names module last = loaded ∧
      (loaded = true ∧ enablings (steps.flatMap (Step.made d)) = [] ↔
        d.names module first = true) := by
  generalize hdone : Outcome.done loaded = ended at h
  cases h with
  | missing => cases hdone
  | lost abrupt => exact absurd hdone (Outcome.done_ne_abrupt loaded abrupt)
  | undescribed abrupt => exact absurd hdone (Outcome.done_ne_abrupt loaded abrupt)
  | loaded xml hmarker =>
    cases hdone
    exact ⟨xml, xml, rfl, rfl, hmarker, by simp [hmarker, enablings, Step.made, selfDescription]⟩
  | enabled xml hmarker h =>
    cases h with
    | refused abrupt => exact absurd hdone (Outcome.done_ne_abrupt loaded abrupt)
    | undescribed values abrupt => exact absurd hdone (Outcome.done_ne_abrupt loaded abrupt)
    | checked values again =>
      cases hdone
      exact ⟨xml, again, rfl, rfl, rfl, by simp [hmarker, enablings, Step.made, enabling]⟩

theorem Checks.sound (h : Checks d module steps ended) :
    Sound d module steps (steps.flatMap (Step.made d)) ended := by
  constructor
  case known =>
    intro call hmem
    obtain ⟨step, -, hcall⟩ := List.mem_flatMap.1 hmem
    cases step <;> simp_all [Step.made]
  case once =>
    rcases h with _ | _ | _ | _ | ⟨_, _, _ | _ | _⟩ <;>
      simp [enablings, Step.made, selfDescription, enabling]
  case needed =>
    intro before enabled after hsplit
    rcases h with _ | _ | _ | _ | ⟨xml, hmarker, _ | _ | _⟩ <;>
      simp [List.cons_eq_append_iff] at hsplit
    all_goals
      obtain ⟨rfl, -, -⟩ := hsplit
      exact ⟨xml, rfl, hmarker⟩
  case answer =>
    rintro loaded rfl
    exact h.answer
  case begins =>
    rcases h with _ | _ | _ | _ | ⟨_, _, _ | _ | _⟩ <;> exact ⟨_, _, rfl, by simp⟩
  case missing =>
    intro hmem
    rcases h with _ | _ | _ | _ | ⟨_, _, _ | _ | _⟩ <;> simp at hmem
    simp [Step.made]
  case stops => exact h.stops

end

/-- **A check can be relied on**, whatever the bus replies.  It takes some steps, each with deeds of
its own, and with these it is `Sound`: modules are enabled once at most, and only after a description
of the manager that does not name the module; the answer is what the last description says; and
whatever comes to no value, or a manager that is not there, ends the check. -/
theorem checkModuleLoaded_sound {σ : Type} [Bus σ] [Processes σ] [EventLog σ] (d : Directory)
    (module : String) (s : σ) :
    ∃ (steps : List Step) (rows : List (List Deed)) (ended : Outcome Bool) (t : σ),
      List.Forall₂ (Step.Takes d module) steps rows ∧
        InTurn (Deed.Happens d.link) rows.flatten s t ∧
        d.checkModuleLoaded module s = (ended, t) ∧
        Sound d module steps (calls rows.flatten) ended := by
  obtain ⟨steps, ended, t, hcheck, hsteps, hend⟩ := exists_check d module s
  obtain ⟨rows, htakes, hdeeds⟩ := hsteps.flatten
  refine ⟨steps, rows, ended, t, htakes, hdeeds, hend, ?_⟩
  rw [calls_flatten htakes]
  exact hcheck.sound

/-! ### Modules that have to be enabled

The law is shown on a bench, which notes the calls by itself.  Its manager names the module only once
modules are enabled.
-/

/-- A bench notes the calls by itself. -/
theorem Deed.noted_on_bench (deed : Deed) (b c : Bench) (h : deed.Happens .direct b c) :
    c.bus.calls.toList = b.bus.calls.toList ++ deed.called := by
  cases deed with
  | describe object ended =>
    obtain rfl : c = { b with bus := (ScriptedBus.introspect object b.bus).2 } :=
      (congrArg Prod.snd h).symm
    dsimp only [ScriptedBus.introspect]
    split <;> simp [called]
  | call made ended =>
    obtain rfl : c = { b with bus := (ScriptedBus.callMethod made.object made.interface made.method
        made.arguments b.bus).2 } := (congrArg Prod.snd h).symm
    dsimp only [ScriptedBus.callMethod]
    split
    · simp [called]
    · simp [called]
    · split <;> simp [called]
  | note event =>
    obtain rfl : c = EventLog.note event b := h
    simp [EventLog.note, called]

/-- The directory of the service that is configured by default. -/
def storage : Directory :=
  Suite.directoryOf {} .direct

/-- The bench with the descriptions of the manager, before and after modules are enabled. -/
def storageBench : Bench where
  bus := ({} : ScriptedBus)
    |>.describe storage.manager.path "<interface name=\"org.freedesktop.UDisks2.Manager\"/>"
    |>.queueReply ⟨storage.manager.path, introspectable, "Introspect"⟩
      (.ok [.string "<interface name=\"org.freedesktop.UDisks2.Manager\"/>"])
    |>.queueReply ⟨storage.manager.path, introspectable, "Introspect"⟩
      (.ok [.string "<interface name=\"org.freedesktop.UDisks2.Manager.LVM2\"/>"])

/-- The calls of a check that has to enable modules. -/
def storageCalls : List MethodCall :=
  let manager : ObjectRef := ⟨"org.freedesktop.UDisks2", "/org/freedesktop/UDisks2/Manager"⟩
  [{ object := manager
     interface := "org.freedesktop.DBus.Introspectable", method := "Introspect", arguments := [] },
    { object := manager
      interface := "org.freedesktop.UDisks2.Manager", method := "EnableModules"
      arguments := [.bool true] },
    { object := manager
      interface := "org.freedesktop.DBus.Introspectable", method := "Introspect", arguments := [] }]

/-- Modules are enabled between two descriptions, of which only the last one names the module. -/
theorem checkModuleLoaded_sound_enabling :
    ∃ (steps : List Step) (rows : List (List Deed)) (c : Bench),
      List.Forall₂ (Step.Takes storage "LVM2") steps rows ∧
        InTurn (Deed.Happens .direct) rows.flatten storageBench c ∧
        storage.checkModuleLoaded "LVM2" storageBench = (.done true, c) ∧
        calls rows.flatten = storageCalls ∧
        ∃ first last, (texts steps).head? = some first ∧ (texts steps).getLast? = some last ∧
          Text.contains first "interface name=\"org.freedesktop.UDisks2.Manager.LVM2\"" = false ∧
          Text.contains last "interface name=\"org.freedesktop.UDisks2.Manager.LVM2\"" = true := by
  obtain ⟨steps, rows, ended, c, htakes, hdeeds, hend, hsound⟩ :=
    checkModuleLoaded_sound storage "LVM2" storageBench
  have hdone : (storage.checkModuleLoaded "LVM2" storageBench).1 = .done true := rfl
  have hnoted : (storage.checkModuleLoaded "LVM2" storageBench).2.bus.calls.toList = storageCalls :=
    rfl
  rw [hend] at hdone hnoted
  obtain rfl : ended = .done true := hdone
  have hcalls : calls rows.flatten = c.bus.calls.toList := by
    rw [hdeeds.grows Deed.noted_on_bench]
    rfl
  obtain ⟨first, last, hfirst, hlast, hloaded, hunaided⟩ := hsound.answer true rfl
  have hfalse : storage.names "LVM2" first = false := by
    rw [Bool.eq_false_iff, Ne, ← hunaided, hcalls, hnoted]
    simp [enablings, storageCalls]
  exact ⟨steps, rows, c, htakes, hdeeds, hend, hcalls.trans hnoted, first, last, hfirst, hlast,
    hfalse, hloaded⟩

end Directory

end BusTrial
