import BusTrial.Proofs.CommandLine.Probe
import BusTrial.Proofs.Config.Consumers
import BusTrial.Proofs.Value.Literal

/-!
# Asking for what was printed

The probe command prints the value that it found, and `--equals` asks for a value that is given the
same way.  What was printed can be asked for again, although the text does not tell the type.

* `Grammar.readFrom_options` — options with attached values are read one by one, by induction on them;
* `parse_equals` — so a text after `--equals=` is taken as it stands, also when it begins with a dash;
* `met_equal_printed` — the value meets the condition that its text makes;
* **`equals_printed`** — a property that still has the value is found to have it.
-/

namespace BusTrial.CommandLine

/-! ## Options with attached values -/

namespace Grammar

variable {g : Grammar} {name value : String}

/-- An option with its value in one word. -/
def optionWord (name value : String) : String :=
  "--" ++ name ++ "=" ++ value

theorem toList_optionWord :
    (optionWord name value).toList = '-' :: '-' :: (name.toList ++ '=' :: value.toList) := by
  simp [optionWord]

/-- An option of that name can have that value. -/
structure Takes (g : Grammar) (name value : String) : Prop where
  plain : '=' ∉ name.toList
  rule : ∃ rule, g.options.find? (fun o => o.name == name) = some rule ∧ rule.accepts value = true

theorem settle_of_nothing {s : Given} (h : s.pending = .nothing) : g.settle s = .ok s := by
  obtain ⟨values, flags, operands, pending, next⟩ := s
  obtain rfl : pending = .nothing := h
  rfl

/-- The first `=` ends the name. -/
theorem addLong_attached (htakes : g.Takes name value) {s : Given}
    (hpending : s.pending = .nothing) :
    g.addLong s (name.toList ++ '=' :: value.toList) = g.addValue s name value := by
  have hall : ∀ c ∈ name.toList, (c != '=') = true := fun c hc =>
    bne_iff_ne.2 (ne_of_mem_of_not_mem hc htakes.plain)
  obtain ⟨rule, hrule, -⟩ := htakes.rule
  have hoption : g.options.any (fun o => o.name == name) = true := by
    rw [List.any_eq_true]
    exact ⟨rule, List.mem_of_find?_eq_some hrule, by simpa using List.find?_some hrule⟩
  have hname : (name.toList ++ '=' :: value.toList).takeWhile (· != '=') = name.toList := by
    rw [List.takeWhile_append_of_pos hall, List.takeWhile_cons_of_neg (by simp), List.append_nil]
  have hvalue : (name.toList ++ '=' :: value.toList).dropWhile (· != '=') = '=' :: value.toList := by
    rw [List.dropWhile_append_of_pos hall, List.dropWhile_cons_of_neg (by simp)]
  rw [addLong, hname, hvalue, String.ofList_toList, if_pos hoption, settle_of_nothing hpending]
  exact congrArg (g.addValue s name) String.ofList_toList

theorem addWord_optionWord (htakes : g.Takes name value) {s : Given}
    (hpending : s.pending = .nothing) (hnew : s.value? name = none) :
    g.addWord s (optionWord name value) = .ok { s with values := s.values ++ [(name, value)] } := by
  obtain ⟨rule, hrule, haccepts⟩ := htakes.rule
  rw [addWord, toList_optionWord]
  refine (addLong_attached htakes hpending).trans ?_
  rw [addValue, hrule]
  simp [haccepts, hnew]

theorem value?_eq_none_iff {s : Given} : s.value? name = none ↔ name ∉ s.values.map Prod.fst := by
  simp only [Given.value?, Option.map_eq_none_iff, List.find?_eq_none, beq_iff_eq, List.mem_map,
    not_exists, not_and]

/-- **Options with attached values are read one by one.** -/
theorem readFrom_options (hcommands : g.commands = []) {pairs : List (String × String)}
    (htakes : ∀ pair ∈ pairs, g.Takes pair.1 pair.2) :
    ∀ {s : Given}, s.pending = .nothing → ((s.values ++ pairs).map Prod.fst).Nodup →
      g.readFrom s (pairs.map fun pair => optionWord pair.1 pair.2)
        = .ok { s with values := s.values ++ pairs } := by
  induction pairs with
  | nil =>
    intro s hpending _
    rw [List.append_nil, List.map_nil, readFrom, settle_of_nothing hpending]
  | cons pair pairs ih =>
    intro s hpending hnodup
    obtain ⟨hpair, hpairs⟩ := List.forall_mem_cons.1 htakes
    have hnew : s.value? pair.1 = none := by
      rw [value?_eq_none_iff]
      rw [List.map_append, List.map_cons] at hnodup
      exact fun hmem => (List.nodup_append.1 hnodup).2.2 _ hmem _ List.mem_cons_self rfl
    have hcommand : g.isCommand s (optionWord pair.1 pair.2) = false := by
      rw [isCommand, hpending, hcommands]
      rfl
    have hdashes : (optionWord pair.1 pair.2 == "--") = false := by
      rw [beq_eq_false_iff_ne]
      intro h
      have hlist := congrArg String.toList h
      rw [toList_optionWord] at hlist
      simp at hlist
    rw [List.map_cons, readFrom, hcommand, hdashes, addWord_optionWord hpair hpending hnew]
    have hrest := ih hpairs (s := { s with values := s.values ++ [pair] }) hpending
      (by simpa using hnodup)
    simpa using hrest

end Grammar

open Grammar (optionWord)

variable {object interface property text : String}

/-- What a probe is given that asks for a value of a property. -/
def equalsOptions (object interface property text : String) : List (String × String) :=
  [("object", object), ("interface", interface), ("property", property), ("equals", text)]

/-- The command line of a probe that asks for a value of a property. -/
def equalsWords (object interface property text : String) : List String :=
  "probe" :: (equalsOptions object interface property text).map fun pair =>
    optionWord pair.1 pair.2

theorem probeGrammar_takes :
    ∀ pair ∈ equalsOptions object interface property text, probeGrammar.Takes pair.1 pair.2 := by
  simp only [equalsOptions, List.forall_mem_cons]
  refine ⟨?_, ?_, ?_, ?_, nofun⟩
  all_goals exact ⟨by decide, _, rfl, rfl⟩

/-- **What follows `--equals=` is taken as it stands.** -/
theorem parse_equals :
    Invocation.parse (equalsWords object interface property text)
      = .ok { command :=
          .probe { object, interface, property, choice := { equals := some text } } } := by
  set words := (equalsOptions object interface property text).map fun pair =>
    optionWord pair.1 pair.2
  have hnames : ["object", "interface", "property", "equals"].Nodup := by decide
  have hread : probeGrammar.read words
      = .ok { values := equalsOptions object interface property text } :=
    Grammar.readFrom_options rfl probeGrammar_takes rfl hnames
  have hprobe : readProbe words = .ok ({ values := equalsOptions object interface property text },
      .probe { object, interface, property, choice := { equals := some text } }) := by
    rw [readProbe, hread]
    rfl
  show (readCommand "probe" words >>= _) = _
  rw [show readCommand "probe" words = _ from hprobe]
  rfl

/-! ## Asking again -/

open Probe (Answers)

variable {config : Config} {command : ProbeCommand} {condition : Condition} {b : Bench} {v : Value}

/-- A probe that a response answers in time is ended by that response or by an earlier one. -/
theorem runProbe_of_answers (accepted : config.problem? = none)
    (given : command.choice.condition = .ok condition) {k : Nat} {found : Option Value}
    (hk : k < config.probe.timeoutMillis / config.probe.intervalMillis)
    (h : Answers b.processes.responses condition.assertion k found) :
    let link := BusLink.system ⟨config.callTimeout⟩
    ∃ k' ≤ k, ∃ found' t, Answers b.processes.responses condition.assertion k' found' ∧
      runProbe config link command b = (.done 0,
        Bench.withLine (probeLabel (probeOf config link command) ++ " = "
          ++ Value.displayOption found') t) := by
  intro link
  have hpolls := Probe.assert_polls (p := probeOf config link command) rfl condition.assertion b
  have hattempts := Config.attempts_of_accepted accepted
  rcases hpolls with ⟨k', found', t, e, -, hanswers, hearlier, -, hassert⟩ | ⟨hnone, -⟩
  · refine ⟨k', ?_, found', EventLog.note e t, hanswers, runProbe_of_done given hassert⟩
    by_contra hlt
    exact hearlier k (Nat.lt_of_not_le hlt) found h
  · exact absurd h (hnone k (hattempts ▸ hk) found)

/-- The value meets the condition that its text makes. -/
theorem met_equal_printed (h : v.HasLiteral) :
    (Condition.equals (.ofLiteral v.display)).assertion.Met (some v) :=
  ⟨v, v, rfl, rfl, (Value.looseEq_ofLiteral_display h).2⟩

/-- **What the probe command prints can be asked for.**  If a value has a literal, then that is read
as something that is loosely equal to it; and with a configuration that can be used

* a probe that is ended by a response with the value prints it, whatever was waited for;
* what was printed can be given to `--equals` in another probe of the property.  This exits with 0 if
  one of the responses that it can get in time has the value.  If the first one has, it prints the
  same line. -/
theorem equals_printed (v : Value) (hv : v.HasLiteral) :
    Value.looseEq (.ofLiteral v.display) v = true ∧
      ∀ (config : Config) (env : Environment) (command : ProbeCommand) (condition : Condition)
        (b b' : Bench), config.problem? = none → command.choice.condition = .ok condition →
        let n := config.probe.timeoutMillis / config.probe.intervalMillis
        let printed := probeLabel (probeOf config (.system ⟨config.callTimeout⟩) command)
          ++ " = " ++ v.display
        let words := equalsWords command.object command.interface command.property v.display
        let answers := Answers b.processes.responses condition.assertion
        let responses := b'.processes.responses
        (∀ k < n, answers k (some v) → (∀ j < k, ∀ other, ¬ answers j other) →
          ∃ t, runCommand config env (.probe command) b = (.done 0, Bench.withLine printed t)) ∧
        ∃ again, Invocation.parse words = .ok { command := .probe again } ∧
          let run := runCommand config env (.probe again) b'
          (∀ k < n, ∀ out, responses[k]? = some (.ok out) → Busctl.Says out (some v) →
            run.1 = .done 0) ∧
          ∀ out, responses[0]? = some (.ok out) → Busctl.Says out (some v) →
            ∃ t, run = (.done 0, Bench.withLine printed t) := by
  refine ⟨(Value.looseEq_ofLiteral_display hv).1, ?_⟩
  intro config env command condition b b' accepted given n printed words answers responses
  let again : ProbeCommand := { command with
    choice := { equals := some v.display }
    timeoutMillis := none }
  have given' : again.choice.condition = .ok (.equals (.ofLiteral v.display)) := rfl
  have hmet := met_equal_printed hv
  refine ⟨fun k hk hanswers hearlier => ?_, again, parse_equals, fun k hk out hout hsays => ?_,
    fun out hout hsays => ?_⟩
  · obtain ⟨k', hle, found, t, hanswers', hrun⟩ := runProbe_of_answers accepted given hk hanswers
    obtain rfl : k' = k := by
      by_contra hne
      exact hearlier k' (by omega) found hanswers'
    obtain rfl := hanswers.unique hanswers'
    exact ⟨t, hrun⟩
  · obtain ⟨_, _, _, _, _, hrun⟩ :=
      runProbe_of_answers accepted given' hk ⟨out, hout, hsays, hmet⟩
    exact congrArg Prod.fst hrun
  · have hanswers : Answers responses _ 0 (some v) := ⟨out, hout, hsays, hmet⟩
    have hattempt : 0 < n := (Config.attempts_fit accepted).1
    obtain ⟨k', hle, found, t, hanswers', hrun⟩ :=
      runProbe_of_answers accepted given' hattempt hanswers
    obtain rfl : k' = 0 := Nat.le_zero.1 hle
    obtain rfl := hanswers.unique hanswers'
    exact ⟨t, hrun⟩

/-! ### The least integer -/

/-- A reply with the least integer of 64 bits, in a variant. -/
def leastReply : ProcessOutput where
  output := "\x7b\"type\":\"v\",\"data\":\x7b\"type\":\"x\",\"data\":-9223372036854775808\x7d\x7d"

theorem says_leastReply :
    ∃ v, Busctl.Says leastReply (some v) ∧ v.integer? = some (-9223372036854775808) := by
  have hread : ((Busctl.propertyOf ⟨"", ""⟩ "" "" leastReply).toOption.bind fun found =>
      found.bind Value.integer?) = some (-9223372036854775808) := by
    decide +kernel
  obtain ⟨found, hfound, h⟩ := Option.bind_eq_some_iff.1 hread
  obtain ⟨v, rfl, hv⟩ := Option.bind_eq_some_iff.1 h
  cases hproperty : Busctl.propertyOf ⟨"", ""⟩ "" "" leastReply with
  | error failure =>
    rw [hproperty] at hfound
    cases hfound
  | ok found =>
    rw [hproperty] at hfound
    cases hfound
    exact ⟨v, Busctl.propertyOf_eq_ok_iff.1 hproperty, hv⟩

/-- Waits until a property is there. -/
def appearing : ProbeCommand where
  object := "block_devices/sda"
  interface := ".Block"
  property := "Size"
  choice := { present := true }

/-- The least integer is printed with a dash in front, and asked for so. -/
theorem equals_printed_least :
    ({} : Config).problem? = none ∧ appearing.choice.condition = .ok .present ∧
      let b : Bench := { processes := { responses := [.ok leastReply] } }
      let printed := probeLabel (probeOf {} (.system ⟨({} : Config).callTimeout⟩) appearing)
        ++ " = " ++ "-9223372036854775808"
      ∃ v : Value, v.HasLiteral ∧ v.integer? = some (-9223372036854775808) ∧ ∃ t t' again,
        runCommand {} [] (.probe appearing) b = (.done 0, Bench.withLine printed t) ∧
        Invocation.parse ["probe", "--object=block_devices/sda", "--interface=.Block",
          "--property=Size", "--equals=-9223372036854775808"] = .ok { command := .probe again } ∧
        runCommand {} [] (.probe again) b = (.done 0, Bench.withLine printed t') := by
  have accepted : ({} : Config).problem? = none := by decide +kernel
  have given : appearing.choice.condition = .ok .present := rfl
  refine ⟨accepted, given, ?_⟩
  intro b printed
  obtain ⟨v, hsays, hv⟩ := says_leastReply
  have hdisplay : v.display = "-9223372036854775808" := by
    rw [Value.display_of_integer? hv]
    decide +kernel
  have hliteral : v.HasLiteral := .of_integer? hv
  have h := (equals_printed v hliteral).2 {} [] appearing .present b b accepted given
  rw [hdisplay] at h
  obtain ⟨hprinted, again, hparse, -, hagain⟩ := h
  obtain ⟨t, hprinted⟩ := hprinted 0 (by decide) ⟨_, rfl, hsays, _, rfl⟩ nofun
  obtain ⟨t', hagain⟩ := hagain leastReply rfl hsays
  exact ⟨v, hliteral, hv, t, t', again, hprinted, hparse, hagain⟩

end BusTrial.CommandLine
