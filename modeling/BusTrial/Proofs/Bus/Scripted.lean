import BusTrial.Bus.Scripted
import Mathlib.Data.List.ReduceOption
import Mathlib.Tactic.Common

/-!
# What a bus in memory replays

A bus in memory is scripted, read and called in any order.  Each property and each method has a queue
of its own; a read takes a reply off its queue unless it is the last one, and a call takes one if there
is any.

* `getProperty_fst`, `properties_getProperty`, `callMethod_fst`, `pending_callMethod` — what one read and
  one call do to the queues;
* `Step.properties_apply`, `Step.pending_apply` — what any step does to them;
* `properties_after`, `pending_after` — so a queue can be told from what was done with its key;
* **`replays`** — and with it every answer.
-/

namespace BusTrial

namespace ScriptedBus

/-! ## One step -/

/-- What a read leaves of the replies of a property: the last one stays. -/
def advance (replies : List Reply) : List Reply :=
  if replies.length ≤ 1 then replies else replies.tail

/-- The replies of a method that wait to be handed out. -/
def pending (key : MemberKey) (b : ScriptedBus) : List (Except String (List Value)) :=
  (b.replies.get? key).getD []

/-- The end of the call that a reply is handed out to. -/
def replied : Except String (List Value) → Outcome (List Value)
  | .ok values => .done values
  | .error text => .failed (.bus text)

section

variable (object : ObjectRef) (interface member : String) (arguments : List Value) (key : MemberKey)
  (b : ScriptedBus)

/-- A read is answered with the reply in front of the row for the property, or that it is not there.
-/
theorem getProperty_fst :
    (getProperty object interface member b).1
      = ((b.properties.get? ⟨object.path, interface, member⟩).bind List.head?).elim (.done none)
          Reply.outcome := by
  rw [getProperty]
  rcases b.properties.get? ⟨object.path, interface, member⟩ with
    _ | (_ | ⟨reply, _ | ⟨next, rest⟩⟩) <;> simp

/-- A read takes the reply in front away, unless it is the last one, and leaves other properties
alone. -/
theorem properties_getProperty :
    (getProperty object interface member b).2.properties.get? key
      = if ⟨object.path, interface, member⟩ = key then (b.properties.get? key).map advance
        else b.properties.get? key := by
  rw [getProperty]
  by_cases hkey : ⟨object.path, interface, member⟩ = key
  · subst hkey
    rcases hqueue : b.properties.get? ⟨object.path, interface, member⟩ with
      _ | (_ | ⟨reply, _ | ⟨next, rest⟩⟩) <;> simp [hqueue, script, Table.get?_set, advance]
  · rcases b.properties.get? ⟨object.path, interface, member⟩ with
      _ | (_ | ⟨reply, _ | ⟨next, rest⟩⟩) <;> simp [script, Table.get?_set, hkey]

/-- A call is answered with the reply in front of the queue for the method, or with no values. -/
theorem callMethod_fst :
    (callMethod object interface member arguments b).1
      = (pending ⟨object.path, interface, member⟩ b).head?.elim (.done []) replied := by
  rw [callMethod, pending]
  rcases b.replies.get? ⟨object.path, interface, member⟩ with
    _ | (_ | ⟨_ | _, rest⟩) <;> simp [replied]

/-- A call takes the reply in front away, and leaves other methods alone. -/
theorem pending_callMethod :
    pending key (callMethod object interface member arguments b).2
      = if ⟨object.path, interface, member⟩ = key then (pending key b).tail
        else pending key b := by
  rw [callMethod, pending, pending]
  by_cases hkey : ⟨object.path, interface, member⟩ = key
  · subst hkey
    rcases hqueue : b.replies.get? ⟨object.path, interface, member⟩ with
      _ | (_ | ⟨_ | _, rest⟩) <;> simp [hqueue, Table.get?_set]
  · rcases b.replies.get? ⟨object.path, interface, member⟩ with
      _ | (_ | ⟨_ | _, rest⟩) <;> simp [Table.get?_set, hkey]

/-- A read leaves all queues alone. -/
theorem pending_getProperty :
    pending key (getProperty object interface member b).2 = pending key b := by
  rw [getProperty]
  rcases b.properties.get? ⟨object.path, interface, member⟩ with
    _ | (_ | ⟨reply, _ | ⟨next, rest⟩⟩) <;> rfl

/-- A read is counted. -/
theorem fetches_getProperty :
    (getProperty object interface member b).2.fetches = b.fetches + 1 := by
  rw [getProperty]
  rcases b.properties.get? ⟨object.path, interface, member⟩ with
    _ | (_ | ⟨reply, _ | ⟨next, rest⟩⟩) <;> rfl

/-- A call touches neither the properties nor the number of reads. -/
theorem callMethod_frame :
    (callMethod object interface member arguments b).2.properties = b.properties ∧
      (callMethod object interface member arguments b).2.fetches = b.fetches := by
  rw [callMethod]
  rcases b.replies.get? ⟨object.path, interface, member⟩ with
    _ | (_ | ⟨_ | _, rest⟩) <;> exact ⟨rfl, rfl⟩

/-- A description is read off the bus as it is. -/
theorem introspect_snd : (introspect object b).2 = b := by
  rw [introspect]
  split <;> rfl

end

/-! ## Any step -/

/-- Something that is done to a bus in memory. -/
inductive Step where
  | script (key : MemberKey) (replies : List Reply)
  | queueReply (key : MemberKey) (reply : Except String (List Value))
  | describe (path xml : String)
  | read (object : ObjectRef) (interface property : String)
  | call (object : ObjectRef) (interface method : String) (arguments : List Value)
  | introspect (object : ObjectRef)

namespace Step

/-- Does it. -/
def apply : Step → ScriptedBus → ScriptedBus
  | .script key replies, b => b.script key replies
  | .queueReply key reply, b => b.queueReply key reply
  | .describe path xml, b => b.describe path xml
  | .read object interface property, b => (getProperty object interface property b).2
  | .call object interface method arguments, b => (callMethod object interface method arguments b).2
  | .introspect object, b => (ScriptedBus.introspect object b).2

/-- The replies that a property is scripted with. -/
def scripted? (key : MemberKey) : Step → Option (List Reply)
  | .script k replies => if k = key then some replies else none
  | _ => none

/-- The reply that is queued for a method. -/
def queued? (key : MemberKey) : Step → Option (Except String (List Value))
  | .queueReply k reply => if k = key then some reply else none
  | _ => none

/-- A property is read. -/
def reads (key : MemberKey) : Step → Bool
  | .read object interface property => decide (⟨object.path, interface, property⟩ = key)
  | _ => false

/-- A method is called. -/
def calls (key : MemberKey) : Step → Bool
  | .call object interface method _ => decide (⟨object.path, interface, method⟩ = key)
  | _ => false

/-- What a call of a method is answered. -/
def answered? (key : MemberKey) (b : ScriptedBus) : Step → Option (Outcome (List Value))
  | .call object interface method arguments =>
    if ⟨object.path, interface, method⟩ = key then
      some (callMethod object interface method arguments b).1
    else none
  | _ => none

/-- Some property is read. -/
def isRead : Step → Bool
  | .read .. => true
  | _ => false

variable (step : Step) (key : MemberKey) (b : ScriptedBus)

/-- **The replies of a property are changed only by scripting it and by reading it.** -/
theorem properties_apply :
    (step.apply b).properties.get? key
      = (step.scripted? key <|>
          if step.reads key then (b.properties.get? key).map advance else b.properties.get? key) := by
  cases step with
  | script k replies => by_cases hk : k = key <;> simp [apply, scripted?, reads, ScriptedBus.script,
      Table.get?_set, hk]
  | read object interface property =>
    simp [apply, scripted?, reads, properties_getProperty]
  | call object interface method arguments =>
    simp [apply, scripted?, reads, (callMethod_frame object interface method arguments b).1]
  | queueReply | describe => rfl
  | introspect object => simp [apply, scripted?, reads, introspect_snd]

/-- **The replies of a method are changed only by queueing one and by calling it.** -/
theorem pending_apply :
    pending key (step.apply b)
      = (if step.calls key then (pending key b).tail else pending key b)
        ++ (step.queued? key).toList := by
  cases step with
  | queueReply k reply =>
    by_cases hk : k = key <;>
      simp [apply, queued?, calls, ScriptedBus.queueReply, pending, Table.get?_set, hk]
  | call object interface method arguments =>
    simp [apply, queued?, calls, pending_callMethod]
  | read object interface property =>
    simp [apply, queued?, calls, pending_getProperty]
  | script | describe => simp [apply, queued?, calls, pending, ScriptedBus.script, ScriptedBus.describe]
  | introspect object => simp [apply, queued?, calls, introspect_snd]

/-- A call is handed the first reply that waits, or no values. -/
theorem answered?_eq :
    step.answered? key b
      = if step.calls key then some ((pending key b).head?.elim (.done []) replied) else none := by
  cases step with
  | call object interface method arguments =>
    by_cases hkey : ⟨object.path, interface, method⟩ = key
    · subst hkey
      simp [answered?, calls, callMethod_fst]
    · simp [answered?, calls, hkey]
  | script | queueReply | describe | read | introspect => rfl

/-- A call queues nothing. -/
theorem queued?_of_calls (h : step.calls key = true) : step.queued? key = none := by
  cases step with
  | call => rfl
  | script | queueReply | describe | read | introspect => cases h

/-- Reads are counted, and nothing else is. -/
theorem fetches_apply :
    (step.apply b).fetches = b.fetches + if step.isRead then 1 else 0 := by
  cases step with
  | read object interface property => simp [apply, isRead, fetches_getProperty]
  | call object interface method arguments =>
    simp [apply, isRead, (callMethod_frame object interface method arguments b).2]
  | script | queueReply | describe => rfl
  | introspect object => simp [apply, isRead, introspect_snd]

end Step

/-! ## Histories -/

/-- What was done to a bus, the latest step first. -/
abbrev History : Type :=
  List Step

/-- The bus that a history leads to. -/
def after : History → ScriptedBus
  | [] => {}
  | step :: earlier => step.apply (after earlier)

/-- The replies queued for a method, the first one first. -/
def queued (key : MemberKey) : History → List (Except String (List Value))
  | [] => []
  | step :: earlier => queued key earlier ++ (step.queued? key).toList

/-- The number of replies that were handed out to calls of a method.  A call takes the next one, if it
is queued by then. -/
def taken (key : MemberKey) : History → Nat
  | [] => 0
  | step :: earlier =>
    if step.calls key then min (taken key earlier + 1) (queued key earlier).length
    else taken key earlier

/-- What the calls of a method were answered, the first one first. -/
def answers (key : MemberKey) : History → List (Outcome (List Value))
  | [] => []
  | step :: earlier => answers key earlier ++ (step.answered? key (after earlier)).toList

variable {key : MemberKey}

/-- No more replies are taken from a queue than were put into it. -/
theorem taken_le (key : MemberKey) (h : History) : taken key h ≤ (queued key h).length := by
  induction h with
  | nil => exact Nat.zero_le _
  | cons step earlier ih =>
    rw [taken, queued, List.length_append]
    split <;> omega

/-- **The replies that wait are those that were queued and not handed out.** -/
theorem pending_after (key : MemberKey) (h : History) :
    pending key (after h) = (queued key h).drop (taken key h) := by
  induction h with
  | nil => rfl
  | cons step earlier ih =>
    have hle := taken_le key earlier
    rw [after, Step.pending_apply, ih, taken, queued]
    split
    · rw [List.drop_append_of_le_length (Nat.min_le_right ..), List.tail_drop,
        ← List.drop_eq_drop_min]
    · rw [List.drop_append_of_le_length hle]

/-- **The replies that were handed out are the first ones that were queued**, each of them to one call
and in their order; every other call was handed none. -/
theorem exists_handed (key : MemberKey) (h : History) :
    ∃ handed : List (Option (Except String (List Value))),
      answers key h = handed.map (·.elim (.done []) replied) ∧
        handed.reduceOption = (queued key h).take (taken key h) := by
  induction h with
  | nil => exact ⟨[], rfl, rfl⟩
  | cons step earlier ih =>
    obtain ⟨handed, hanswers, hreplies⟩ := ih
    rw [answers, hanswers, Step.answered?_eq, pending_after, List.head?_drop, taken, queued]
    by_cases hcalls : step.calls key = true
    · refine ⟨handed ++ [(queued key earlier)[taken key earlier]?], by simp [hcalls], ?_⟩
      rw [if_pos hcalls, Step.queued?_of_calls _ _ hcalls, Option.toList_none, List.append_nil,
        ← List.take_eq_take_min, List.take_add_one, List.reduceOption_append, hreplies]
      cases (queued key earlier)[taken key earlier]? <;> rfl
    · refine ⟨handed, by simp [hcalls], ?_⟩
      rw [if_neg hcalls, List.take_append_of_le_length (taken_le key earlier), hreplies]

/-- After a history as many reads are counted as it holds. -/
theorem fetches_after (h : History) : (after h).fetches = h.countP Step.isRead := by
  induction h with
  | nil => rfl
  | cons step earlier ih => rw [after, Step.fetches_apply, ih, List.countP_cons]

/-- What was never scripted has no replies. -/
theorem properties_after_of_unscripted {h : History} (unscripted : ∀ step ∈ h, step.scripted? key = none) :
    (after h).properties.get? key = none := by
  induction h with
  | nil => rfl
  | cons step earlier ih =>
    obtain ⟨hstep, hearlier⟩ := List.forall_mem_cons.1 unscripted
    rw [after, Step.properties_apply, hstep, ih hearlier]
    simp

/-- A read of all but the first `i` replies leaves one less, but for the last one. -/
theorem advance_drop (i : Nat) (replies : List Reply) :
    advance (replies.drop (min i (replies.length - 1)))
      = replies.drop (min (i + 1) (replies.length - 1)) := by
  rw [advance, List.length_drop, List.tail_drop]
  split
  · congr 1
    omega
  · congr 1
    omega

/-- **The replies of a property are those that it was scripted with last, less one for each read
since**, but for the last one. -/
theorem properties_after {later earlier : History} {replies : List Reply}
    (latest : ∀ step ∈ later, step.scripted? key = none) :
    (after (later ++ .script key replies :: earlier)).properties.get? key
      = some (replies.drop (min (later.countP (Step.reads key)) (replies.length - 1))) := by
  induction later with
  | nil => simp [after, Step.properties_apply, Step.scripted?]
  | cons step later ih =>
    obtain ⟨hstep, hlater⟩ := List.forall_mem_cons.1 latest
    rw [List.cons_append, after, Step.properties_apply, hstep, ih hlater, List.countP_cons]
    by_cases hreads : step.reads key = true
    · simp [hreads, advance_drop]
    · simp [hreads]

/-! ## All that a bus answers -/

/-- **Each property and each method replays what it was given, whatever else is done to the bus.**

* A property that was never scripted is absent, and so is one that was last scripted with no replies.
  Otherwise the read after `i` reads since then finds the reply number `i`, counted from zero, or the
  last one if there are not as many.
* A call of a method is handed the first queued reply that no call before it was handed, and no values
  if there is none; so what the calls were handed are the first replies that were queued, in their order
  and once each.
* The reads are counted. -/
theorem replays (h : History) :
    (∀ object interface property,
      let key : MemberKey := ⟨object.path, interface, property⟩
      let answer := (getProperty object interface property (after h)).1
      ((∀ step ∈ h, step.scripted? key = none) → answer = .done none) ∧
      ∀ later earlier replies, h = later ++ .script key replies :: earlier →
        (∀ step ∈ later, step.scripted? key = none) →
        (replies = [] → answer = .done none) ∧
        (replies ≠ [] → ∃ reply,
          replies[min (later.countP (Step.reads key)) (replies.length - 1)]? = some reply ∧
            answer = reply.outcome)) ∧
    (∀ object interface method arguments,
      let key : MemberKey := ⟨object.path, interface, method⟩
      (callMethod object interface method arguments (after h)).1
        = (queued key h)[taken key h]?.elim (.done []) replied) ∧
    (∀ key, ∃ handed : List (Option (Except String (List Value))),
      answers key h = handed.map (·.elim (.done []) replied) ∧
        handed.reduceOption = (queued key h).take (taken key h)) ∧
    (after h).fetches = h.countP Step.isRead := by
  refine ⟨fun object interface property => ?_, fun object interface method arguments => ?_,
    fun key => exists_handed key h, fetches_after h⟩
  · intro key answer
    have hanswer : answer = (((after h).properties.get? key).bind List.head?).elim (.done none)
        Reply.outcome := getProperty_fst object interface property (after h)
    refine ⟨fun unscripted => ?_, ?_⟩
    · rw [hanswer, properties_after_of_unscripted unscripted]
      rfl
    · rintro later earlier replies rfl latest
      rw [properties_after latest, Option.bind_some, List.head?_drop] at hanswer
      refine ⟨?_, fun hne => ?_⟩
      · rintro rfl
        exact hanswer
      · have hlast : min (later.countP (Step.reads key)) (replies.length - 1) < replies.length := by
          have hpos := List.length_pos_iff.2 hne
          omega
        rw [List.getElem?_eq_getElem hlast] at hanswer ⊢
        exact ⟨_, rfl, hanswer⟩
  · intro key
    rw [callMethod_fst, pending_after, List.head?_drop]

/-! ### A disk that settles -/

/-- A disk. -/
def disk : ObjectRef :=
  ⟨"org.example", "/disk"⟩

/-- The size of the disk. -/
def size : MemberKey :=
  ⟨"/disk", "org.example.Block", "Size"⟩

/-- The size cannot be read at first. -/
def sizes : List Reply :=
  [.error "not yet", .value (some (.uint64 1))]

/-- The size is read twice, while other things are done to the bus. -/
def meanwhile : History :=
  [.read disk "org.example.Block" "Size",
    .script ⟨"/disk", "org.example.Block", "Label"⟩ [],
    .call disk "org.example.Block" "Format" [.bool true],
    .read disk "org.example.Block" "Size",
    .queueReply ⟨"/disk", "org.example.Block", "Format"⟩ (.ok [.string "done"])]

/-- The third read finds the last reply once more, and the second call is handed no values. -/
theorem replays_settled :
    (∀ step ∈ meanwhile, step.scripted? size = none) ∧ sizes ≠ [] ∧
      (getProperty disk "org.example.Block" "Size" (after (meanwhile ++ [.script size sizes]))).1
        = .done (some (.uint64 1)) ∧
      (callMethod disk "org.example.Block" "Format" []
        (after (meanwhile ++ [.script size sizes]))).1 = .done [] := by
  have latest : ∀ step ∈ meanwhile, step.scripted? size = none := by
    simp [meanwhile, Step.scripted?, size]
  have hne : sizes ≠ [] := List.cons_ne_nil _ _
  have hreads : meanwhile.countP (Step.reads size) = 2 := by decide +kernel
  obtain ⟨hproperties, hmethods, -⟩ := replays (meanwhile ++ [.script size sizes])
  obtain ⟨reply, hreply, hanswer⟩ :=
    ((hproperties disk "org.example.Block" "Size").2 meanwhile [] sizes rfl latest).2 hne
  refine ⟨latest, hne, ?_, hmethods disk "org.example.Block" "Format" []⟩
  have hcount : meanwhile.countP
      (Step.reads ⟨disk.path, "org.example.Block", "Size"⟩) = 2 := hreads
  rw [hcount] at hreply
  obtain rfl : Reply.value (some (.uint64 1)) = reply := Option.some.inj hreply
  exact hanswer

end ScriptedBus

end BusTrial
