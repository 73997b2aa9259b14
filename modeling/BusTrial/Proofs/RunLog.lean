import BusTrial.Device.RunLog
import BusTrial.Proofs.Json.Printing
import BusTrial.Proofs.Json.RoundTrip
import BusTrial.Proofs.Text

/-!
# The run log keeps one event per line

* `line_eq_render` — a line is an object with three members, the last of which is the payload or a
  cut of its text (`Shortened`);
* `inline_line` — it has no line feed in it, whatever the texts in the event are;
* `parse_line` — the members can be read back off it;
* `textOf_appendAll`, **`keeps_lines`** — a log file grows by the lines of the events that go to it,
  and what is added is taken apart into just these lines.
-/

namespace BusTrial

namespace LogEvent

/-! ## Payloads -/

/-- What is written for a payload: the payload, or the longest start of its text that leaves room for
three dots. -/
inductive Shortened (limit : Nat) (payload : Json) : Json → Prop
  | whole (fits : payload.render.utf8ByteSize ≤ limit) : Shortened limit payload payload
  | cut {kept : List Char} (exceeds : limit < payload.render.utf8ByteSize)
      (start : kept <+: payload.render.toList) (fits : String.utf8Len kept ≤ limit - 3)
      (longest : ∀ other, other <+: payload.render.toList → String.utf8Len other ≤ limit - 3 →
        other.length ≤ kept.length) : Shortened limit payload (.string (.ofList kept ++ "..."))

theorem shortened_truncate (limit : Nat) (payload : Json) :
    Shortened limit payload (truncate limit payload) := by
  rw [truncate]
  split
  · exact .whole ‹_›
  · exact .cut (by omega) (Text.takeBytes_prefix _ _) (Text.utf8Len_takeBytes_le _ _)
      fun other hother hfits => (Text.prefix_takeBytes hother hfits).length_le

/-! ## Lines -/

/-- The members of the object that a line is. -/
def members (limit : Nat) (e : LogEvent) : List (String × Json) :=
  [("level", .string e.level), ("event_type", .string e.kind),
    ("payload", truncate limit e.payload)]

theorem line_eq_render (limit : Nat) (e : LogEvent) :
    e.line limit = Json.render (.object (e.members limit)) := by
  have hlevel : "\x7b\"level\":" = "\x7b" ++ (Json.quote "level" ++ ":") := by decide +kernel
  have hkind : ",\"event_type\":" = "," ++ (Json.quote "event_type" ++ ":") := by decide +kernel
  have hpayload : ",\"payload\":" = "," ++ (Json.quote "payload" ++ ":") := by decide +kernel
  simp only [line, members, Json.render, Json.renderMembers, hlevel, hkind, hpayload,
    String.append_assoc]

/-- **A line has no control character in it.** -/
theorem inline_line (limit : Nat) (e : LogEvent) : Inline (e.line limit).toList := by
  rw [line_eq_render]
  exact Json.inline_render _

theorem isLine_line (limit : Nat) (e : LogEvent) : Text.IsLine (e.line limit).toList := by
  refine ⟨(inline_line limit e).no_lineFeed, fun hlast => ?_⟩
  have hlow := inline_line limit e '\r' (List.mem_of_getLast? hlast)
  revert hlow
  decide

/-- **The members are read back off a line**, if the payload that is written can be read back. -/
theorem parse_line {limit : Nat} {e : LogEvent}
    (exact : Json.Exact 126 (truncate limit e.payload)) :
    Json.parse (e.line limit) = .ok (.ofMembers (e.members limit)) := by
  rw [line_eq_render]
  refine Json.parse_render_object ?_
  simpa [members] using ⟨Json.Exact.string 126 e.level, Json.Exact.string 126 e.kind, exact⟩

end LogEvent

namespace RunLog

variable {p q : FilePath} {limit : Nat}

theorem textOf_append (p : FilePath) (limit : Nat) (e : LogEvent) (l : RunLog) :
    (l.append p limit e).textOf p = l.textOf p ++ (e.line limit ++ "\n") := by
  rw [textOf, append, Table.get?_set, if_pos rfl, Option.getD_some, String.append_assoc]

theorem textOf_append_of_ne (h : p.key ≠ q.key) (e : LogEvent) (l : RunLog) :
    (l.append p limit e).textOf q = l.textOf q := by
  rw [textOf, append, Table.get?_set, if_neg h, textOf]

/-- The log after events were appended to a file. -/
def appendAll (p : FilePath) (limit : Nat) (events : List LogEvent) (l : RunLog) : RunLog :=
  events.foldl (fun l e => l.append p limit e) l

theorem textOf_appendAll (p : FilePath) (limit : Nat) (events : List LogEvent) (l : RunLog) :
    (l.appendAll p limit events).textOf p
      = l.textOf p ++ String.join ((events.map (LogEvent.line limit)).map (· ++ "\n")) := by
  induction events generalizing l with
  | nil => simp [appendAll]
  | cons e events ih =>
    have hrest := ih (l.append p limit e)
    rw [appendAll] at hrest ⊢
    rw [List.foldl_cons, hrest, textOf_append, List.map_cons, List.map_cons, String.join_cons,
      String.append_assoc]

theorem textOf_appendAll_of_ne (h : p.key ≠ q.key) (events : List LogEvent) (l : RunLog) :
    (l.appendAll p limit events).textOf q = l.textOf q := by
  induction events generalizing l with
  | nil => rfl
  | cons e events ih => exact (ih (l.append p limit e)).trans (textOf_append_of_ne h e l)

/-- Events that are noted go to the destination. -/
theorem foldl_note (events : List LogEvent) {l : RunLog} (h : l.destination = some p) :
    events.foldl (fun l e => EventLog.note e l) l
      = l.appendAll p LogEvent.defaultLimit events := by
  induction events generalizing l with
  | nil => rfl
  | cons e events ih =>
    have hnote : EventLog.note e l = l.append p LogEvent.defaultLimit e := by
      show note e l = _
      rw [note, h]
    rw [List.foldl_cons, hnote]
    exact ih (l := l.append p LogEvent.defaultLimit e) h

/-- **A log file keeps one event per line.**  However many events are appended, and whatever their
texts are, what is added to the file is a line for each of them in their order, with a line feed behind
it and none in it, and other files are left alone.  The line is the object of the level, the type and
the payload, where the text of a payload that exceeds the limit is cut.  It can be read back as that
object, unless the payload in it is one that no text of JSON keeps: nested too deep, or with a number
that is not an integer of 64 bits.  Events that are noted go to the destination in this way. -/
theorem keeps_lines (l : RunLog) (p : FilePath) (limit : Nat) (events : List LogEvent) :
    let after := l.appendAll p limit events
    ∃ added, after.textOf p = l.textOf p ++ added ∧
      added = String.join (events.map fun e => e.line limit ++ "\n") ∧
      Text.lines added = events.map (LogEvent.line limit) ∧
      (∀ q, p.key ≠ q.key → after.textOf q = l.textOf q) ∧
      (∀ e ∈ events, '\n' ∉ (e.line limit).toList ∧
        ∃ payload, LogEvent.Shortened limit e.payload payload ∧
          let members := [("level", .string e.level), ("event_type", .string e.kind),
            ("payload", payload)]
          e.line limit = Json.render (.object members) ∧
            (Json.Exact 126 payload → Json.parse (e.line limit) = .ok (.ofMembers members))) ∧
      (limit = LogEvent.defaultLimit → l.destination = some p →
        events.foldl (fun l e => EventLog.note e l) l = after) := by
  intro after
  have hlines : ∀ line ∈ events.map (LogEvent.line limit), Text.IsLine line.toList := by
    intro line hline
    obtain ⟨e, -, rfl⟩ := List.mem_map.1 hline
    exact e.isLine_line limit
  refine ⟨_, textOf_appendAll p limit events l, by rw [List.map_map]; rfl, Text.lines_join hlines,
    fun q hq => textOf_appendAll_of_ne hq events l, fun e _ => ?_, ?_⟩
  · exact ⟨(e.inline_line limit).no_lineFeed, _, LogEvent.shortened_truncate limit e.payload,
      e.line_eq_render limit, LogEvent.parse_line⟩
  · rintro rfl hdestination
    exact foldl_note events hdestination

/-- A cut falls between two characters, and the text that is kept is escaped once more. -/
example : (LogEvent.line 10 ⟨"info", "a\nb", .string "ééééé"⟩)
    = "\x7b\"level\":\"info\",\"event_type\":\"a\\nb\",\"payload\":\"\\\"ééé...\"\x7d" := by
  decide +kernel

end RunLog

end BusTrial
