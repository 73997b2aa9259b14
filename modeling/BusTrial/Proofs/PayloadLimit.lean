import BusTrial.Proofs.RunLog

/-!
# How long a written payload is

A payload whose text exceeds the limit is cut so that the start of the text and three dots keep to the
limit.  The result is then written as a string, which puts it between quotes and escapes the quotes and
backslashes in it once more.

* `utf8Len_quotedChars` — on a text without control characters, quoting adds one byte for each
  character that is escaped;
* `size_render_truncate` — so a payload that is cut takes up five bytes more than what is kept of its
  text, and one more for each escape;
* `size_le_twice` — which is less than twice the limit;
* `utf8Len_kept` — where all characters have one byte, what is kept leaves no room at all;
* **`limit_kept_iff`** — the limit is kept to exactly by the payloads that are not cut, and by those
  that are cut short enough for the quotes and the escapes;
* `limit_exceeded` — a payload that is cut and still exceeds the limit.
-/

namespace BusTrial

/-! ## Texts of single bytes -/

namespace Text

variable {cs : List Char}

theorem utf8Len_of_single (h : ∀ c ∈ cs, c.utf8Size = 1) : String.utf8Len cs = cs.length := by
  induction cs with
  | nil => rfl
  | cons c cs ih =>
    obtain ⟨hc, hcs⟩ := List.forall_mem_cons.1 h
    rw [String.utf8Len_cons, ih hcs, hc, List.length_cons]

theorem takeBytes_of_single (budget : Nat) (h : ∀ c ∈ cs, c.utf8Size = 1) :
    takeBytes budget cs = cs.take budget := by
  induction cs generalizing budget with
  | nil => exact List.take_nil.symm
  | cons c cs ih =>
    obtain ⟨hc, hcs⟩ := List.forall_mem_cons.1 h
    rw [takeBytes, hc, ih _ hcs]
    cases budget <;> simp

end Text

/-! ## Quoting -/

namespace Json

/-- The number of quotes and backslashes. -/
def escapes (cs : List Char) : Nat :=
  cs.countP fun c => c == '"' || c == '\\'

variable {cs : List Char}

theorem escapes_cons (c : Char) (cs : List Char) :
    escapes (c :: cs) = escapes cs + if c == '"' || c == '\\' then 1 else 0 :=
  List.countP_cons

theorem escapes_append (cs ds : List Char) : escapes (cs ++ ds) = escapes cs + escapes ds :=
  List.countP_append

theorem escapes_le (cs : List Char) : escapes cs ≤ String.utf8Len cs := by
  induction cs with
  | nil => exact Nat.zero_le _
  | cons c cs ih =>
    have hsize := c.utf8Size_pos
    rw [String.utf8Len_cons, escapes_cons]
    split <;> omega

/-- A character that is no control character is written in as many bytes as it has, and one more if it
is escaped. -/
theorem utf8Len_quotedChars_single {c : Char} (h : 0x20 ≤ c.toNat) :
    String.utf8Len (if isPlain c then [c] else escape c)
      = c.utf8Size + if c == '"' || c == '\\' then 1 else 0 := by
  by_cases hquote : c = '"'
  · subst hquote
    rfl
  · by_cases hslash : c = '\\'
    · subst hslash
      rfl
    · have hplain : isPlain c = true := by simp [isPlain, hquote, hslash, h]
      simp [hplain, hquote, hslash, String.utf8Len_cons]

/-- **Quoting adds a byte for each escape** if there are no control characters. -/
theorem utf8Len_quotedChars (h : Inline cs) :
    String.utf8Len (quotedChars cs) = String.utf8Len cs + escapes cs := by
  induction cs with
  | nil => rfl
  | cons c cs ih =>
    obtain ⟨hc, hcs⟩ := List.forall_mem_cons.1 h
    have hrest := ih hcs
    rw [quotedChars] at hrest ⊢
    rw [List.flatMap_cons, String.utf8Len_append, hrest, utf8Len_quotedChars_single hc,
      String.utf8Len_cons, escapes_cons]
    omega

theorem utf8ByteSize_quote {text : String} (h : Inline text.toList) :
    (quote text).utf8ByteSize = text.utf8ByteSize + escapes text.toList + 2 := by
  have hmark : "\"".utf8ByteSize = 1 := rfl
  rw [quote, String.utf8ByteSize_append, String.utf8ByteSize_append, hmark,
    String.utf8ByteSize_ofList, utf8Len_quotedChars h, String.utf8Len_toList]
  omega

end Json

/-! ## Payloads -/

namespace LogEvent

variable {limit : Nat} {payload : Json}

/-- What is kept of the text of a payload that is cut. -/
def kept (limit : Nat) (payload : Json) : List Char :=
  Text.takeBytes (limit - 3) payload.render.toList

theorem truncate_of_fits (h : payload.render.utf8ByteSize ≤ limit) :
    truncate limit payload = payload :=
  if_pos h

theorem truncate_of_exceeds (h : limit < payload.render.utf8ByteSize) :
    truncate limit payload = .string (.ofList (kept limit payload) ++ "...") :=
  if_neg (Nat.not_le.2 h)

theorem utf8Len_kept_le (limit : Nat) (payload : Json) :
    String.utf8Len (kept limit payload) ≤ limit - 3 :=
  Text.utf8Len_takeBytes_le _ _

/-- **A payload that is cut takes up five bytes more than what is kept of it, and one more for each
escape.** -/
theorem size_render_truncate (h : limit < payload.render.utf8ByteSize) :
    (truncate limit payload).render.utf8ByteSize
      = String.utf8Len (kept limit payload) + Json.escapes (kept limit payload) + 5 := by
  have hinline : Inline (kept limit payload) := fun c hc =>
    Json.inline_render payload c ((Text.takeBytes_prefix _ _).subset hc)
  have hdots : "...".toList = ['.', '.', '.'] := rfl
  have htext : Inline (String.ofList (kept limit payload) ++ "...").toList := by
    rw [String.toList_append, String.toList_ofList]
    exact hinline.append (by decide)
  rw [truncate_of_exceeds h, Json.render, Json.utf8ByteSize_quote htext, String.utf8ByteSize_append,
    String.utf8ByteSize_ofList, String.toList_append, String.toList_ofList, Json.escapes_append]
  show _ + 3 + (_ + 0) + 2 = _
  omega

/-- Where all characters have one byte, what is kept leaves no room for anything but the dots. -/
theorem utf8Len_kept (hsingle : ∀ c ∈ payload.render.toList, c.utf8Size = 1)
    (h : limit < payload.render.utf8ByteSize) :
    String.utf8Len (kept limit payload) = limit - 3 := by
  have hlength : limit < payload.render.toList.length := by
    rwa [← Text.utf8Len_of_single hsingle, String.utf8Len_toList]
  rw [kept, Text.takeBytes_of_single _ hsingle,
    Text.utf8Len_of_single fun c hc => hsingle c (List.mem_of_mem_take hc), List.length_take]
  omega

/-- A payload that is cut takes up less than twice the limit. -/
theorem size_le_twice (room : 3 ≤ limit) (h : limit < payload.render.utf8ByteSize) :
    (truncate limit payload).render.utf8ByteSize ≤ 2 * limit - 1 := by
  have hkept := utf8Len_kept_le limit payload
  have hescapes := Json.escapes_le (kept limit payload)
  rw [size_render_truncate h]
  omega

end LogEvent

namespace RunLog

open LogEvent (kept)

/-- **A payload keeps to the limit if it is not cut, or if the cut leaves room for the quotes and the
escapes of a string.**  What is appended to a log file for an event is its level, its type and the text
that its payload is written as.  That is the text of the payload itself if that has no more bytes than
the limit.  Otherwise it is a string of the start of that text and three dots, of which only the start
and the dots keep to the limit; with the quotes and escapes it is shorter than twice the limit.  If all
characters have one byte, then every payload that is cut exceeds the limit. -/
theorem limit_kept_iff (l : RunLog) (p : FilePath) (limit : Nat) (e : LogEvent) (room : 5 ≤ limit) :
    let text := e.payload.render
    let start := kept limit e.payload
    ∃ written : String,
      (l.append p limit e).textOf p
        = l.textOf p ++ ("\x7b\"level\":" ++ Json.quote e.level ++ ",\"event_type\":"
          ++ Json.quote e.kind ++ ",\"payload\":" ++ written ++ "\x7d\n") ∧
      (text.utf8ByteSize ≤ limit → written = text) ∧
      (limit < text.utf8ByteSize → written = Json.quote (.ofList start ++ "...") ∧
        written.utf8ByteSize = String.utf8Len start + Json.escapes start + 5 ∧
        String.utf8Len start + 3 ≤ limit ∧ written.utf8ByteSize ≤ 2 * limit - 1) ∧
      (written.utf8ByteSize ≤ limit ↔ text.utf8ByteSize ≤ limit ∨
        String.utf8Len start + Json.escapes start + 5 ≤ limit) ∧
      ((∀ c ∈ text.toList, c.utf8Size = 1) →
        (written.utf8ByteSize ≤ limit ↔ text.utf8ByteSize ≤ limit)) := by
  intro text start
  have hline : (l.append p limit e).textOf p
      = l.textOf p ++ ("\x7b\"level\":" ++ Json.quote e.level ++ ",\"event_type\":"
        ++ Json.quote e.kind ++ ",\"payload\":" ++ (LogEvent.truncate limit e.payload).render
        ++ "\x7d\n") := by
    have hend : "\x7d\n" = "\x7d" ++ "\n" := rfl
    rw [textOf_append, LogEvent.line, hend]
    simp only [String.append_assoc]
  refine ⟨_, hline, ?_⟩
  rcases Nat.lt_or_ge limit text.utf8ByteSize with exceeds | fits
  · have hstart : String.utf8Len start ≤ limit - 3 := LogEvent.utf8Len_kept_le limit e.payload
    have hsize : _ = String.utf8Len start + Json.escapes start + 5 :=
      LogEvent.size_render_truncate exceeds
    have htwice := LogEvent.size_le_twice (by omega) exceeds
    rw [LogEvent.truncate_of_exceeds exceeds] at hsize htwice ⊢
    refine ⟨fun fits => absurd fits (by omega),
      fun _ => ⟨by rw [Json.render], hsize, by omega, htwice⟩, by omega, fun hsingle => ?_⟩
    have hfull : String.utf8Len start = limit - 3 := LogEvent.utf8Len_kept hsingle exceeds
    omega
  · rw [LogEvent.truncate_of_fits fits]
    exact ⟨fun _ => rfl, fun exceeds => absurd fits (by omega), ⟨fun _ => .inl fits, fun _ => fits⟩,
      fun _ => Iff.rfl⟩

/-- A cut in front of a character of four bytes leaves room for two quotes and an escape. -/
theorem limit_kept_iff_wide :
    5 ≤ 7 ∧ 7 < (Json.render (.string "😀😀")).utf8ByteSize ∧ ∃ written,
      (({} : RunLog).append ⟨"/run.jsonl"⟩ 7
        ⟨"info", "probe.read", .string "😀😀"⟩).textOf ⟨"/run.jsonl"⟩
          = ({} : RunLog).textOf ⟨"/run.jsonl"⟩ ++ ("\x7b\"level\":" ++ Json.quote "info"
            ++ ",\"event_type\":" ++ Json.quote "probe.read" ++ ",\"payload\":" ++ written
            ++ "\x7d\n") ∧
      written = Json.quote (.ofList ['"'] ++ "...") ∧ written.utf8ByteSize ≤ 7 := by
  have room : 5 ≤ 7 := by decide
  have exceeds : 7 < (Json.render (.string "😀😀")).utf8ByteSize := by decide +kernel
  have hkept : kept 7 (.string "😀😀") = ['"'] := by decide +kernel
  obtain ⟨written, hline, -, hcut, hwithin, -⟩ := limit_kept_iff {} ⟨"/run.jsonl"⟩ 7
    ⟨"info", "probe.read", .string "😀😀"⟩ room
  rw [hkept] at hcut hwithin
  exact ⟨room, exceeds, written, hline, (hcut exceeds).1, hwithin.2 (.inr (by decide))⟩

/-- A list of one number exceeds a limit of five bytes by two, once its start is put between quotes. -/
theorem limit_exceeded :
    5 ≤ 5 ∧ (({} : RunLog).append ⟨"/run.jsonl"⟩ 5
        ⟨"info", "probe.read", .array [.int 1111111]⟩).textOf ⟨"/run.jsonl"⟩
      = "\x7b\"level\":\"info\",\"event_type\":\"probe.read\",\"payload\":" ++ "\"[1...\""
        ++ "\x7d\n" ∧
      ¬ "\"[1...\"".utf8ByteSize ≤ 5 := by
  decide +kernel

end RunLog

end BusTrial
