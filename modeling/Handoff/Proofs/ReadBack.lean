/-
A serial log says which records were written.

A line is cut at three places when it is read: at the newline behind it, at the first space
and at the first bracket that closes its head.  Each cut finds the place that was meant if the
text in front of it has no such character.  For a tag that is always so; for the target and
for the message it is what `LogRecord.Legible` asks.  A message may have brackets and spaces
as it likes, because it stands behind the last cut.

So a line is read as what was written, a log as its lines, and two logs with the same text are
of the same records.
-/
import Handoff.Log.Reading
import Handoff.Proofs.Logged
import Handoff.Session.Run

namespace Handoff

/-! ### Lines -/

namespace Level

theorem ofTag?_tag (level : Level) : ofTag? level.tag = some level := by
  cases level <;> rfl

theorem space_not_mem_tag (level : Level) : ' ' ∉ level.tag.toList := by
  cases level <;> decide

theorem newline_not_mem_tag (level : Level) : '\n' ∉ level.tag.toList := by
  cases level <;> decide

end Level

namespace LogLine

/-- The line as it is written, newline included. -/
def text (l : LogLine) : String :=
  Machine.recordHead l.level l.target ++ l.message ++ "\n"

/-- The line as it is read, without its newline. -/
def chars (l : LogLine) : List Char :=
  '[' :: (l.level.tag.toList ++ ' ' :: (l.target.toList ++ ']' :: ' ' :: l.message.toList))

/-- The line can be told from the lines around it, and its target from its message. -/
structure Legible (l : LogLine) : Prop where
  bracket : ']' ∉ l.target.toList
  target : '\n' ∉ l.target.toList
  message : '\n' ∉ l.message.toList

variable {l : LogLine}

theorem toList_text (l : LogLine) : l.text.toList = l.chars ++ ['\n'] := by
  simp [text, chars, Machine.recordHead]

theorem Legible.newline_not_mem_chars (h : l.Legible) : '\n' ∉ l.chars := by
  simp [chars, l.level.newline_not_mem_tag, h.target, h.message]

/-- A line reads as what was written. -/
theorem Legible.read?_chars (h : l.Legible) : read? l.chars = some l := by
  rw [chars, read?, Text.cut?_append l.level.space_not_mem_tag]
  simp only [Option.bind_eq_bind, Option.bind_some]
  rw [Text.cut?_append h.bracket]
  simp [Level.ofTag?_tag]

/-- The newlines of a log are those behind its lines. -/
theorem splitOn_join {lines : List LogLine} (h : ∀ l ∈ lines, l.Legible) :
    Text.splitOn '\n' (String.join (lines.map text)).toList = lines.map chars ++ [[]] := by
  rw [String.toList_join, List.flatMap_map, funext toList_text]
  exact Text.splitOn_flatMap fun l hl => (h l hl).newline_not_mem_chars

theorem mapM_read? {lines : List LogLine} (h : ∀ l ∈ lines, l.Legible) :
    (lines.map chars).mapM read? = some lines := by
  induction lines with
  | nil => rfl
  | cons l ls ih =>
    rw [List.map_cons, List.mapM_cons, (h l List.mem_cons_self).read?_chars,
      ih fun k hk => h k (List.mem_cons_of_mem l hk)]
    rfl

/-- **A log of legible lines reads as its lines.** -/
theorem readAll?_join {lines : List LogLine} (h : ∀ l ∈ lines, l.Legible) :
    readAll? (String.join (lines.map text)) = some lines := by
  rw [readAll?, splitOn_join h, List.reverse_append]
  simp only [List.reverse_singleton, List.singleton_append, List.reverse_reverse]
  exact mapM_read? h

end LogLine

/-! ### Records -/

namespace LogRecord

/-- What of the record is to be found in a log. -/
def line (r : LogRecord) : LogLine :=
  { level := r.level, target := r.target, message := r.message.text }

/-- The record ends its line, and the line is legible. -/
structure Legible (r : LogRecord) : Prop where
  ended : r.message.ending.isOk = true
  line : r.line.Legible

/-- A record that ends its line is written as that line. -/
theorem text_line {r : LogRecord} (h : r.message.ending.isOk = true) : r.text = r.line.text := by
  rw [text, h, if_pos rfl]
  rfl

/-- The step of a session that emits the record. -/
def step (r : LogRecord) : Step := .log r.level r.target r.message

end LogRecord

/-- The lines that a build is to write for some records: those of the enabled ones. -/
def Build.lines (b : Build) (records : List LogRecord) : List LogLine :=
  (records.filter fun r => r.level.enabled b.checks).map LogRecord.line

/-- On metal the enabled records are kept. -/
theorem Build.kept_eq_of_metal {b : Build} (hmetal : b.target = .metal)
    (records : List LogRecord) :
    b.kept records = records.filter fun r => r.level.enabled b.checks :=
  List.filter_congr fun r _ => keeps_of_metal hmetal r.level

/-- A record that ends its line leaves the console free, whether faults unwind or not. -/
theorem Machine.Logged.log_ended (b : Build) {m : Machine} (hfree : m.console.locked = false)
    {r : LogRecord} (hended : r.message.ending.isOk = true) :
    ∃ n, b.log r.level r.target r.message m = .ok () n ∧ Logged (b.kept [r]) m n := by
  rw [b.log_eq, b.drops_of_free hfree, b.kept_singleton]
  cases hkeeps : b.keeps r.level with
  | false => exact ⟨m, rfl, quiet hfree rfl rfl⟩
  | true =>
    cases hending : r.message.ending with
    | ok ending => exact ⟨_, rfl, recorded r m⟩
    | error fault =>
      rw [hending] at hended
      cases hended

/-! ### Sessions of records -/

namespace Session

/-- The serial text of some records that are emitted one after another. -/
def logged (b : Build) (cpu : Processor) (s : Session) (records : List LogRecord) : String :=
  Event.serialText ((s.run b cpu (records.map LogRecord.step)).1.flatMap Report.events)

/-- Records that end their lines are logged in their order. -/
theorem records_logged (b : Build) (cpu : Processor) {s : Session}
    (hfree : s.machine.console.locked = false) {records : List LogRecord}
    (hended : ∀ r ∈ records, r.message.ending.isOk = true) :
    s.clearEvents.machine.Logged (b.kept records)
      { (s.run b cpu (records.map LogRecord.step)).2.machine with
        events := (s.run b cpu (records.map LogRecord.step)).1.flatMap Report.events } := by
  induction records generalizing s with
  | nil => exact .quiet hfree rfl rfl
  | cons r rs ih =>
    obtain ⟨n, hlog, hlogged⟩ :=
      Machine.Logged.log_ended b (m := s.clearEvents.machine) hfree (hended r List.mem_cons_self)
    have hstep : (s.clearEvents.step b cpu r.step).2 = { s.clearEvents with machine := n } := by
      simp only [LogRecord.step, Session.step, emit, hlog]
    have hrest := ih (s := (s.clearEvents.step b cpu r.step).2) (by rw [hstep]; exact hlogged.free)
      fun k hk => hended k (List.mem_cons_of_mem r hk)
    have hfirst : s.clearEvents.machine.Logged (b.kept [r])
        (s.clearEvents.step b cpu r.step).2.machine := by
      rw [hstep]
      exact hlogged
    rw [← List.singleton_append, b.kept_append]
    exact hfirst.trans hrest.behind

/-- The records are emitted on metal, with the console free, and all of them are legible. -/
structure Emits (b : Build) (s : Session) (records : List LogRecord) : Prop where
  metal : b.target = .metal
  free : s.machine.console.locked = false
  legible : ∀ r ∈ records, r.Legible

/-- The text of legible records is that of their lines. -/
theorem Emits.logged_eq {b : Build} {s : Session} {records : List LogRecord}
    (h : Emits b s records) (cpu : Processor) :
    s.logged b cpu records = String.join ((b.lines records).map LogLine.text) := by
  have hlogged := records_logged b cpu h.free fun r hr => (h.legible r hr).ended
  have hport : ((s.run b cpu (records.map LogRecord.step)).1.flatMap Report.events).filter
      Event.isSerial = s.machine.console.transcript (b.kept records) := hlogged.events
  have htexts : (b.kept records).map LogRecord.text = (b.lines records).map LogLine.text := by
    rw [Build.lines, Build.kept_eq_of_metal h.metal, List.map_map]
    refine List.map_congr_left fun r hr => ?_
    exact LogRecord.text_line (h.legible r ((List.mem_filter.1 hr).1)).ended
  rw [logged, ← Event.serialText_filter, hport, Console.serialText_transcript, htexts]

/-- **A log reads back as its enabled records**, in their order and each once, so logs of
different records are different. -/
theorem log_reads_back {b : Build} {s : Session} {records : List LogRecord}
    (h : Emits b s records) (cpu : Processor) :
    LogLine.readAll? (s.logged b cpu records) = some (b.lines records) ∧
    ∀ b' cpu' s' records', Emits b' s' records' → b'.lines records' ≠ b.lines records →
      s'.logged b' cpu' records' ≠ s.logged b cpu records := by
  have hread : ∀ {b : Build} {s : Session} {records : List LogRecord}, Emits b s records →
      ∀ cpu, LogLine.readAll? (s.logged b cpu records) = some (b.lines records) := by
    intro b s records h cpu
    rw [h.logged_eq cpu]
    refine LogLine.readAll?_join fun l hl => ?_
    obtain ⟨r, hr, rfl⟩ := List.mem_map.1 hl
    exact (h.legible r ((List.mem_filter.1 hr).1)).line
  refine ⟨hread h cpu, fun b' cpu' s' records' h' hne heq => hne ?_⟩
  have hread' := hread h' cpu'
  rw [heq, hread h cpu] at hread'
  exact (Option.some.inj hread').symm

/-- A target with a space, a message with brackets that emits a record of its own, a record of
a disabled level, and a record with neither target nor message, on a cold port. -/
theorem log_reads_back_bracketed :
    let s := powerOn { flags := ⟨0x2⟩, memory := .absent, console := .idle false }
    let records : List LogRecord :=
      [⟨.info, "a b", .write "x] " (.emit .error "c" (.raise none .done) (.ofText "[y z"))⟩,
        ⟨.debug, "d", .ofText "w"⟩, ⟨.error, "", .done⟩]
    Emits .metalRelease s records ∧
      LogLine.readAll? (s.logged .metalRelease .native records) =
        some [⟨.info, "a b", "x] [y z"⟩, ⟨.error, "", ""⟩] ∧
      s.logged .metalRelease .native [⟨.error, "", .done⟩] ≠
        s.logged .metalRelease .native records := by
  intro s records
  have hlegible : ∀ r ∈ records, r.Legible := by
    simp only [records, List.forall_mem_cons]
    refine ⟨?_, ?_, ?_, fun r hr => by cases hr⟩ <;>
      exact ⟨by decide, by decide, by decide, by decide⟩
  have hall : Emits .metalRelease s records := ⟨rfl, rfl, hlegible⟩
  have hlast : Emits .metalRelease s [⟨.error, "", .done⟩] := by
    refine ⟨rfl, rfl, fun r hr => hlegible r ?_⟩
    rw [List.mem_singleton.1 hr]
    simp [records]
  obtain ⟨hread, hdiffer⟩ := log_reads_back hall .native
  exact ⟨hall, hread.trans (by decide), hdiffer _ .native _ _ hlast (by decide)⟩

end Session

end Handoff
