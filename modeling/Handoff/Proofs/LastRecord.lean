/-
What an image says of the fault that ends it, and that it then comes to rest.

The handler makes its report through the same console as everything else, so the console may
be taken: by the record that was being written when the fault was raised, or by the report
itself, if formatting it raises another fault.  In an image nothing unwinds, and what was taken
stays taken.  What saves the handler is that the lock is tried, and tried before the message is
formatted.  Where it is taken there is no report, and where there is no report nothing is raised.

So a handler that is entered again has found the console free the first time and finds it taken
the second.  However deep the faults are nested in the messages, it is entered twice at most.
`park` recurses on that nesting; `parkWithin` counts the entries instead, and the two agree
from the count on at which the handler comes to its loop.
-/
import Handoff.Image
import Handoff.Proofs.Logged
import Handoff.Proofs.Resting

namespace Handoff

/-! ### The last record -/

namespace Fault

/-- The record that the handler makes of the fault. -/
def record (f : Fault) : LogRecord :=
  { level := .error, target := Build.faultTarget, message := f.notice }

/-- Where the fault was raised, in front of what it says. -/
def place (f : Fault) : String :=
  match f.location with
  | some l => l.file ++ ":" ++ Numeral.decimal l.line ++ ": "
  | none => ""

/-- The line that goes out, with what the message writes up to its end or its error.  Only a
fault of the message itself cuts it short. -/
def line (f : Fault) : String :=
  "[ERROR panic] " ++ (f.place ++ f.text) ++ if f.message.ending.isOk then "\n" else ""

theorem text_notice (f : Fault) : f.notice.text = f.place ++ f.text := by
  unfold notice place
  cases f.location with
  | none => exact (String.empty_append ..).symm
  | some l => rfl

theorem text_record (f : Fault) : f.record.text = f.line := by
  have hhead : Machine.recordHead .error Build.faultTarget = "[ERROR panic] " := by
    simp only [Machine.recordHead, Level.tag, Build.faultTarget, String.reduceAppend]
  rw [LogRecord.text, record, hhead, text_notice, ending_notice, line]

end Fault

/-- What a record says, the initialisation of a cold port included. -/
theorem Machine.warmUp_spoken (m : Machine) (r : LogRecord) :
    m.warmUp ++ r.message.spoken r.level r.target = m.console.transcript [r] := by
  simp [r.spoken_eq, Console.transcript, warmUp]

namespace Build

variable {b : Build} {fault : Fault} {m : Machine}

/-! ### Twice at most -/

/-- The handler, given up on when it is entered more often than so. -/
def parkWithin (b : Build) : Nat → Fault → List Bool → Machine → Option Machine
  | 0, _, _, _ => none
  | limit + 1, fault, wakes, m =>
    match b.log .error faultTarget fault.notice m.mask with
    | .ok _ n => some ((b.platform .native).haltLoop wakes n)
    | .error nested n => b.parkWithin limit nested wakes n

/-- How often the handler is entered for a fault: a second time if there is a report of it and
the report raises another. -/
def entries (fault : Fault) (m : Machine) : Nat :=
  if m.console.locked || fault.message.ending.isOk then 1 else 2

/-- Every build for metal keeps the reports of the handler, so only the lock can drop one. -/
theorem drops_error (hmetal : b.target = .metal) (m : Machine) :
    b.drops .error m = m.console.locked := by
  rw [drops, keeps_of_metal hmetal]
  exact Bool.false_or _

/-- A message that raises a fault leaves the console taken, if nothing unwinds. -/
theorem locked_of_log_error (habort : b.unwinds = false) {level : Level} {target : String}
    {msg : Message} {nested : Fault} {n : Machine}
    (h : b.log level target msg m = .error nested n) : n.console.locked = true := by
  rw [b.log_eq, habort] at h
  split at h
  · cases h
  · split at h
    · cases h
    · cases h
      rfl

/-- With the console taken there is no report. -/
theorem report_of_taken (h : m.console.locked = true) (fault : Fault) :
    b.log .error faultTarget fault.notice m.mask = .ok () m.mask := by
  apply b.log_dropped
  rw [m.console_mask]
  exact Or.inl h

/-- The handler is entered again for a report that did not end. -/
theorem entries_eq (hmetal : b.target = .metal) (fault : Fault) (m : Machine) :
    match b.log .error faultTarget fault.notice m.mask with
    | .ok _ _ => entries fault m = 1
    | .error _ _ => entries fault m = 2 := by
  rw [log_eq, drops_error hmetal, m.console_mask, fault.ending_notice, entries]
  cases m.console.locked with
  | true => rfl
  | false => cases fault.message.ending <;> rfl

/-- The handler is entered as often as that, and no limit below it is enough. -/
theorem parkWithin_eq (hmetal : b.target = .metal) (habort : b.unwinds = false) (limit : Nat)
    (wakes : List Bool) :
    b.parkWithin limit fault wakes m =
      if entries fault m ≤ limit then some (b.park fault wakes m) else none := by
  have hentries := entries_eq hmetal fault m
  cases limit with
  | zero =>
    have hmore : ¬entries fault m ≤ 0 := by
      unfold entries
      split <;> omega
    rw [if_neg hmore, parkWithin]
  | succ limit =>
    rw [parkWithin, park_eq]
    cases hlog : b.log .error faultTarget fault.notice m.mask with
    | ok _ n =>
      rw [hlog] at hentries
      rw [hentries, if_pos (by omega)]
    | error nested n =>
      rw [hlog] at hentries
      have htaken := report_of_taken (b := b) (locked_of_log_error habort hlog) nested
      rw [hentries]
      -- the report of the nested fault is dropped, so one more entry is enough
      cases limit with
      | zero =>
        rw [if_neg (by omega)]
        rfl
      | succ limit =>
        rw [if_pos (by omega)]
        show b.parkWithin (limit + 1) nested wakes n = some (b.park nested wakes n)
        rw [parkWithin, park_eq, htaken]

/-! ### On the way to the loop -/

theorem park_of_taken (h : m.console.locked = true) (fault : Fault) :
    b.park fault [] m = m.mask := by
  rw [park_eq, report_of_taken h]
  rfl

/-- Where the console is free there is one record, and one more masking if it raises a fault. -/
theorem park_of_free (hmetal : b.target = .metal) (habort : b.unwinds = false)
    (h : m.console.locked = false) (fault : Fault) :
    b.park fault [] m =
      if fault.message.ending.isOk then
        m.mask.recorded (fault.notice.spoken .error faultTarget) false
      else (m.mask.recorded (fault.notice.spoken .error faultTarget) true).mask := by
  have hkept : ¬b.drops .error m.mask = true := by
    rw [drops_error hmetal, m.console_mask, h]
    exact Bool.false_ne_true
  rw [park_eq, log_eq, if_neg hkept, fault.ending_notice, habort]
  cases fault.message.ending with
  | ok _ => rfl
  | error nested => exact park_of_taken rfl nested

end Build

/-- What is left of a fault when the handler has come to its loop. -/
structure Fault.LastRecord (fault : Fault) (m n : Machine) : Prop where
  /-- Under a record that was being written, nothing but the masking. -/
  taken : m.console.locked = true → n = m.mask
  /-- Else the masking, then the one record, behind the initialisation of a cold port.  A
  record that raised a fault has led to one more masking, and no more. -/
  events : m.console.locked = false →
    n.events = m.events ++ .mask :: (m.console.transcript [fault.record] ++
      if fault.message.ending.isOk then [] else [.mask])
  text : m.console.locked = false →
    Event.serialText n.events = Event.serialText m.events ++ fault.line
  /-- One message was formatted, and only one that raised a fault keeps the console. -/
  console : m.console.locked = false →
    n.console = { ready := true, locked := !fault.message.ending.isOk
                  formatted := m.console.formatted + 1 }
  /-- The rest is as the first masking left it. -/
  untouched : n = { m.mask with console := n.console, events := n.events }

/-- What was masked before a record is still masked behind it. -/
theorem Machine.mask_recorded (m : Machine) (spoken : List Event) (locked : Bool) :
    (m.mask.recorded spoken locked).mask = (m.mask.recorded spoken locked).note .mask := by
  have hflags : (if m.maskable then m.mask.flags.diff .interruptEnable else m.mask.flags) =
      m.mask.flags := by
    cases hmaskable : m.maskable with
    | true =>
      rw [if_pos rfl, m.flags_mask hmaskable, Flags.diff_diff]
    | false => exact if_neg Bool.false_ne_true
  rw [mask_eq, recorded, m.maskable_mask, hflags]
  rfl

/-- The text on the port follows from the events there. -/
theorem Fault.serialText_of_events {fault : Fault} {m n : Machine} {rest : List Event}
    (hrest : Event.serialText rest = "")
    (h : n.events = m.events ++ .mask :: (m.console.transcript [fault.record] ++ rest)) :
    Event.serialText n.events = Event.serialText m.events ++ fault.line := by
  have hmask (es : List Event) : Event.serialText (.mask :: es) = Event.serialText es := rfl
  rw [h, Event.serialText_append, hmask, Event.serialText_append,
    Console.serialText_transcript, hrest, List.map_singleton, fault.text_record]
  simp

namespace Build

variable {b : Build} {fault : Fault} {m : Machine}

/-- The handler makes the last record. -/
theorem lastRecord_park (hmetal : b.target = .metal) (habort : b.unwinds = false) :
    fault.LastRecord m (b.park fault [] m) := by
  have hspoken : m.mask.warmUp ++ fault.notice.spoken .error faultTarget =
      m.console.transcript [fault.record] := by
    rw [← m.console_mask]
    exact m.mask.warmUp_spoken fault.record
  cases hlock : m.console.locked with
  | true =>
    rw [park_of_taken hlock]
    constructor
    case taken => exact fun _ => rfl
    case untouched => rfl
    all_goals
      intro hfree
      rw [hlock] at hfree
      cases hfree
  | false =>
    have hpark := park_of_free hmetal habort hlock fault
    have hevents : (b.park fault [] m).events =
        m.events ++ .mask :: (m.console.transcript [fault.record] ++
          if fault.message.ending.isOk then [] else [.mask]) := by
      rw [hpark, ← hspoken]
      split <;> simp_all [Machine.recorded]
    constructor
    case taken =>
      intro htaken
      rw [hlock] at htaken
      cases htaken
    case events => exact fun _ => hevents
    case text =>
      intro _
      refine Fault.serialText_of_events ?_ hevents
      split <;> rfl
    case console =>
      intro _
      rw [hpark]
      split <;> simp_all [Machine.recorded]
    case untouched =>
      rw [hpark]
      split
      · rfl
      · rw [m.mask_recorded]
        rfl

/-! ### And then rest -/

/-- All that the handler does with a fault that is raised on a machine. -/
structure Parks (b : Build) (fault : Fault) (m : Machine) : Prop where
  lastRecord : fault.LastRecord m (b.park fault [] m)
  /-- If a record ran into the fault, that record is the last. -/
  interrupted : ∀ level target msg before, b.log level target msg before = .error fault m →
    b.park fault [] m = m.mask
  /-- It comes to its loop after that many entries, and not before. -/
  entered : ∀ limit wakes, b.parkWithin limit fault wakes m =
    if entries fault m ≤ limit then some (b.park fault wakes m) else none
  /-- There it stays for as long as it is watched. -/
  stays : ∀ wakes more, b.park fault (wakes ++ more) m =
    (b.platform .native).haltLoop more (b.park fault wakes m)
  rests : m.maskable = true → ∀ wakes,
    (b.platform .native).Rests wakes (b.park fault [] m) (b.park fault wakes m)

/-- **A fault in an image is reported once or not at all, and ends in the halt loop**, whatever
its message does and whoever holds the console. -/
theorem parks_of_aborting (hmetal : b.target = .metal) (habort : b.unwinds = false)
    (fault : Fault) (m : Machine) : b.Parks fault m where
  lastRecord := lastRecord_park hmetal habort
  interrupted _ _ _ _ hlog := park_of_taken (locked_of_log_error habort hlog) fault
  entered := parkWithin_eq hmetal habort
  stays wakes more := by
    rw [b.park_eq_haltLoop fault m (wakes ++ more), b.park_eq_haltLoop fault m wakes]
    exact List.foldl_append
  rests hmaskable wakes := by
    have hmaskable' := (b.announced_park fault m).maskable.trans hmaskable
    rw [b.park_eq_haltLoop fault m wakes]
    exact Platform.rests_haltLoop (Or.inr hmetal) wakes hmaskable'

/-- A message that says one word, tries a record of its own and then raises a fault: on a cold
port, and out of a record that was being written. -/
theorem parks_of_aborting_nested :
    let b := Image.buildOf false
    let cause : Message := .write "lost" (.emit .warn "map" (.ofText "hole") (.raise none .done))
    let fault : Fault := .raised (some ⟨"map.rs", 7⟩) cause
    let cold : Machine := { flags := ⟨0x602⟩, memory := .absent, console := .idle false }
    let taken := cold.recorded ((Message.raise (some ⟨"map.rs", 7⟩) cause).spoken .info "map") true
    (b.park fault [] cold).events =
        [.mask, .serialInit Console.port, .serial "[ERROR panic] ", .serial "map.rs:7: ",
          .serial "lost", .mask] ∧
      Event.serialText (b.park fault [] cold).events = "[ERROR panic] map.rs:7: lost" ∧
      (∀ wakes, b.parkWithin 1 fault wakes cold = none ∧
        b.parkWithin 2 fault wakes cold = some (b.park fault wakes cold)) ∧
      b.log .info "map" (.raise (some ⟨"map.rs", 7⟩) cause) cold = .error fault taken ∧
      b.park fault [] taken = taken.mask ∧
      (b.park fault [true, false] taken).events =
        [.serialInit Console.port, .serial "[INFO map] ", .mask, .mask, .halt, .mask, .halt] := by
  intro b cause fault cold taken
  have hcold : b.Parks fault cold := parks_of_aborting rfl rfl fault cold
  have htaken : b.Parks fault taken := parks_of_aborting rfl rfl fault taken
  have hlog : b.log .info "map" (.raise (some ⟨"map.rs", 7⟩) cause) cold = .error fault taken :=
    b.log_eq ..
  have hmasked := htaken.interrupted _ _ _ _ hlog
  refine ⟨?_, ?_, ?_, hlog, hmasked, ?_⟩
  · rw [hcold.lastRecord.events rfl]
    decide
  · rw [hcold.lastRecord.text rfl]
    decide
  · intro wakes
    exact ⟨hcold.entered 1 wakes, hcold.entered 2 wakes⟩
  · rw [(htaken.rests rfl [true, false]).events, hmasked]
    decide

end Build

end Handoff
