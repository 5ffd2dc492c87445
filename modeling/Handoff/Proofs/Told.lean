/-
The log of a boot tells what the boot has done.

On the checked build for metal there are two records up to the call, one of the zero fill and
one of the transfer.  Their text is cut into words here.  Three of the words are numerals, and
no other word reads as one, so the text can be read without a look at what was written; and
since a numeral reads as its number, what is read are the numbers that went in.

That the numbers are those of the boot is the other half.  The length that is reported is
computed anew behind the fill, so it is compared with what the processor was asked to zero, and
the address with the one at which the kernel is called.
-/
import Handoff.Log.Reading
import Handoff.Proofs.Admitted
import Handoff.Proofs.Numeral
import Handoff.Proofs.Transcript

namespace Handoff

/-! ### Words -/

namespace Text

theorem words_append_space (s t : String) : words (s ++ " " ++ t) = words s ++ words t := by
  have hmark : (s ++ " " ++ t).toList = s.toList ++ ' ' :: t.toList := by simp
  simp only [words, hmark, List.map_append, List.map_cons, Char.reduceEq, ↓reduceIte]
  rw [splitOn_append, List.map_append]

theorem words_append_newline (s t : String) : words (s ++ "\n" ++ t) = words s ++ words t := by
  have hmark : (s ++ "\n" ++ t).toList = s.toList ++ '\n' :: t.toList := by simp
  simp only [words, hmark, List.map_append, List.map_cons, ↓reduceIte]
  rw [splitOn_append, List.map_append]

/-- Behind a newline at the end stands the empty word. -/
theorem words_newline (s : String) : words (s ++ "\n") = words s ++ [""] := by
  have hempty : words "" = [""] := by decide
  have hwords := words_append_newline s ""
  rwa [String.append_empty, hempty] at hwords

/-- A text without a blank is one word. -/
theorem words_of_solid {s : String} (hspace : ' ' ∉ s.toList) (hnewline : '\n' ∉ s.toList) :
    words s = [s] := by
  have hsame : s.toList.map (fun c => if c = '\n' then ' ' else c) = s.toList := by
    refine (List.map_congr_left fun c hc => ?_).trans (List.map_id _)
    have hne : c ≠ '\n' := fun heq => hnewline (heq ▸ hc)
    exact if_neg hne
  rw [words, hsame, splitOn_of_not_mem hspace, List.map_singleton, String.ofList_toList]

theorem words_decimal (n : Nat) : words (Numeral.decimal n) = [Numeral.decimal n] :=
  words_of_solid (Numeral.not_mem_decimal (fun _ => Nat.digitChar_ne ' ' (by decide)) n)
    (Numeral.not_mem_decimal (fun _ => Nat.digitChar_ne '\n' (by decide)) n)

theorem words_hexadecimal (n : Nat) : words (Numeral.hexadecimal n) = [Numeral.hexadecimal n] :=
  words_of_solid
    (Numeral.not_mem_hexadecimal (fun _ => Nat.digitChar_ne ' ' (by decide)) (by decide) n)
    (Numeral.not_mem_hexadecimal (fun _ => Nat.digitChar_ne '\n' (by decide)) (by decide) n)

end Text

/-! ### The two records -/

namespace LogRecord

/-- A record of plain text, as it goes out. -/
theorem text_ofText (level : Level) (target text : String) :
    LogRecord.text ⟨level, target, .ofText text⟩ =
      Machine.recordHead level target ++ text ++ "\n" := by
  show Machine.recordHead level target ++ (text ++ "") ++ "\n" = _
  rw [String.append_empty]

theorem words_zeroFilled (span : Span) (rest : String) :
    Text.words ((zeroFilled span).text ++ rest) =
      ["[DEBUG", "boot]", "zero-fill", "ok:"] ++
        [Numeral.decimal (span.stop - span.start).toNat] ++ ["bytes", "at"] ++
        [Numeral.hexadecimal span.start.toNat] ++ Text.words rest := by
  have hhead : ∀ count start : String, Machine.recordHead .debug Boot.target ++
      ("zero-fill ok: " ++ count ++ " bytes at " ++ start) ++ "\n" ++ rest =
      "[DEBUG boot] zero-fill ok:" ++ " " ++
        (count ++ " " ++ ("bytes at" ++ " " ++ (start ++ "\n" ++ rest))) := by
    intro count start
    have hbefore : Machine.recordHead .debug Boot.target ++ "zero-fill ok: " =
        "[DEBUG boot] zero-fill ok:" ++ " " := by
      simp only [Machine.recordHead, Level.tag, Boot.target, String.reduceAppend]
    have hmiddle : " bytes at " = " " ++ ("bytes at" ++ " ") := by simp only [String.reduceAppend]
    rw [hmiddle]
    simp only [← String.append_assoc, hbefore]
  have htext : (zeroFilled span).text ++ rest = _ :=
    (congrArg (· ++ rest) (text_ofText ..)).trans (hhead _ _)
  have hbefore : Text.words "[DEBUG boot] zero-fill ok:" =
      ["[DEBUG", "boot]", "zero-fill", "ok:"] := by decide
  have hbetween : Text.words "bytes at" = ["bytes", "at"] := by decide
  rw [htext, Text.words_append_space, Text.words_append_space, Text.words_append_space,
    Text.words_append_newline, hbefore, hbetween, Text.words_decimal, Text.words_hexadecimal]
  simp only [List.append_assoc]

theorem words_departing (address : UInt64) :
    Text.words (departing address).text =
      ["[INFO", "boot]", "entering", "kernel", "at"] ++
        [Numeral.hexadecimal address.toNat] ++ [""] := by
  have hhead : ∀ numeral : String, Machine.recordHead .info Boot.target ++
      ("entering kernel at " ++ numeral) = "[INFO boot] entering kernel at" ++ " " ++ numeral := by
    intro numeral
    simp only [Machine.recordHead, Level.tag, Boot.target, String.reduceAppend,
      ← String.append_assoc]
  have htext : (departing address).text =
      "[INFO boot] entering kernel at" ++ " " ++ Numeral.hexadecimal address.toNat ++ "\n" :=
    (text_ofText ..).trans (congrArg (· ++ "\n") (hhead _))
  have hbefore : Text.words "[INFO boot] entering kernel at" =
      ["[INFO", "boot]", "entering", "kernel", "at"] := by decide
  rw [htext, Text.words_newline, Text.words_append_space, hbefore, Text.words_hexadecimal]

/-- **The two records read as the numbers that went in.** -/
theorem read?_text (span : Span) (address : UInt64) :
    Account.read? ((zeroFilled span).text ++ (departing address).text) =
      some { zeroed := (span.stop - span.start).toNat, start := span.start.toNat,
             entry := address.toNat } := by
  have hdecimals : Numeral.decimals ((zeroFilled span).text ++ (departing address).text) =
      [(span.stop - span.start).toNat] := by
    rw [Numeral.decimals, words_zeroFilled, words_departing]
    simp only [List.filterMap_append, List.filterMap_cons, List.filterMap_nil,
      Numeral.readDecimal?_decimal, Numeral.readDecimal?_hexadecimal]
    rfl
  have hhexadecimals : Numeral.hexadecimals ((zeroFilled span).text ++ (departing address).text) =
      [span.start.toNat, address.toNat] := by
    rw [Numeral.hexadecimals, words_zeroFilled, words_departing]
    simp only [List.filterMap_append, List.filterMap_cons, List.filterMap_nil,
      Numeral.readHexadecimal?_decimal, Numeral.readHexadecimal?_hexadecimal]
    rfl
  rw [Account.read?, hdecimals, hhexadecimals]

end LogRecord

/-! ### What goes out up to the call -/

namespace Machine

/-- The serial text that went out between two machines of one history. -/
def textTo (m n : Machine) : String :=
  Event.serialText (n.events.drop m.events.length)

/-- The second machine has gone on from the first by that text, and its console is free. -/
structure Said (text : String) (m n : Machine) : Prop where
  events : ∃ said, n.events = m.events ++ said ∧ Event.serialText said = text
  free : n.console.locked = false

namespace Said

variable {text text' : String} {m n k : Machine}

theorem textTo_eq (h : Said text m n) : m.textTo n = text := by
  obtain ⟨said, hevents, htext⟩ := h.events
  rw [textTo, hevents, List.drop_left, htext]

theorem trans (h : Said text m n) (h' : Said text' n k) : Said (text ++ text') m k := by
  obtain ⟨said, hevents, htext⟩ := h.events
  obtain ⟨said', hevents', htext'⟩ := h'.events
  refine ⟨⟨said ++ said', ?_, ?_⟩, h'.free⟩
  · rw [hevents', hevents, List.append_assoc]
  · rw [Event.serialText_append, htext, htext']

/-- A zero fill says nothing, though one of the processors notes it. -/
theorem zeroed (b : Build) (cpu : Processor) (span : Span) (hfree : m.console.locked = false) :
    Said "" m ((b.platform cpu).zeroed span m) := by
  have hquiet : Said "" m m := ⟨⟨[], (List.append_nil _).symm, rfl⟩, hfree⟩
  unfold Platform.zeroed
  split
  · exact hquiet
  · rcases b.zeroBytes_cases cpu span.start (span.stop - span.start) with hzero | hzero | hzero
    · rw [hzero]
      exact ⟨⟨[.zero _ _], rfl, rfl⟩, hfree⟩
    · rw [hzero]
      exact ⟨hquiet.events, hfree⟩
    · rw [hzero]
      exact ⟨hquiet.events, hfree⟩

/-- A record that is kept says its line, behind the initialisation of a cold port. -/
theorem logText {b : Build} {level : Level} (hkept : b.keeps level = true)
    (hfree : m.console.locked = false) (target text : String) :
    Said (LogRecord.text ⟨level, target, .ofText text⟩) m (b.logText level target text m) := by
  have hdrops : b.drops level m = false := by
    rw [b.drops_of_free hfree, hkept]
    rfl
  have hwarm : Event.serialText m.warmUp = "" := by
    unfold warmUp
    split <;> rfl
  have hspoken := LogRecord.spoken_eq ⟨level, target, .ofText text⟩
  rw [b.logText_eq, hdrops, if_neg Bool.false_ne_true]
  refine ⟨⟨m.warmUp ++ (Message.ofText text).spoken level target, List.append_assoc .., ?_⟩, rfl⟩
  rw [Event.serialText_append, hwarm, hspoken, Event.serialText_serial, LogRecord.join_said,
    String.empty_append]

end Said

end Machine

/-- How many bytes some orders are to zero. -/
def Order.bytesZeroed : List Order → Nat
  | [] => 0
  | zero _ length :: orders => length.toNat + bytesZeroed orders
  | _ :: orders => bytesZeroed orders

namespace Boot

section Steps

variable {σ : Type} {p : Platform σ} {w v : Walk σ}

/-- The machine that a zero fill leaves if it ends well. -/
theorem machine_of_zeroFill {span : Span} (hle : span.start ≤ span.stop)
    (h : zeroFill p span w = .ok () v) :
    v.machine = p.report .debug target (zeroFillText span.start (span.stop - span.start))
      (p.zeroed span w.machine) := by
  rw [zeroFill_eq p w (Or.inr hle)] at h
  rcases advance_cases p { w with machine := p.zeroed span w.machine } .zeroFillComplete with
    ⟨-, hstop⟩ | hgo
  · rw [bind_of_error hstop] at h
    cases h
  · rw [bind_of_ok hgo, report_eq] at h
    cases h
    rfl

/-- The machine on which the kernel is called. -/
theorem machine_of_depart {address : UInt64} (h : depart p address w = .ok () v) :
    v.machine = p.report .info target (departText address) w.machine := by
  rcases depart_cases p w address with ⟨fault, hstop⟩ | ⟨-, hgo⟩
  · rw [hstop] at h
    cases h
  · rw [hgo] at h
    cases h
    rfl

end Steps

/-- A zero fill of the walk `w` and a transfer end well, on a checked build for metal and as far
as the call, to which they come with the walk `t`. -/
structure Departs (b : Build) (cpu : Processor) (span : Span) (address : UInt64)
    (w t : Walk Machine) : Prop where
  metal : b.target = .metal
  checked : b.checks = true
  /-- No record is being written when the zero fill begins. -/
  free : w.machine.console.locked = false
  ordered : span.start ≤ span.stop
  writable : w.machine.memory.Writable span
  departs : ∃ v, zeroFill (b.platform cpu) span w = .ok () v ∧
    depart (b.platform cpu) address v = .ok () t

/-- What the text up to the call tells is what was done. -/
structure Tells (b : Build) (cpu : Processor) (span : Span) (address : UInt64)
    (w t : Walk Machine) : Prop where
  account : Account.read? (w.machine.textTo t.machine) =
    some { zeroed := span.stop.toNat - span.start.toNat, start := span.start.toNat,
           entry := address.toNat }
  /-- So many bytes the processor was asked to zero, in one order or in none. -/
  zeroed : ∃ filled, zeroFill (b.platform cpu).traced span w.fresh = .ok () filled ∧
    filled.machine.orders.filter Order.isZero =
      (if span.start < span.stop then [.zero span.start (span.stop - span.start)] else []) ∧
    Order.bytesZeroed filled.machine.orders = span.stop.toNat - span.start.toNat
  bytes : ∀ a, t.machine.memory.byte? a =
    if span.Contains a then some 0 else w.machine.memory.byte? a
  /-- What is left of the two steps is the call, of any kernel at the address. -/
  called : ∀ kernel : Kernel Machine, kernel.address = address →
    (zeroFill (b.platform cpu) span >>= fun _ => transfer (b.platform cpu) kernel) w =
      call kernel t

/-- Nothing keeps an admitted walk from the call. -/
theorem departs_of_admits (b : Build) (cpu : Processor) {span : Span} {w : Walk Machine}
    (hmetal : b.target = .metal) (hchecks : b.checks = true)
    (hfree : w.machine.console.locked = false) (hwritable : w.machine.memory.Writable span)
    (h : (b.platform cpu).Admits span w) (address : UInt64) :
    ∃ t, Departs b cpu span address w t := by
  obtain ⟨filled, hfill, hfilled, hstage, -⟩ :=
    zeroFill_passes b cpu h.ordered hwritable (Or.inl h.stage)
  have huntraced := zeroFill_untraced (b.platform cpu) span w
  rw [hfill] at huntraced
  have hmasked : (b.platform cpu).interruptsEnabled (filled.map Traced.machine).machine = false :=
    (b.interruptsEnabled_congr cpu hfilled.flags).trans h.masked
  have hnext : (filled.map Traced.machine).progress.stage.next = some .transferred :=
    congrArg Stage.next hstage
  have hdepart := depart_eq (b.platform cpu) (filled.map Traced.machine) address
  rw [hmasked, Bool.and_false, if_neg Bool.false_ne_true, bind_of_ok (advance_of_next hnext),
    report_eq] at hdepart
  exact ⟨_, hmetal, hchecks, hfree, h.ordered, hwritable, _, huntraced, hdepart⟩

namespace Departs

variable {b : Build} {cpu : Processor} {span : Span} {address : UInt64} {w t : Walk Machine}
  (h : Departs b cpu span address w t)
include h

/-- The two records, and nothing else, have gone out. -/
theorem said :
    w.machine.Said ((LogRecord.zeroFilled span).text ++ (LogRecord.departing address).text)
      t.machine := by
  obtain ⟨v, hfill, hdepart⟩ := h.departs
  have hkeeps : ∀ level, b.keeps level = level.enabled true := by
    intro level
    rw [Build.keeps_of_metal h.metal, h.checked]
  have hzeroed := Machine.Said.zeroed b cpu span h.free
  have hfirst : Machine.Said (LogRecord.zeroFilled span).text
      ((b.platform cpu).zeroed span w.machine) v.machine := by
    rw [machine_of_zeroFill h.ordered hfill, b.report_platform]
    exact .logText (hkeeps .debug) hzeroed.free ..
  have hsecond : Machine.Said (LogRecord.departing address).text v.machine t.machine := by
    rw [machine_of_depart hdepart, b.report_platform]
    exact .logText (hkeeps .info) hfirst.free ..
  have hall := hzeroed.trans (hfirst.trans hsecond)
  rwa [String.empty_append] at hall

/-- A zero fill that ends well was due. -/
theorem due : w.progress.stage = .stackEstablished := by
  obtain ⟨v, hfill, -⟩ := h.departs
  have hchecks : (b.platform cpu).checks = true := (b.checks_platform cpu).trans h.checked
  refine Classical.byContradiction fun hstage => ?_
  have hrefused := (zeroFill_error_iff hchecks).2 (Or.inr ⟨h.ordered, hstage, rfl, rfl⟩)
  rw [hfill] at hrefused
  cases hrefused

/-- What is read off the text is what was done. -/
theorem tells : Tells b cpu span address w t := by
  have hlength : (span.stop - span.start).toNat = span.stop.toNat - span.start.toNat :=
    UInt64.toNat_sub_of_le _ _ h.ordered
  obtain ⟨filled, hfill, hfilled, -, horders⟩ :=
    zeroFill_passes b cpu h.ordered h.writable (Or.inl h.due)
  obtain ⟨v, huntraced, hdepart⟩ := h.departs
  have hshown := zeroFill_untraced (b.platform cpu) span w
  rw [huntraced, hfill] at hshown
  constructor
  case account =>
    rw [h.said.textTo_eq, LogRecord.read?_text, hlength]
  case zeroed =>
    refine ⟨filled, hfill, hfilled.zeroings, ?_⟩
    rw [horders, Span.orders_eq h.ordered]
    split
    · exact hlength
    · rename_i hempty
      have hle := UInt64.le_iff_toNat_le.1 (UInt64.not_lt.1 hempty)
      show 0 = _
      omega
  case bytes =>
    intro a
    have hv : v.machine = filled.machine.machine := by
      cases hshown
      rfl
    rw [machine_of_depart hdepart, b.report_platform, b.memory_logText, hv, hfilled.bytes]
  case called =>
    rintro kernel rfl
    rw [bind_of_ok huntraced]
    exact bind_of_ok hdepart

end Departs

/-- **The text up to the call tells what was done**, so boots of different lengths, starts or
entries never write the same text. -/
theorem tells_of_departs {b : Build} {cpu : Processor} {span : Span} {address : UInt64}
    {w t : Walk Machine} (h : Departs b cpu span address w t) :
    Tells b cpu span address w t ∧
    ∀ b' cpu' span' address' w' t', Departs b' cpu' span' address' w' t' →
      w'.machine.textTo t'.machine = w.machine.textTo t.machine →
      span'.stop - span'.start = span.stop - span.start ∧ span'.start = span.start ∧
        address' = address := by
  refine ⟨h.tells, fun b' cpu' span' address' w' t' h' heq => ?_⟩
  have haccount := h.said.textTo_eq ▸ LogRecord.read?_text span address
  have haccount' := h'.said.textTo_eq ▸ LogRecord.read?_text span' address'
  rw [heq, haccount] at haccount'
  simp only [Option.some.injEq, Account.mk.injEq, UInt64.toNat_inj] at haccount'
  exact ⟨haccount'.1.symm, haccount'.2.1.symm, haccount'.2.2.symm⟩

/-- Two bytes zeroed for a kernel at a low address, and none for one at the highest, on a cold
port. -/
theorem tells_of_departs_highest :
    let w : Walk Machine :=
      ⟨{ stage := .stackEstablished, stackTop := none },
        { flags := ⟨0x2⟩, memory := ⟨0x1000, #[1, 2, 3, 4]⟩, console := .idle false }⟩
    ∃ t t', Departs .metalDebug .native ⟨0x1001, 0x1003⟩ 0x2000 w t ∧
      Departs .metalDebug .recording ⟨0, 0⟩ 0xffffffffffffffff w t' ∧
      Account.read? (w.machine.textTo t.machine) = some ⟨2, 0x1001, 0x2000⟩ ∧
      Account.read? (w.machine.textTo t'.machine) = some ⟨0, 0, 0xffffffffffffffff⟩ ∧
      w.machine.textTo t'.machine ≠ w.machine.textTo t.machine := by
  intro w
  have hwritable : w.machine.memory.Writable ⟨0x1001, 0x1003⟩ :=
    (Memory.writable_iff (by decide)).2 (by decide)
  have hnone : w.machine.memory.Writable ⟨0, 0⟩ := by
    rintro a ⟨-, hstop⟩
    exact absurd hstop UInt64.not_lt_zero
  obtain ⟨t, ht⟩ := departs_of_admits .metalDebug .native rfl rfl rfl hwritable
    ⟨rfl, by decide, by decide⟩ 0x2000
  obtain ⟨t', ht'⟩ := departs_of_admits .metalDebug .recording rfl rfl rfl hnone
    ⟨rfl, by decide, by decide⟩ 0xffffffffffffffff
  obtain ⟨htells, hdiffer⟩ := tells_of_departs ht
  refine ⟨t, t', ht, ht', htells.account, (tells_of_departs ht').1.account, fun heq => ?_⟩
  have hsame := (hdiffer _ _ _ _ _ _ ht' heq).2.1
  exact absurd hsame (by decide)

end Boot

end Handoff
