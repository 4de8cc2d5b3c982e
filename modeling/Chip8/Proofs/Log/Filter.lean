import Chip8.Proofs.Log.Calls
import Chip8.Proofs.Session.Console
import Mathlib.Data.List.Basic

/-!
# `Chip8.Proofs.Log.Filter`: what the level of a logger does

The level of a logger decides which records are written and nothing else.
Take a logger and one like it with a higher level, and tell both the same.
The second writes a part of the records of the first, those of its own
level and above (`Logger.recordsWritten_quieter`). Both refuse the same
calls and remember the same runs, whether or not a summary was written.
`Logger.callAll_quieter` is this law for loggers that write no time; with
the time, the text of a record would depend on how often the clock has
been read.

A logger of the highest level, `off`, is meant to write nothing. It does
write the records of its own level (`Logger.admitted_of_off`). Only a message
has such a record, so a logger that is off is silent as long as it is not
given a message of the level `OFF` (`Logger.callAll_off`), and not longer
(`Logger.callAll_off_speaks`).
-/

set_option autoImplicit false

namespace Chip8.Log

theorem Level.ofName?_eq_some_iff {s : String} {l : Level} : ofName? s = some l ↔ s = l.name := by
  constructor
  · intro h
    have hname := List.find?_some h
    exact (beq_iff_eq.1 hname).symm
  · rintro rfl
    cases l <;> decide +kernel

theorem Level.rank_off_le_iff {l : Level} : Level.off.rank ≤ l.rank ↔ l = .off := by
  cases l <;> decide

namespace Call

/-- The level of the records of a call, if it has any. -/
def level? : Call → Option Level
  | message level _ => some level
  | named name _ => Level.ofName? name
  | settings _ => some .debug
  | romLoaded _ _ => some .info
  | run _ => some .info
  | fault _ _ => some .error

theorem level_of_mem_settings {entries : List (String × Value)} {r : Record}
    (hr : r ∈ settingsHeading :: entries.map settingRecord) : r.level = .debug := by
  rcases List.mem_cons.1 hr with rfl | hr
  · rfl
  · obtain ⟨entry, -, rfl⟩ := List.mem_map.1 hr
    rfl

/-- The records of a call are all of one level. -/
theorem level?_of_mem_records {c : Call} {records : List Record} {r : Record}
    (h : c.records = .ok records) (hr : r ∈ records) : c.level? = some r.level := by
  cases c with
  | message level text =>
    cases h
    rw [List.mem_singleton.1 hr]
    rfl
  | named name text =>
    rw [Call.records] at h
    cases hlevel : Level.ofName? name with
    | none =>
      rw [hlevel] at h
      cases h
    | some level =>
      rw [hlevel] at h
      cases h
      rw [List.mem_singleton.1 hr]
      exact hlevel
  | settings entries =>
    rw [Call.records] at h
    split at h
    · cases h
      rw [level_of_mem_settings hr]
      rfl
    · cases h
  | romLoaded path size =>
    rw [Call.records] at h
    split at h
    · cases h
      rw [List.mem_singleton.1 hr]
      rfl
    · cases h
  | run summary =>
    rw [Call.records] at h
    cases htext : summary.text with
    | error e =>
      rw [htext] at h
      cases h
    | ok text =>
      rw [htext] at h
      cases h
      rw [List.mem_singleton.1 hr]
      rfl
  | fault pc text =>
    cases h
    rw [List.mem_singleton.1 hr]
    rfl

/-- So are those that come before a call goes wrong. -/
theorem level?_of_mem_begun {c : Call} {r : Record} (hr : r ∈ c.begun) :
    c.level? = some r.level := by
  cases c with
  | settings entries =>
    rw [level_of_mem_settings hr]
    rfl
  | _ => cases hr

/-- The record of a message of the level `OFF`. -/
def offRecord? : Call → Option Record
  | message level text => if level = .off then some ⟨.off, text⟩ else none
  | named name text => if name = "OFF" then some ⟨.off, text⟩ else none
  | _ => none

theorem offRecord?_eq_none_iff {c : Call} :
    c.offRecord? = none ↔ ∀ text, c ≠ .message .off text ∧ c ≠ .named "OFF" text := by
  cases c <;> simp [offRecord?]

end Call

namespace Logger

variable {lg : Logger}

theorem recordsOf_named (lg : Logger) (name text : String) :
    lg.recordsOf (.named name text) = (Call.named name text).records := by
  rw [recordsOf]
  cases lg.kind <;> rfl

/-- Every logger can be told a message, and has its record to write. -/
theorem recordsUntil_of_records {c : Call} {records : List Record} (h : c.records = .ok records)
    (hname : c.sessionName? = none) : lg.recordsUntil c = records := by
  have hcheck : lg.kind.check c = .ok () := by
    unfold Kind.check
    rw [hname]
    cases lg.kind <;> rfl
  rw [recordsUntil, hcheck, h]

/-- Whatever is written of a call has its level. -/
theorem level?_of_mem_recordsUntil {c : Call} {r : Record} (hr : r ∈ lg.recordsUntil c) :
    c.level? = some r.level := by
  rw [recordsUntil] at hr
  cases hcheck : lg.kind.check c with
  | error e =>
    rw [hcheck] at hr
    cases hr
  | ok _ =>
    rw [hcheck] at hr
    cases hrecords : c.records with
    | ok records =>
      rw [hrecords] at hr
      exact Call.level?_of_mem_records hrecords hr
    | error e =>
      rw [hrecords] at hr
      exact Call.level?_of_mem_begun hr

/-! ### A higher level -/

/-- Of a call, a logger with a higher level writes the records that reach
this level, out of those that the other one writes. -/
theorem admitted_quieter {level : Level} (hle : lg.level.rank ≤ level.rank) (started : Float)
    (c : Call) :
    ({ lg with level, started } : Logger).admitted c
      = (lg.admitted c).filter fun r => level.rank ≤ r.level.rank := by
  rw [admitted, admitted, List.filter_filter]
  refine List.filter_congr fun r _ => ?_
  -- What reaches the higher level reaches the lower one as well.
  rw [admits, admits, ← Bool.decide_and, decide_eq_decide]
  exact ⟨fun h => ⟨h, Nat.le_trans hle h⟩, And.left⟩

/-- The same for a sequence of calls. -/
theorem recordsWritten_quieter {level : Level} (hle : lg.level.rank ≤ level.rank)
    (started : Float) (cs : List Call) :
    ({ lg with level, started } : Logger).recordsWritten cs
      = (lg.recordsWritten cs).filter fun r => level.rank ≤ r.level.rank := by
  rw [recordsWritten, recordsWritten, List.filter_flatMap]
  exact congrArg (cs.flatMap ·) (funext (admitted_quieter hle started))

/-- A message at a level that does not exist is refused by every logger. -/
theorem answer_named_of_none {name : String} (h : Level.ofName? name = none) (lg : Logger)
    (text : String) : lg.answer (.named name text) = .error (.unknownRecordLevel name) := by
  rw [answer, recordsOf_named, Call.records, h]
  rfl

/-- Take two loggers that write no time and differ in nothing but their
level and the time when they were made, and let the level of the first be
at most that of the second. Tell both the same, in any two scenes.

The first adds the lines of some records to its log. The second adds the
lines of those of them that reach its own level, in the same order and
with the same text. The answers to the calls are the same, so that both
refuse a message at a level that does not exist. To their histories both
add the same runs. -/
theorem callAll_quieter (lg : Logger) (level : Level) (started : Float)
    (htimestamps : lg.timestamps = false) (hle : lg.level.rank ≤ level.rank) (cs : List Call)
    (scene scene' : Scene) :
    let quiet : Logger := { lg with level, started }
    let records := lg.recordsWritten cs
    let reaching := records.filter fun r => level.rank ≤ r.level.rank
    let runs := lg.history ++ lg.remembered cs
    (lg.callAll cs : InScene _) scene
        = (({ lg with history := runs }, cs.map lg.answer),
          { scene with log := scene.log ++ String.join (records.map lg.untimedLine) }) ∧
      (quiet.callAll cs : InScene _) scene'
        = (({ quiet with history := runs }, cs.map lg.answer),
          { scene' with log := scene'.log ++ String.join (reaching.map lg.untimedLine) }) ∧
      ∀ name text, Level.ofName? name = none →
        lg.answer (.named name text) = .error (.unknownRecordLevel name) := by
  intro quiet records reaching runs
  have hquiet : quiet.recordsWritten cs = reaching := recordsWritten_quieter hle started cs
  refine ⟨?_, ?_, fun name text hnone => answer_named_of_none hnone lg text⟩
  · rw [callAll_eq, bind_inScene (forM_write_untimed htimestamps _ scene)]
    rfl
  · have htimestamps' : quiet.timestamps = false := htimestamps
    rw [callAll_eq, bind_inScene (forM_write_untimed htimestamps' _ scene'), hquiet]
    rfl

/-- A logger that writes everything and one that writes warnings and
errors are told of a run, of an error, and of something at a level that
does not exist. The second writes the error alone, and remembers the run
that it has not written. -/
theorem callAll_quieter_warning :
    let lg : Logger := ⟨.sessions, "chix8", .debug, false, false, 0, []⟩
    let quiet : Logger := { lg with level := .warning }
    let cs : List Call :=
      [.run ⟨2, 22, .whole 0⟩, .message .error "shown", .named "LOUD" "refused",
        .message .info "hidden"]
    let loud := (lg.callAll cs : InScene _) {}
    let hushed := (quiet.callAll cs : InScene _) {}
    lg.timestamps = false ∧ lg.level.rank ≤ quiet.level.rank ∧
      hushed.2.log = "[ERROR][chix8] shown\n" ∧ hushed.1.2 = loud.1.2 ∧
      hushed.1.2[2]? = some (.error (.unknownRecordLevel "LOUD")) ∧
      hushed.1.1.history = loud.1.1.history ∧ loud.1.1.history.map (·.frames) = [2] := by
  intro lg quiet cs loud hushed
  obtain ⟨hloud, hhushed, hrefused⟩ := callAll_quieter lg .warning 0 rfl (by decide) cs {} {}
  have hnone : Level.ofName? "LOUD" = none := by decide +kernel
  refine ⟨rfl, by decide, ?_, ?_, ?_, ?_, ?_⟩
  · rw [show hushed = _ from hhushed]
    decide +kernel
  · rw [show hushed = _ from hhushed, show loud = _ from hloud]
  · rw [show hushed = _ from hhushed]
    exact congrArg some (hrefused "LOUD" "refused" hnone)
  · rw [show hushed = _ from hhushed, show loud = _ from hloud]
  · rw [show loud = _ from hloud]
    decide +kernel

/-! ### The level `off` -/

theorem admits_of_off (h : lg.level = .off) (l : Level) : lg.admits l = decide (l = .off) := by
  rw [admits, h]
  exact decide_eq_decide.2 Level.rank_off_le_iff

/-- A logger that is off writes nothing of a call that has another
level. -/
theorem admitted_eq_nil_of_off (h : lg.level = .off) {c : Call} (hc : c.level? ≠ some .off) :
    lg.admitted c = [] := by
  rw [admitted, List.filter_eq_nil_iff]
  intro r hr
  rw [admits_of_off h, decide_eq_true_iff]
  intro hoff
  exact hc (hoff ▸ level?_of_mem_recordsUntil hr)

/-- Of a call, a logger that is off writes the record of a message of the
level `OFF`. -/
theorem admitted_of_off (h : lg.level = .off) (c : Call) :
    lg.admitted c = c.offRecord?.toList := by
  cases c with
  | message level text =>
    rw [admitted, recordsUntil_of_records rfl rfl]
    by_cases hoff : level = .off <;> simp [Call.offRecord?, admits_of_off h, hoff]
  | named name text =>
    by_cases hname : name = "OFF"
    · have hlevel : Level.ofName? name = some .off := Level.ofName?_eq_some_iff.2 hname
      rw [admitted, recordsUntil_of_records (by rw [Call.records, hlevel]) rfl]
      simp [Call.offRecord?, admits_of_off h, hname]
    · have hother : (Call.named name text).level? ≠ some .off :=
        fun hlevel => hname (Level.ofName?_eq_some_iff.1 hlevel)
      rw [admitted_eq_nil_of_off h hother, Call.offRecord?, if_neg hname]
      rfl
  | settings | romLoaded | run | fault =>
    refine admitted_eq_nil_of_off h fun hlevel => ?_
    cases hlevel

/-- A logger that is made with the level `off`, in whatever case the name
of the level is given, reads the clock once and writes nothing. Whatever
it is told after that, it writes the records of the messages of the level
`OFF` among the calls. It writes nothing at all just if there are no such
messages. -/
theorem callAll_off (o : Options) (hlevel : Level.choose? o.level = some .off) (scene : Scene) :
    ∃ lg scene₀, (make o : InScene _) scene = (.ok lg, scene₀) ∧ scene₀.log = scene.log ∧
      ∀ cs : List Call,
        (lg.callAll cs : InScene _) scene₀
            = (({ lg with history := lg.history ++ lg.remembered cs }, cs.map lg.answer),
              (((cs.filterMap Call.offRecord?).forM lg.write : InScene _) scene₀).2) ∧
          (((lg.callAll cs : InScene _) scene₀).2.log = scene.log ↔
            ∀ text, .message .off text ∉ cs ∧ .named "OFF" text ∉ cs) := by
  obtain ⟨lg, scene₀, hmake, -, hoff, -, hlog⟩ := make_inScene scene hlevel
  refine ⟨lg, scene₀, hmake, hlog, fun cs => ?_⟩
  have hwritten : lg.recordsWritten cs = cs.filterMap Call.offRecord? := by
    rw [recordsWritten, funext (admitted_of_off hoff), List.filterMap_eq_flatMap_toList]
  have hrun : (lg.callAll cs : InScene _) scene₀
      = (({ lg with history := lg.history ++ lg.remembered cs }, cs.map lg.answer),
        (((cs.filterMap Call.offRecord?).forM lg.write : InScene _) scene₀).2) := by
    rw [callAll_eq, hwritten]
    rfl
  refine ⟨hrun, ?_⟩
  obtain ⟨text, htext, hempty⟩ := lg.log_forM_write (cs.filterMap Call.offRecord?) scene₀
  rw [hrun, htext, hlog, String.append_eq_left_iff, hempty, List.filterMap_eq_nil_iff]
  constructor
  · intro hnone text
    constructor
    · intro hmem
      exact (Call.offRecord?_eq_none_iff.1 (hnone _ hmem) text).1 rfl
    · intro hmem
      exact (Call.offRecord?_eq_none_iff.1 (hnone _ hmem) text).2 rfl
  · intro hnone c hc
    refine Call.offRecord?_eq_none_iff.2 fun text => ⟨?_, ?_⟩
    · rintro rfl
      exact (hnone text).1 hc
    · rintro rfl
      exact (hnone text).2 hc

/-- A logger is switched off in mixed case. It is silent about an error
and a fault, and then it is given a message of the level `OFF`. -/
theorem callAll_off_mixed :
    let o : Options := { level := "oFf", timestamps := false }
    let quiet : List Call := [.message .error "nothing", .fault 0x200 "nothing"]
    Level.choose? o.level = some .off ∧
      ∃ lg scene₀, (make o : InScene _) {} = (.ok lg, scene₀) ∧
        ((lg.callAll quiet : InScene _) scene₀).2.log = "" ∧
        ((lg.callAll (quiet ++ [.named "OFF" "loud"]) : InScene _) scene₀).2.log ≠ "" := by
  intro o quiet
  have hlevel : Level.choose? o.level = some .off := by decide +kernel
  obtain ⟨lg, scene₀, hmake, -, hcalls⟩ := callAll_off o hlevel {}
  refine ⟨hlevel, lg, scene₀, hmake, (hcalls quiet).2.2 ?_, fun hsilent => ?_⟩
  · intro text
    simp [quiet]
  · exact ((hcalls _).2.1 hsilent "loud").2 (List.mem_append_right quiet List.mem_cons_self)

/-- A logger that is off does write something if it is given a message of
its own level, by the name that the level goes by. -/
theorem callAll_off_speaks :
    let o : Options := { level := "OFF", timestamps := false }
    let cs : List Call := [.named "OFF" "nothing"]
    (∃ lg scene₀, (make o : InScene _) {} = (.ok lg, scene₀) ∧
      ((lg.callAll cs : InScene _) scene₀).2.log = "[OFF][chix8] nothing\n") ∧
    ¬ ∀ (o : Options) (scene : Scene) (lg : Logger) (scene₀ : Scene) (cs : List Call),
      Level.choose? o.level = some .off → (make o : InScene _) scene = (.ok lg, scene₀) →
      (∀ text, .message .off text ∉ cs) →
      (∀ name text, .named name text ∈ cs → (Level.ofName? name).isSome = true) →
      ((lg.callAll cs : InScene _) scene₀).2.log = scene₀.log := by
  intro o cs
  have hlevel : Level.choose? o.level = some .off := by decide +kernel
  have hmade : ∃ lg scene₀, (make o : InScene _) {} = (.ok lg, scene₀) ∧ scene₀.log = "" ∧
      ((lg.callAll cs : InScene _) scene₀).2.log = "[OFF][chix8] nothing\n" := by
    rw [make, hlevel]
    exact ⟨_, _, rfl, rfl, by decide +kernel⟩
  obtain ⟨lg, scene₀, hmake, hempty, hspeaks⟩ := hmade
  refine ⟨⟨lg, scene₀, hmake, hspeaks⟩, fun hclaim => ?_⟩
  have hsilent := hclaim o {} lg scene₀ cs hlevel hmake (by simp [cs]) ?_
  · rw [hspeaks, hempty] at hsilent
    exact absurd hsilent (by decide)
  · intro name text hmem
    cases List.mem_singleton.1 hmem
    decide +kernel

end Logger

end Chip8.Log
