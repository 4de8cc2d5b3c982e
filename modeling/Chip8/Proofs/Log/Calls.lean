import Chip8.Log.Logger

/-!
# `Chip8.Proofs.Log.Calls`: a logger is told one thing after the other

A logger is told many things in its life, and some of them it refuses
(`Logger.callAll`). What comes of it can be said without following the
logger from call to call, because a call changes nothing of it but its
history. `Logger.callAll_eq` says that in any surroundings the logger
writes the records that it admits, one after the other, has the summaries
of the runs added to its history, and refuses what cannot be recorded.

In a scene the records are text at the end of the log. Without the time
the text is that of their lines (`Logger.forM_write_untimed`). With the
time or without, there is none just if there are no records
(`Logger.log_forM_write`).
-/

set_option autoImplicit false

namespace Chip8.Log

/-- The summary of a run that a call gives, if any. -/
def Call.summary? : Call → Option RunSummary
  | .run summary => some summary
  | _ => none

namespace Logger

/-- The records of a call that the logger writes. -/
def admitted (lg : Logger) (c : Call) : List Record :=
  (lg.recordsUntil c).filter fun r => lg.admits r.level

/-- The records that the logger writes in a sequence of calls. -/
def recordsWritten (lg : Logger) (cs : List Call) : List Record := cs.flatMap lg.admitted

/-- What becomes of a call. -/
def answer (lg : Logger) (c : Call) : Except Error Unit := (lg.recordsOf c).map fun _ => ()

/-- The summaries that a sequence of calls adds to the history. -/
def remembered (lg : Logger) (cs : List Call) : List RunSummary :=
  cs.filterMap fun c => (lg.recordsOf c).toOption.bind fun _ => c.summary?

section
variable {m : Type → Type} [Monad m] [Surroundings m]

/-- Tells the logger one thing after the other. A call that is refused
leaves the logger as it was. -/
def callAll (lg : Logger) : List Call → m (Logger × List (Except Error Unit))
  | [] => return (lg, [])
  | c :: cs => do
    let told ← lg.call c
    let (lg, answers) ← (told.toOption.getD lg).callAll cs
    return (lg, told.map (fun _ => ()) :: answers)

end

/-- A call changes the history of a logger, and nothing else. -/
theorem getD_remember (lg : Logger) (c : Call) :
    ((lg.recordsOf c).map fun _ => lg.remember c).toOption.getD lg
      = { lg with history := lg.history ++ lg.remembered [c] } := by
  rw [remembered, List.filterMap_cons]
  cases lg.recordsOf c with
  | error e => simp [Except.map, Except.toOption]
  | ok records => cases c <;> simp [Except.map, Except.toOption, remember, Call.summary?]

theorem remembered_cons (lg : Logger) (c : Call) (cs : List Call) :
    lg.remembered (c :: cs) = lg.remembered [c] ++ lg.remembered cs :=
  List.filterMap_append (l := [c])

section
variable {m : Type → Type} [Monad m] [Surroundings m]

theorem call_eq (lg : Logger) (c : Call) :
    (lg.call c : m (Except Error Logger)) = (lg.admitted c).forM lg.write >>= fun _ =>
      pure ((lg.recordsOf c).map fun _ => lg.remember c) := rfl

variable [LawfulMonad m]

/-- All calls at once: the records are written in order, and whether a
call is refused does not depend on the calls before it. -/
theorem callAll_eq (lg : Logger) (cs : List Call) :
    (lg.callAll cs : m _) = (lg.recordsWritten cs).forM lg.write >>= fun _ =>
      pure ({ lg with history := lg.history ++ lg.remembered cs }, cs.map lg.answer) := by
  -- The logger after the first call writes and refuses as the one before it, so the induction
  -- only has to put the histories together.
  induction cs generalizing lg with
  | nil =>
    show (pure (lg, []) : m _) = pure PUnit.unit >>= fun _ =>
      pure ({ lg with history := lg.history ++ [] }, [])
    rw [List.append_nil, pure_bind]
  | cons c cs ih =>
    have hanswer : ((lg.recordsOf c).map fun _ => lg.remember c).map (fun _ => ())
        = lg.answer c := by
      rw [answer]
      cases lg.recordsOf c <;> rfl
    rw [callAll, call_eq, recordsWritten, List.flatMap_cons, remembered_cons, ← List.append_assoc]
    simp only [List.forM_eq_forM, List.forM_append, bind_assoc, pure_bind]
    rw [hanswer, getD_remember, ih]
    simp only [List.forM_eq_forM, bind_assoc, pure_bind]
    rfl

end

/-! ### The log of a scene -/

variable {lg : Logger}

theorem write_untimed (h : lg.timestamps = false) (r : Record) (scene : Scene) :
    (lg.write r : InScene _) scene
      = ((), { scene with log := scene.log ++ lg.untimedLine r }) := by
  rw [write, h]
  rfl

/-- Without the time the clock is not read, and all that is done to the
scene is that the lines of the records are added to its log. -/
theorem forM_write_untimed (h : lg.timestamps = false) (rs : List Record) (scene : Scene) :
    (rs.forM lg.write : InScene _) scene
      = ((), { scene with log := scene.log ++ String.join (rs.map lg.untimedLine) }) := by
  induction rs generalizing scene with
  | nil =>
    show ((), scene) = ((), { scene with log := scene.log ++ "" })
    rw [String.append_empty]
  | cons r rs ih =>
    show (rs.forM lg.write : InScene _) ((lg.write r : InScene _) scene).2 = _
    rw [write_untimed h, ih, List.map_cons, String.join_cons, String.append_assoc]

/-- A record is written as text that is not empty. -/
theorem log_write (lg : Logger) (r : Record) (scene : Scene) :
    ∃ line, ((lg.write r : InScene _) scene).2.log = scene.log ++ line ∧ line ≠ "" := by
  have hline : lg.untimedLine r ≠ "" := by
    intro h
    have hlength := congrArg String.length h
    rw [untimedLine, String.length_append] at hlength
    exact absurd hlength (Nat.succ_ne_zero _)
  cases htimed : lg.timestamps with
  | false =>
    rw [write_untimed htimed]
    exact ⟨_, rfl, hline⟩
  | true =>
    refine ⟨lg.timedLine r scene.now.1, ?_, ?_⟩
    · rw [write, htimed]
      show scene.now.2.log ++ lg.timedLine r scene.now.1 = _
      obtain ⟨clock, hclock⟩ := scene.now_snd
      rw [hclock]
    · rw [timedLine]
      intro h
      exact hline (String.append_eq_empty_iff.1 h).2

/-- Records add text to the log, and none at all just if there are no
records. -/
theorem log_forM_write (lg : Logger) (rs : List Record) (scene : Scene) :
    ∃ text, ((rs.forM lg.write : InScene _) scene).2.log = scene.log ++ text ∧
      (text = "" ↔ rs = []) := by
  induction rs generalizing scene with
  | nil => exact ⟨"", String.append_empty.symm, iff_of_true rfl rfl⟩
  | cons r rs ih =>
    obtain ⟨line, hlog, hline⟩ := lg.log_write r scene
    obtain ⟨text, hmore, -⟩ := ih ((lg.write r : InScene _) scene).2
    refine ⟨line ++ text, ?_, iff_of_false ?_ (List.cons_ne_nil r rs)⟩
    · rw [← String.append_assoc, ← hlog, ← hmore]
      rfl
    · intro h
      exact hline (String.append_eq_empty_iff.1 h).1

end Logger

end Chip8.Log
