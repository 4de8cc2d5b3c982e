import Chip8.Proofs.Session.Ledger

/-!
# `Chip8.Proofs.Session.Lockstep`: two consoles at the same time

Two consoles with the same session, and with loggers that were set up
alike, can be told the same commands in two scenes whose clocks give the
same readings. Then they report the same. What has been logged before and
what the files hold does not matter, and neither do the name and the
history of a logger.

Two computations are in lockstep if they take any two scenes with the same
readings to come to results that are related, and again to scenes with the
same readings. As two computations in a row are in lockstep when their
parts are (`lockstep_bind`), this is carried along the definitions up to
`Console.lockstep_performAll`.
-/

set_option autoImplicit false

namespace Chip8

/-- In scenes with the same readings of the clock, the computations `x` and
`y` read it equally often and have results that are related by `R`. -/
def Lockstep {α β : Type} (R : α → β → Prop) (x : InScene α) (y : InScene β) : Prop :=
  ∀ scene scene' : Scene, scene.clock = scene'.clock →
    R (x scene).1 (y scene').1 ∧ (x scene).2.clock = (y scene').2.clock

section
variable {α β γ δ : Type} {R : α → β → Prop} {S : γ → δ → Prop}

theorem lockstep_pure {a : α} {b : β} (h : R a b) : Lockstep R (pure a) (pure b) :=
  fun _ _ hclock => ⟨h, hclock⟩

theorem lockstep_bind {x : InScene α} {y : InScene β} {f : α → InScene γ} {g : β → InScene δ}
    (hx : Lockstep R x y) (hf : ∀ a b, R a b → Lockstep S (f a) (g b)) :
    Lockstep S (x >>= f) (y >>= g) := by
  intro scene scene' hclock
  obtain ⟨hR, hafter⟩ := hx scene scene' hclock
  exact hf _ _ hR _ _ hafter

theorem lockstep_forM {ε : Type} {f g : ε → InScene PUnit}
    (h : ∀ e, Lockstep (fun _ _ => True) (f e) (g e)) (es : List ε) :
    Lockstep (fun _ _ => True) (es.forM f) (es.forM g) := by
  induction es with
  | nil => exact lockstep_pure trivial
  | cons e es ih => exact lockstep_bind (h e) fun _ _ _ => ih

/-! ### The surroundings -/

theorem lockstep_now : Lockstep (· = ·) Surroundings.now Surroundings.now := by
  intro scene scene' hclock
  show (Scene.now scene).1 = (Scene.now scene').1 ∧
    (Scene.now scene).2.clock = (Scene.now scene').2.clock
  rw [Scene.now, Scene.now, hclock]
  split
  · exact ⟨rfl, hclock⟩
  · exact ⟨rfl, hclock⟩
  · exact ⟨rfl, rfl⟩

theorem lockstep_report (text text' : String) :
    Lockstep (fun _ _ => True) (Surroundings.report text) (Surroundings.report text') :=
  fun _ _ hclock => ⟨trivial, hclock⟩

end

/-! ### The logger -/

namespace Log.Logger

/-- The logger `l` is set up like `lg`. Its name, its colours and the runs
that it remembers make no difference to what a console reports. -/
structure SetUpLike (lg l : Logger) : Prop where
  kind : l.kind = lg.kind
  level : l.level = lg.level
  timestamps : l.timestamps = lg.timestamps

variable {lg l l' : Logger}

theorem setUpLike_refl (lg : Logger) : lg.SetUpLike lg := ⟨rfl, rfl, rfl⟩

theorem SetUpLike.remember (h : lg.SetUpLike l) (c : Call) : lg.SetUpLike (l.remember c) := by
  cases c <;> exact ⟨h.kind, h.level, h.timestamps⟩

/-- Loggers that are made alike are set up alike, whatever time it is. -/
theorem setUpLike_of_make {o : Options} {scene scene' scene₁ scene₁' : Scene}
    (h : (make o : InScene _) scene = (.ok lg, scene₁))
    (h' : (make o : InScene _) scene' = (.ok l, scene₁')) : lg.SetUpLike l := by
  rw [make] at h h'
  cases hlevel : Level.choose? o.level with
  | none =>
    rw [hlevel] at h
    cases h
  | some level =>
    rw [hlevel] at h h'
    cases h
    cases h'
    exact ⟨rfl, rfl, rfl⟩

theorem lockstep_write (h : lg.SetUpLike l) (h' : lg.SetUpLike l') (r : Record) :
    Lockstep (fun _ _ => True) (l.write r) (l'.write r) := by
  rw [write, write, h.timestamps, h'.timestamps]
  split
  · exact lockstep_bind lockstep_now fun _ _ _ => lockstep_report _ _
  · exact lockstep_report _ _

/-- Both loggers can be told something, or both refuse it in the same
way. -/
theorem lockstep_call (h : lg.SetUpLike l) (h' : lg.SetUpLike l') (c : Call) :
    Lockstep (fun told told' => (∃ e, told = .error e ∧ told' = .error e) ∨
      ∃ k k', told = .ok k ∧ told' = .ok k' ∧ lg.SetUpLike k ∧ lg.SetUpLike k')
      (l.call c) (l'.call c) := by
  have hrecords : l'.recordsOf c = l.recordsOf c := by
    rw [recordsOf, recordsOf, h.kind, h'.kind]
  have huntil : l'.recordsUntil c = l.recordsUntil c := by
    rw [recordsUntil, recordsUntil, h.kind, h'.kind]
  have hadmits : l'.admits = l.admits := by
    funext level
    rw [admits, admits, h.level, h'.level]
  rw [call, call, hrecords, huntil, hadmits]
  -- What can be written is written by both; then both go on, or both say what went wrong.
  refine lockstep_bind (lockstep_forM (lockstep_write h h') _) fun _ _ _ => lockstep_pure ?_
  cases l.recordsOf c with
  | error e => exact .inl ⟨e, rfl, rfl⟩
  | ok records => exact .inr ⟨_, _, rfl, rfl, h.remember c, h'.remember c⟩

end Log.Logger

/-! ### The console -/

namespace Console

/-- Two consoles have the same session, and loggers that are set up like
`lg`. -/
structure Alike (lg : Log.Logger) (c c' : Console) : Prop where
  session : c.session = c'.session
  left : lg.SetUpLike c.logger
  right : lg.SetUpLike c'.logger

/-- Consoles that are alike, and have reported the same. -/
def Report {α : Type} (lg : Log.Logger) (p p' : Console × α) : Prop :=
  Alike lg p.1 p'.1 ∧ p.2 = p'.2

variable {lg : Log.Logger} {c c' : Console}

theorem lockstep_note (h : Alike lg c c') (elapsed : Seconds) (notice : Notice) :
    Lockstep (Report lg) (c.note elapsed notice) (c'.note elapsed notice) := by
  refine lockstep_bind (Log.Logger.lockstep_call h.left h.right _) ?_
  rintro _ _ (⟨e, rfl, rfl⟩ | ⟨l, l', rfl, rfl, hl, hl'⟩)
  · exact lockstep_pure ⟨h, rfl⟩
  · exact lockstep_pure ⟨⟨h.session, hl, hl'⟩, rfl⟩

theorem lockstep_startTime (command : Command) :
    Lockstep (· = ·) (startTime command) (startTime command) := by
  cases command with
  | runFrames n => exact lockstep_now
  | _ => exact lockstep_pure rfl

theorem lockstep_elapsedTime (started : Float) (notice : Notice) :
    Lockstep (· = ·) (elapsedTime started notice) (elapsedTime started notice) := by
  cases notice with
  | ran frames cycles =>
    exact lockstep_bind lockstep_now fun _ _ heq => lockstep_pure (by rw [heq])
  | _ => exact lockstep_pure rfl

/-- Consoles that are alike report the same of a command, and are alike
after it. -/
theorem lockstep_perform (h : Alike lg c c') (command : Command) :
    Lockstep (Report lg) (c.perform command) (c'.perform command) := by
  refine lockstep_bind (lockstep_startTime command) ?_
  rintro started _ rfl
  rw [← h.session]
  have hc : Alike lg { session := (c.session.perform command).session, logger := c.logger }
      { session := (c.session.perform command).session, logger := c'.logger } :=
    ⟨rfl, h.left, h.right⟩
  cases hnotice : (c.session.perform command).notice with
  | none =>
    simp only [hnotice]
    exact lockstep_pure ⟨hc, rfl⟩
  | some notice =>
    simp only [hnotice]
    refine lockstep_bind (lockstep_elapsedTime started notice) ?_
    rintro elapsed _ rfl
    refine lockstep_bind (lockstep_note hc elapsed notice) ?_
    rintro ⟨c₁, logged⟩ ⟨c₁', _⟩ ⟨hc₁, rfl⟩
    exact lockstep_pure ⟨hc₁, rfl⟩

/-- So they do of any sequence of commands. -/
theorem lockstep_performAll (h : Alike lg c c') (commands : List Command) :
    Lockstep (Report lg) (c.performAll commands) (c'.performAll commands) := by
  induction commands generalizing c c' with
  | nil => exact lockstep_pure ⟨h, rfl⟩
  | cons command commands ih =>
    refine lockstep_bind (lockstep_perform h command) ?_
    rintro ⟨c₁, result⟩ ⟨c₁', _⟩ ⟨hc₁, rfl⟩
    refine lockstep_bind (ih hc₁) ?_
    rintro ⟨c₂, history⟩ ⟨c₂', _⟩ ⟨hc₂, rfl⟩
    exact lockstep_pure ⟨hc₂, rfl⟩

end Console

end Chip8
