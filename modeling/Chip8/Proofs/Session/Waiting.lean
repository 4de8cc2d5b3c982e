import Chip8.Proofs.Machine.Frames
import Chip8.Proofs.Session.Ledger

/-!
# `Chip8.Proofs.Session.Waiting`: a host that waits for frames

A host waits for frames, and between two waits it presses and releases
keys and counts the timers down. Each `Turn` is one of these acts with
the session that it finds, and `Turn.events` are the events that it adds
to the run of the machine.

No frame is lost and none is shown twice: a wait shows the one frame of
its cycles or has none to show (`Turn.takes_of_wait`), and the other acts
have no frames and show nothing (`Turn.replay_of_ne_wait`). For a whole
run the displays that are shown are therefore the frames of the machine
(`Session.turns_frames`). The main statement, `performAll_frames`, says
this of a console, and what each wait does to the display and to the
count of cycles.
-/

set_option autoImplicit false

namespace Chip8

open Machine (Event)

/-- What a host does that waits for frames. -/
inductive Act where
  /-- Wait for a frame. -/
  | wait
  /-- Press the key with the given number. -/
  | press (key : Int)
  /-- Release the key. -/
  | release
  /-- Count the timers down. -/
  | tick
deriving DecidableEq, Repr

/-- The command that asks for an act. -/
def Act.command : Act → Command
  | wait => .waitForFrame
  | press key => .press key
  | release => .release
  | tick => .tick

/-- An act and the session that it finds. -/
structure Turn where
  before : Session
  act : Act

namespace Turn

/-- The session after a turn. -/
def after (t : Turn) : Session := (t.before.perform t.act.command).session

/-- What a turn shows, if anything, or what went wrong. -/
def result (t : Turn) : Except Error (Option Display) := (t.before.perform t.act.command).result

/-- The events that a turn adds to the run of the machine. A key that
does not exist cannot be pressed, and then nothing happens. -/
def events (t : Turn) : List Event :=
  match t.act with
  | .wait => .replicate (t.after.cycles - t.before.cycles) .cycle
  | .press key => (Key.ofInt? key).toList.map .press
  | .release => [.release]
  | .tick => [.tick]

/-- A turn carries out `n` cycles: the cycles up to the first that
completes a frame, and then the display is shown; or all that the
settings allow, none of which completes a frame, and then the display is
what it was. -/
structure Takes (t : Turn) (n : Nat) : Prop where
  run_eq : t.before.machine.run n = .ok t.after.machine
  cycles_eq : t.after.cycles = t.before.cycles + n
  none_iff : t.result = .ok none ↔
    n = t.before.settings.maxCyclesPerFrame ∧
      ∀ k < n, t.before.machine.completesFrameAt k = false
  display_eq : t.result = .ok none → t.after.machine.display = t.before.machine.display
  shown : ∀ d, t.result = .ok (some d) →
    d = t.after.machine.display ∧ ∃ k, n = k + 1 ∧
      t.before.machine.completesFrameAt k = true ∧
      ∀ j < k, t.before.machine.completesFrameAt j = false

end Turn

/-- The displays that are shown, in order. -/
def shownDisplays (results : List (Except Error (Option Display))) : List Display :=
  results.filterMap fun result => result.toOption.join

/-- The turns of a host that does the given acts. -/
def Session.turns (s : Session) : List Act → List Turn
  | [] => []
  | a :: acts => ⟨s, a⟩ :: (⟨s, a⟩ : Turn).after.turns acts

/-- The session after the given acts. -/
def Session.afterActs (s : Session) : List Act → Session
  | [] => s
  | a :: acts => (⟨s, a⟩ : Turn).after.afterActs acts

namespace Turn

variable {t : Turn}

/-! ### One turn -/

/-- A wait that comes to its end leaves the session of a run until a
frame is complete. -/
theorem wait_eq_ok {s : Session} (h : (⟨s, .wait⟩ : Turn).result.isOk = true) :
    ∃ m n, s.machine.runWithin s.settings.maxCyclesPerFrame = .ok (m, n) ∧
      (⟨s, .wait⟩ : Turn).after = { s with machine := m, cycles := s.cycles + n } ∧
      (⟨s, .wait⟩ : Turn).result = .ok (if m.frameReady then some m.display else none) := by
  cases hwait : s.waitForFrame with
  | error e =>
    simp only [result, Act.command, Session.perform, hwait] at h
    cases h
  | ok r =>
    obtain ⟨⟨m, n⟩, hm, heq⟩ := bind_eq_ok.1 hwait
    cases heq
    refine ⟨m, n, hm, ?_, ?_⟩ <;>
    simp only [after, result, Act.command, Session.perform, hwait] <;>
    split <;> rfl

/-- A wait that comes to its end takes some cycles, and shows the frames
of these cycles. -/
theorem takes_of_wait (hact : t.act = .wait) (hok : t.result.isOk = true) :
    ∃ n, t.Takes n ∧ t.before.machine.frames (.replicate n .cycle) = shownDisplays [t.result] := by
  obtain ⟨s, act⟩ := t
  cases hact
  obtain ⟨m, n, hm, hafter, hresult⟩ := wait_eq_ok hok
  have hpos : 0 < (s.settings.maxCyclesPerFrame : Int) :=
    Int.ofNat_lt.2 s.settings.maxCyclesPerFrame_pos
  obtain ⟨hrun, hcases⟩ := Machine.runWithin_frames hpos hm
  rw [Int.toNat_natCast] at hcases
  rcases hcases with ⟨hready, hframes, k, hk, hframe, hbefore⟩ |
    ⟨hready, hframes, hdisplay, hn, hnone⟩
  · rw [hready, if_pos rfl] at hresult
    have htakes : (⟨s, .wait⟩ : Turn).Takes n := {
      run_eq := by rw [hafter, hrun]
      cycles_eq := by rw [hafter]
      none_iff := by
        rw [hresult]
        constructor
        · intro hd
          cases hd
        · rintro ⟨-, hnone⟩
          exact absurd hframe (Bool.eq_false_iff.1 (hnone k (by omega)))
      display_eq := by
        intro hd
        cases hresult.symm.trans hd
      shown := by
        intro d hd
        cases hresult.symm.trans hd
        rw [hafter]
        exact ⟨rfl, k, hk, hframe, hbefore⟩ }
    refine ⟨n, htakes, ?_⟩
    rw [hresult, hframes]
    rfl
  · rw [hready, if_neg Bool.false_ne_true] at hresult
    have htakes : (⟨s, .wait⟩ : Turn).Takes n := {
      run_eq := by rw [hafter, hrun]
      cycles_eq := by rw [hafter]
      none_iff := ⟨fun _ => ⟨hn, hnone⟩, fun _ => hresult⟩
      display_eq := by
        intro _
        rw [hafter, hdisplay]
      shown := by
        intro d hd
        cases hresult.symm.trans hd }
    refine ⟨n, htakes, ?_⟩
    rw [hresult, hframes]
    rfl

/-- The events of a wait are the cycles that it takes. -/
theorem events_of_takes {n : Nat} (hact : t.act = .wait) (h : t.Takes n) :
    t.events = .replicate n .cycle := by
  rw [events, hact, h.cycles_eq, Nat.add_sub_cancel_left]

/-- An act other than a wait is carried out, or it presses a key that
does not exist. It has no frames, shows nothing, and is not worth a
note. -/
theorem replay_of_ne_wait (hact : t.act ≠ .wait) :
    t.before.machine.replay t.events = .ok t.after.machine ∧
      t.before.machine.frames t.events = [] ∧ shownDisplays [t.result] = [] ∧
      (t.before.perform t.act.command).notice = none := by
  obtain ⟨s, act⟩ := t
  cases act with
  | wait => exact absurd rfl hact
  | release => exact ⟨rfl, rfl, rfl, rfl⟩
  | tick => exact ⟨rfl, rfl, rfl, rfl⟩
  | press key =>
    simp only [events, after, result, Act.command, Session.perform, Machine.pressInt]
    cases Key.ofInt? key with
    | none => exact ⟨rfl, rfl, rfl, rfl⟩
    | some k => exact ⟨rfl, rfl, rfl, rfl⟩

/-- A turn in which no wait fails adds its events to the run, and shows
the frames among them. -/
theorem replay_frames (hok : t.act = .wait → t.result.isOk = true) :
    t.before.machine.replay t.events = .ok t.after.machine ∧
      t.before.machine.frames t.events = shownDisplays [t.result] := by
  by_cases hact : t.act = .wait
  · obtain ⟨n, htakes, hframes⟩ := takes_of_wait hact (hok hact)
    rw [events_of_takes hact htakes, Machine.replay_replicate_cycle]
    exact ⟨htakes.run_eq, hframes⟩
  · obtain ⟨hreplay, hframes, hshown, -⟩ := replay_of_ne_wait hact
    exact ⟨hreplay, hframes.trans hshown.symm⟩

end Turn

/-! ### All turns -/

theorem shownDisplays_append (rs rs' : List (Except Error (Option Display))) :
    shownDisplays (rs ++ rs') = shownDisplays rs ++ shownDisplays rs' :=
  List.filterMap_append

/-- In turns in which no wait fails, what is shown is the frames of the
run. -/
theorem Session.turns_frames {s : Session} {acts : List Act}
    (hok : ∀ t ∈ s.turns acts, t.act = .wait → t.result.isOk = true) :
    s.machine.replay ((s.turns acts).flatMap Turn.events) = .ok (s.afterActs acts).machine ∧
      s.machine.frames ((s.turns acts).flatMap Turn.events)
        = shownDisplays ((s.turns acts).map Turn.result) := by
  induction acts generalizing s with
  | nil => exact ⟨rfl, rfl⟩
  | cons a acts ih =>
    rw [turns] at hok ⊢
    obtain ⟨hreplay, hframes⟩ := Turn.replay_frames (hok _ List.mem_cons_self)
    obtain ⟨hreplay', hframes'⟩ := ih fun t ht => hok t (List.mem_cons_of_mem _ ht)
    rw [List.flatMap_cons, List.map_cons, Machine.frames_append hreplay, hframes, hframes',
      ← shownDisplays_append]
    exact ⟨Machine.replay_trans hreplay hreplay', rfl⟩

namespace Console

/-- What a console tells of a turn: the command and what it led to. -/
def report (t : Turn) : Command × Except Error (Option Display) := (t.act.command, t.result)

/-- A result that is reported as a success is the result of the
session. -/
theorem reported_of_isOk {c : Console} {elapsed : Seconds} {o : Outcome}
    (h : (c.reported elapsed o).isOk = true) : c.reported elapsed o = o.result := by
  cases hnotice : o.notice with
  | none => exact reported_of_none hnotice elapsed
  | some notice =>
    rw [reported_of_some hnotice] at h ⊢
    cases hrecords : c.logger.recordsOf (notice.call elapsed) with
    | error e =>
      rw [hrecords] at h
      cases h
    | ok records => rfl

/-- A console tells of an act what its session does; only for a wait that
fails may it tell of another error. -/
theorem reported_act (c : Console) (elapsed : Seconds) (a : Act) :
    let t : Turn := ⟨c.session, a⟩
    (c.reported elapsed (c.session.perform a.command)).isOk = t.result.isOk ∧
      ((a = .wait → t.result.isOk = true) →
        c.reported elapsed (c.session.perform a.command) = t.result) := by
  intro t
  have hok : (c.reported elapsed (c.session.perform a.command)).isOk = t.result.isOk := by
    rcases c.isOk_reported elapsed a.command with heq | ⟨⟨n, hn⟩, -⟩
    · exact heq
    · cases a <;> cases hn
  refine ⟨hok, fun hwait => ?_⟩
  by_cases hact : t.act = .wait
  · exact reported_of_isOk (hok.trans (hwait hact))
  · obtain ⟨-, -, -, hnotice⟩ := t.replay_of_ne_wait hact
    exact reported_of_none hnotice elapsed

/-- A console carries out acts as its session does, and tells of them
what the session does unless a wait fails. -/
theorem performAll_acts (c : Console) (acts : List Act) (scene : Scene) :
    ∃ lg history scene', (c.performAll (acts.map Act.command) : InScene _) scene
        = (({ session := c.session.afterActs acts, logger := lg }, history), scene') ∧
      (history.map fun e => (e.1, e.2.isOk))
        = ((c.session.turns acts).map fun t => (t.act.command, t.result.isOk)) ∧
      ((∀ t ∈ c.session.turns acts, t.act = .wait → t.result.isOk = true) →
        history = (c.session.turns acts).map report) := by
  induction acts generalizing c scene with
  | nil => exact ⟨c.logger, [], scene, rfl, rfl, fun _ => rfl⟩
  | cons a acts ih =>
    obtain ⟨elapsed, lg₁, scene₁, hperform⟩ := c.perform_inScene a.command scene
    obtain ⟨hok, hresult⟩ := c.reported_act elapsed a
    obtain ⟨lg, history, scene', hmore, hoks, hreport⟩ :=
      ih { session := (⟨c.session, a⟩ : Turn).after, logger := lg₁ } scene₁
    refine ⟨lg, (a.command, c.reported elapsed (c.session.perform a.command)) :: history, scene',
      performAll_cons hperform hmore, ?_, ?_⟩
    · rw [List.map_cons, hoks, hok]
      rfl
    · intro hwaits
      rw [Session.turns] at hwaits ⊢
      rw [hreport fun t ht => hwaits t (List.mem_cons_of_mem _ ht),
        hresult (hwaits _ List.mem_cons_self)]
      rfl

/-- Let a host wait for frames, and between the waits press and release
keys and count the timers down, so that all waits come to their end. The
displays that are shown are the frames of the run of the machine, in
order: the displays right after each retired instruction that clears the
screen or draws.

A wait shows nothing just if it carries out as many cycles as the
settings allow and none of them completes a frame, and then the display
is what it was. A wait that shows a display has carried out the cycles up
to the first that completes a frame. The count of cycles goes up by just
the cycles that are carried out. -/
theorem performAll_frames (c c' : Console) (acts : List Act) (scene scene' : Scene)
    (history : List (Command × Except Error (Option Display)))
    (hperform : (c.performAll (acts.map Act.command) : InScene _) scene
      = ((c', history), scene'))
    (hwaits : ∀ e ∈ history, e.1 = .waitForFrame → e.2.isOk = true) :
    let turns := c.session.turns acts
    let events := turns.flatMap Turn.events
    history = turns.map report ∧
      c'.session = c.session.afterActs acts ∧
      c.session.machine.replay events = .ok c'.session.machine ∧
      shownDisplays (history.map Prod.snd) = c.session.machine.frames events ∧
      ∀ t ∈ turns, t.act = .wait → ∃ n, t.events = .replicate n .cycle ∧ t.Takes n := by
  intro turns events
  obtain ⟨lg, history', scene'', hperform', hoks, hreport⟩ := c.performAll_acts acts scene
  cases hperform.symm.trans hperform'
  have hwaits' : ∀ t ∈ turns, t.act = .wait → t.result.isOk = true := by
    intro t ht hact
    have hmem : (t.act.command, t.result.isOk) ∈ history.map fun e => (e.1, e.2.isOk) := by
      rw [hoks]
      exact List.mem_map_of_mem ht
    obtain ⟨e, he, heq⟩ := List.mem_map.1 hmem
    obtain ⟨hcommand, hok⟩ := Prod.mk.inj heq
    rw [← hok]
    exact hwaits e he (by rw [hcommand, hact]; rfl)
  obtain ⟨hreplay, hframes⟩ := Session.turns_frames hwaits'
  have hhistory : history = turns.map report := hreport hwaits'
  refine ⟨hhistory, rfl, hreplay, ?_, fun t ht hact => ?_⟩
  · rw [hframes, hhistory, List.map_map]
    rfl
  · obtain ⟨n, htakes, -⟩ := Turn.takes_of_wait hact (hwaits' t ht hact)
    exact ⟨n, Turn.events_of_takes hact htakes, htakes⟩

/-- A program that clears the screen and then jumps to itself, with a
budget of two cycles. The first wait takes one cycle and shows a display;
the second one spends the budget and shows none. -/
theorem performAll_frames_clear :
    let settings : Settings := ⟨11, 2, 0, "INFO", false, by decide, by decide,
      Settings.writable_of_fits (by decide) (by decide)⟩
    let rom : Rom := [0x00, 0xE0, 0x12, 0x02]
    let scene : Scene := { files := fun _ => .ok rom }
    let acts : List Act := [.wait, .press 5, .wait]
    ∃ c scene₀, (start "game.ch8" settings none : InScene _) scene = (.ok c, scene₀) ∧
      ∃ c' history scene', (c.performAll (acts.map Act.command) : InScene _) scene₀
          = ((c', history), scene') ∧
        (∀ e ∈ history, e.1 = .waitForFrame → e.2.isOk = true) ∧
        c.session.machine.replay [.cycle, .press 5, .cycle, .cycle] = .ok c'.session.machine ∧
        shownDisplays (history.map Prod.snd)
          = c.session.machine.frames [.cycle, .press 5, .cycle, .cycle] ∧
        shownDisplays (history.map Prod.snd) = [.blank] := by
  intro settings rom scene acts
  have hlevel : (Log.Level.choose? settings.logLevel).isSome = true := by decide +kernel
  obtain ⟨level, hlevel⟩ := Option.isSome_iff_exists.1 hlevel
  -- The turns do not depend on the logger, so they can be evaluated beforehand.
  have hcheck : (Machine.ofSeed settings.seed >>= fun s => s.load rom).toOption.any (fun s₀ =>
      let turns := Session.turns { settings, initial := s₀, machine := s₀ } acts
      turns.all (·.result.isOk) && shownDisplays (turns.map Turn.result) = [.blank] &&
        turns.flatMap Turn.events = [.cycle, .press 5, .cycle, .cycle]) = true := by
    decide +kernel
  obtain ⟨s₀, hload, hcheck⟩ := ok_of_any hcheck
  simp only [Bool.and_eq_true, List.all_eq_true, decide_eq_true_eq] at hcheck
  obtain ⟨⟨hoks, hshown⟩, hevents⟩ := hcheck
  have hfile : scene.files "game.ch8" = .ok rom := rfl
  obtain ⟨lg, scene₀, hstart⟩ := start_inScene hfile (by decide) hlevel hload
  obtain ⟨lg', history, scene', hperform, -, hreport⟩ := performAll_acts
    { session := { settings, initial := s₀, machine := s₀ }, logger := lg } acts scene₀
  have hhistory := hreport fun t ht _ => hoks t ht
  have hwaits : ∀ e ∈ history, e.1 = .waitForFrame → e.2.isOk = true := by
    rw [hhistory]
    intro e he _
    obtain ⟨t, ht, rfl⟩ := List.mem_map.1 he
    exact hoks t ht
  obtain ⟨-, -, hreplay, hframes, -⟩ := performAll_frames _ _ acts _ _ _ hperform hwaits
  rw [hevents] at hreplay hframes
  refine ⟨_, scene₀, hstart, _, history, scene', hperform, hwaits, hreplay, hframes, ?_⟩
  rw [← hshown, hhistory, List.map_map]
  rfl

end Console

end Chip8
