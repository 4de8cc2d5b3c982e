import Chip8.Proofs.Machine.Blocked
import Chip8.Proofs.Machine.Timers
import Chip8.Proofs.Session.FrameByFrame

/-!
# `Chip8.Proofs.Session.Blocked`: waiting for a key, frame by frame

While a program waits for a key, a frame of a session has nothing to do
but to count the timers down (`stepFrame_of_waits`). `Session.Idles` is
what any number of such frames come to, and `Idles.step` is the step of
the induction: the machine still waits, so the next frame does the same.

The main statement, `performAll_blocked`, says this of a console, and that
the key ends the wait however long it has been. Before that it says of a
machine what it is to be blocked.
-/

set_option autoImplicit false

namespace Chip8

namespace Session

variable {s t : Session} {x : Fin 16} {k : Nat}

/-- The session `t` is what the session `s` has become after `k` frames in
which nothing happened. The timers have been counted down, and the frame
flag has been taken away. -/
structure Idles (s : Session) (k : Nat) (t : Session) : Prop where
  delay_eq : t.machine.delay.toNat = s.machine.delay.toNat - k
  sound_eq : t.machine.sound.toNat = s.machine.sound.toNat - k
  frameReady_eq : 0 < k → t.machine.frameReady = false
  session_eq : t = { s with
    machine := { s.machine with
      delay := t.machine.delay
      sound := t.machine.sound
      frameReady := t.machine.frameReady }
    frames := s.frames + k
    cycles := s.cycles + k * s.settings.cyclesPerFrame }

theorem idles_zero (s : Session) : s.Idles 0 s where
  delay_eq := rfl
  sound_eq := rfl
  frameReady_eq := nofun
  session_eq := by rw [Nat.zero_mul]; rfl

/-- A frame that is spent waiting. -/
theorem stepFrame_of_waits (h : s.machine.Waits x)
    (hc : s.settings.cyclesPerFrame < signedBound 32) :
    s.stepFrame = .ok { s with
      machine := ({ s.machine with frameReady := false } : Machine).tick
      frames := s.frames + 1
      cycles := s.cycles + s.settings.cyclesPerFrame } := by
  have hpos := s.settings.cyclesPerFrame_pos
  have hbatch : s.machine.runCycles s.settings.cyclesPerFrame
      = .ok { s.machine with frameReady := false } := by
    rw [h.blocked.runCycles_eq (by omega) (by omega), h.cycle_eq]
    rfl
  rw [stepFrame, hbatch]
  rfl

/-- The machine still waits. -/
theorem Idles.waits (h : s.Idles k t) (hs : s.machine.Waits x) : t.machine.Waits x := by
  rw [h.session_eq]
  exact hs.of_timers _ _ _

/-- One more frame is spent waiting. -/
theorem Idles.step (h : s.Idles k t) (hs : s.machine.Waits x)
    (hc : s.settings.cyclesPerFrame < signedBound 32) :
    ∃ u, t.stepFrame = .ok u ∧ s.Idles (k + 1) u := by
  have hsettings : t.settings = s.settings := by rw [h.session_eq]
  refine ⟨_, stepFrame_of_waits (h.waits hs) (hsettings ▸ hc), ?_, ?_, fun _ => rfl, ?_⟩
  · show (Timer.tick t.machine.delay).toNat = _
    rw [Timer.toNat_tick, h.delay_eq, Nat.sub_sub]
  · show (Timer.tick t.machine.sound).toNat = _
    rw [Timer.toNat_tick, h.sound_eq, Nat.sub_sub]
  · -- Both counts are those of the frames before, and one frame more.
    rw [h.session_eq]
    simp only [Machine.tick, Nat.succ_mul, Nat.add_assoc]

/-- Any number of frames can be spent waiting. -/
theorem stepFrames_of_waits (hs : s.machine.Waits x)
    (hc : s.settings.cyclesPerFrame < signedBound 32) (k : Nat) :
    ∃ t, s.stepFrames k = (t, none) ∧ s.Idles k t := by
  induction k with
  | zero => exact ⟨s, rfl, s.idles_zero⟩
  | succ k ih =>
    obtain ⟨t, hframes, hidles⟩ := ih
    obtain ⟨u, hu, hidles'⟩ := hidles.step hs hc
    refine ⟨u, ?_, hidles'⟩
    rw [stepFrames_trans hframes, stepFrames_of_ok hu]
    rfl

end Session

namespace Console

/-- A key that there is can be pressed at any time. -/
theorem perform_press (c : Console) (j : Key) (scene : Scene) :
    (c.perform (.press j) : InScene _) scene
      = (({ c with session := { c.session with machine := c.session.machine.press j } }, .ok none),
        scene) := by
  have hkey : Key.ofInt? j = some j := by
    revert j
    decide
  have houtcome : c.session.perform (.press j)
      = { session := { c.session with machine := c.session.machine.press j }, result := .ok none } := by
    rw [Session.perform, Machine.pressInt, hkey]
  exact perform_unnoted houtcome rfl (by simp) scene

/-- If the next cycle of a machine changes nothing but the frame flag at
most, then `n` cycles do what one does, for any `n` from one on that a
counter of 32 bits can hold. A larger number is refused. This is so for a
jump to its own address, and for a wait for a key while none is held down,
wherever in memory these words are.

A console whose program waits for a key can run any number of frames. They
count the timers down and take the frame flag away, the two counts grow
with each of them, and nothing else changes. Then a key is pressed,
whichever it is: the next cycle puts its number into the register, the
program goes on behind the word, the key stays down, and nothing else
changes but the frame flag. -/
theorem performAll_blocked :
    (∀ s t : Machine, s.cycle = .ok t → t = { s with frameReady := t.frameReady } →
      (∀ n : Int, 1 ≤ n → n < signedBound 32 → s.runCycles n = .ok t) ∧
      ∀ n : Int, signedBound 32 ≤ n → s.runCycles n = .error (.tooWide n)) ∧
    (∀ (s : Machine) (a : Address), s.word = .ofAddress 0x1 a → s.pc = a.toWord →
      s.cycle = .ok { s with frameReady := false }) ∧
    (∀ (s : Machine) (x : Fin 16), s.Waits x → s.cycle = .ok { s with frameReady := false }) ∧
    ∀ (c : Console) (x : Fin 16) (k : Nat) (scene : Scene), c.session.machine.Waits x →
      c.session.settings.cyclesPerFrame < signedBound 32 →
      ∃ t history, (c.performAll (.replicate k .stepFrame) : InScene _) scene
          = (({ c with session := t }, history), scene) ∧
        (∀ entry ∈ history, entry.2.isOk = true) ∧ c.session.Idles k t ∧
        ∀ j : Key,
          ((({ c with session := t } : Console).perform (.press j)) : InScene _) scene
            = (({ c with session := { t with machine := t.machine.press j } }, .ok none), scene) ∧
          (t.machine.press j).cycle = .ok { t.machine with
            registers := c.session.machine.registers.set x (UInt8.ofNat j)
            pc := c.session.machine.pc + 2
            key := .holding j
            frameReady := false } ∧
          (c.session.machine.pc + 2).toNat = c.session.machine.pc.toNat + 2 := by
  refine ⟨fun s t hcycle hsame => ⟨fun n hpos hn => ?_, fun n => Machine.runCycles_of_le⟩,
    fun s a => Machine.cycle_selfJump, fun s x hs => hs.cycle_eq, fun c x k scene hs hc => ?_⟩
  · have hblocked : s.Blocked := ⟨t.frameReady, by rw [hcycle, ← hsame]⟩
    rw [hblocked.runCycles_eq hpos hn, hcycle]
    rfl
  · obtain ⟨t, hframes, hidles⟩ := Session.stepFrames_of_waits hs hc k
    obtain ⟨history, hperform, hok⟩ := performAll_stepFrames hframes scene
    refine ⟨t, history, hperform, hok, hidles, fun j => ⟨perform_press _ j scene, ?_, hs.toNat_next⟩⟩
    have hregisters : t.machine.registers = c.session.machine.registers := by
      rw [hidles.session_eq]
    have hpc : t.machine.pc = c.session.machine.pc := by rw [hidles.session_eq]
    rw [(hidles.waits hs).cycle_press j, hregisters, hpc]

/-- A program sets the delay timer to 5, which takes one frame of two
cycles, and waits for a key to go into the same register. After three more
frames the timer holds 1. Then the key zero is pressed. -/
theorem performAll_blocked_key :
    let settings : Settings := ⟨2, 10000, 0, "INFO", false, by decide, by decide,
      Settings.writable_of_fits (by decide) (by decide)⟩
    let rom : Rom := [0x60, 0x05, 0xF0, 0x15, 0xF0, 0x0A]
    let scene : Scene := { files := fun _ => .ok rom }
    (1 : Int) ≤ 1000000 ∧ (1000000 : Int) < signedBound 32 ∧
    ∃ c₀ s scene₀, (start "game.ch8" settings none : InScene _) scene = (.ok c₀, scene₀) ∧
      c₀.session.stepFrame = .ok s ∧ s.machine.Waits 0 ∧
      s.settings.cyclesPerFrame < signedBound 32 ∧
      s.machine.runCycles 1000000 = .ok s.machine ∧
      ∃ t history, (({ c₀ with session := s } : Console).performAll (.replicate 3 .stepFrame)
          : InScene _) scene₀ = (({ c₀ with session := t }, history), scene₀) ∧
        t.machine.delay.toNat = 1 ∧ t.frames = 4 ∧ t.cycles = 8 ∧
        ∃ u, (t.machine.press 0).cycle = .ok u ∧ s.machine.registers.get 0 = 5 ∧
          u.registers.get 0 = 0 ∧ u.pc = 0x206 ∧ u.key = .holding 0 := by
  intro settings rom scene
  have hlevel : (Log.Level.choose? settings.logLevel).isSome = true := by decide +kernel
  obtain ⟨level, hlevel⟩ := Option.isSome_iff_exists.1 hlevel
  have hcheck : (Machine.ofSeed settings.seed >>= fun s => s.load rom).toOption.any (fun s₀ =>
      let session : Session := { settings, initial := s₀, machine := s₀ }
      session.stepFrame.toOption.any fun s =>
        s.machine.pc == 0x204 && s.machine.word == .ofNibbles 0xF 0 0x0 0xA &&
          s.machine.key == .empty && s.machine.delay == 4 && s.machine.registers.get 0 == 5 &&
          s.machine.frameReady == false && s.frames == 1 && s.cycles == 2 &&
          s.settings.cyclesPerFrame == 2) = true := by
    decide +kernel
  obtain ⟨s₀, hload, hcheck⟩ := ok_of_any hcheck
  obtain ⟨s, hs, hcheck⟩ := ok_of_any hcheck
  simp only [Bool.and_eq_true, beq_iff_eq] at hcheck
  obtain ⟨⟨⟨⟨⟨⟨⟨⟨hpc, hword⟩, hkey⟩, hdelay⟩, hregister⟩, hready⟩, hframes⟩, hcycles⟩, hc⟩ := hcheck
  have hwaits : s.machine.Waits 0 := ⟨by rw [hpc]; decide, hword, hkey⟩
  have hbound : s.settings.cyclesPerFrame < signedBound 32 := by rw [hc]; decide
  have hfile : scene.files "game.ch8" = .ok rom := rfl
  obtain ⟨lg, scene₀, hstart⟩ := start_inScene hfile (by decide) hlevel hload
  obtain ⟨hmany, -, hcycle, hconsole⟩ := performAll_blocked
  have hsame : ({ s.machine with frameReady := false } : Machine) = s.machine := by
    rw [← hready]
  have hblocked : s.machine.cycle = .ok s.machine := by
    rw [hcycle s.machine 0 hwaits, hsame]
  obtain ⟨t, history, hperform, -, hidles, hpress⟩ :=
    hconsole { session := s, logger := lg } 0 3 scene₀ hwaits hbound
  obtain ⟨-, hend, -⟩ := hpress 0
  refine ⟨by decide, by decide, _, s, scene₀, hstart, hs, hwaits, hbound,
    (hmany s.machine s.machine hblocked rfl).1 1000000 (by decide) (by decide), t, history,
    hperform, ?_, ?_, ?_, _, hend, hregister, ?_, ?_, rfl⟩
  · rw [hidles.delay_eq, hdelay]
    rfl
  · rw [hidles.session_eq]
    exact congrArg (· + 3) hframes
  · rw [hidles.session_eq]
    show s.cycles + 3 * s.settings.cyclesPerFrame = 8
    rw [hcycles, hc]
  · exact Registers.get_set.trans (if_pos rfl)
  · show s.machine.pc + 2 = 0x206
    rw [hpc]
    rfl

/-- A program waits for a key from the start, and a cycle changes nothing
at all. Asked for in one go, 2147483648 cycles are refused for their
number. -/
theorem runCycles_refuses_waiting :
    (∃ s, (Machine.boot ⟨0, 0⟩).load [0xF0, 0x0A] = .ok s ∧ s.Waits 0 ∧ s.cycle = .ok s ∧
      s.runCycles 2147483648 = .error (.tooWide 2147483648)) ∧
    ¬ ∀ s t : Machine, s.cycle = .ok t → t = { s with frameReady := t.frameReady } →
      ∀ n : Int, 1 ≤ n → s.runCycles n = .ok t := by
  have hcheck : ((Machine.boot ⟨0, 0⟩).load [0xF0, 0x0A]).toOption.any (fun s =>
      s.pc == 0x200 && s.word == .ofNibbles 0xF 0 0x0 0xA && s.key == .empty &&
        s.frameReady == false) = true := by
    decide +kernel
  obtain ⟨s, hload, hcheck⟩ := ok_of_any hcheck
  simp only [Bool.and_eq_true, beq_iff_eq] at hcheck
  obtain ⟨⟨⟨hpc, hword⟩, hkey⟩, hready⟩ := hcheck
  have hwaits : s.Waits 0 := ⟨by rw [hpc]; decide, hword, hkey⟩
  have hsame : ({ s with frameReady := false } : Machine) = s := by rw [← hready]
  have hcycle : s.cycle = .ok s := by rw [hwaits.cycle_eq, hsame]
  have hrefused : s.runCycles 2147483648 = .error (.tooWide 2147483648) :=
    Machine.runCycles_of_le (by decide)
  refine ⟨⟨s, hload, hwaits, hcycle, hrefused⟩, fun hclaim => ?_⟩
  cases hrefused.symm.trans (hclaim s s hcycle rfl 2147483648 (by decide))

end Console

end Chip8
