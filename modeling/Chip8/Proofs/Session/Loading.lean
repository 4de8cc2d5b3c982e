import Chip8.Proofs.Session.Console
import Chip8.Proofs.Machine.Within

/-!
# `Chip8.Proofs.Session.Loading`: a program is loaded byte by byte

A program that fits is put at `0x200`, each byte at its place, and nothing
else is touched (`Machine.read_loaded`). What has lain there before stays
only where the program has no byte of its own, so that of two programs that
are loaded one after the other the second one is read, followed by what is
left of the first (`Memory.writeBlock_writeBlock`). A word of the program is
then fetched from two bytes, wherever they lie.

There are three ways to load a program: from its bytes, from a file
(`Machine.loadFile_inScene`), and by opening a console on the file
(`Console.start_load`). The last one checks the size of the program before
the machine does it again; the second check finds what the first has found
(`Rom.accept_bind_load`). The main statement, `load_threeWays`, is that they
all come to the same.
-/

set_option autoImplicit false

namespace Chip8

/-- Of two blocks at the same address the second one is read, followed by
what is left of the first. -/
theorem Memory.writeBlock_writeBlock (m : Memory) (a : Nat) (bs cs : List UInt8) :
    (m.writeBlock a bs).writeBlock a cs = m.writeBlock a (cs ++ bs.drop cs.length) := by
  refine ext_read fun i hi => ?_
  simp only [read_writeBlock, List.length_append, List.length_drop]
  by_cases hcs : a ≤ i ∧ i < a + cs.length
  · rw [dif_pos ⟨hcs.1, hcs.2, hi⟩, dif_pos ⟨hcs.1, by omega, hi⟩,
      List.getElem_append_left]
  · rw [dif_neg (by omega)]
    by_cases hbs : a ≤ i ∧ i < a + bs.length
    · rw [dif_pos ⟨hbs.1, hbs.2, hi⟩, dif_pos ⟨hbs.1, by omega, hi⟩,
        List.getElem_append_right (by omega), List.getElem_drop]
      congr 1
      omega
    · rw [dif_neg (by omega), dif_neg (by omega)]

/-- A program is refused with its size and the size that fits. -/
theorem Error.message_romTooLarge (size : Nat) :
    (romTooLarge size).message
      = s!"ROM is {size} bytes, at most {3584} bytes fit in memory" := by
  have hmax : Rom.maxSize = 3584 := rfl
  unfold message
  rw [hmax]

/-! ### From its bytes -/

namespace Machine

variable {s t : Machine} {rom first : Rom}

/-- The machine with the bytes of a program at their place. -/
def loaded (s : Machine) (rom : Rom) : Machine :=
  { s with memory := s.memory.writeBlock 0x200 rom }

theorem load_of_le (s : Machine) (hrom : rom.length ≤ 3584) : s.load rom = .ok (s.loaded rom) :=
  load_eq_ok_iff.2 ⟨hrom, rfl⟩

theorem load_of_lt (s : Machine) (hrom : 3584 < rom.length) :
    s.load rom = .error (.romTooLarge rom.length) := by
  have hlarge : ¬rom.length ≤ Rom.maxSize := Nat.not_le.2 hrom
  rw [load, loadRom?, if_neg hlarge]

/-- Each byte of a program lies at its place. -/
theorem read_loaded {i : Nat} (hrom : rom.length ≤ 3584) (hi : i < rom.length) :
    (s.loaded rom).memory.read (0x200 + i) = rom[i] := by
  rw [loaded]
  exact Memory.read_writeBlock_add hi (by omega)

theorem read_loaded_of_outside {a : Nat} (ha : a < 0x200 ∨ 0x200 + rom.length ≤ a) :
    (s.loaded rom).memory.read a = s.memory.read a :=
  Memory.read_writeBlock_of_outside ha

/-- A program over another one. -/
theorem load_load (s : Machine) (hfirst : first.length ≤ 3584) (hrom : rom.length ≤ 3584) :
    (s.load first >>= fun t => t.load rom) = s.load (rom ++ first.drop rom.length) := by
  have hboth : (rom ++ first.drop rom.length).length ≤ 3584 := by
    rw [List.length_append, List.length_drop]
    omega
  rw [s.load_of_le hfirst, s.load_of_le hboth]
  show (s.loaded first).load rom = _
  rw [load_of_le _ hrom, loaded, loaded, loaded, Memory.writeBlock_writeBlock]

/-- Two bytes that lie in memory are fetched as one word. -/
theorem fetch_of_lt (hpc : s.pc.toNat + 1 < 4096) :
    ∃ w, s.fetch = .ok ({ s with pc := s.pc + 2 }, w) ∧
      w.toNat = 256 * (s.memory.read s.pc.toNat).toNat
        + (s.memory.read (s.pc.toNat + 1)).toNat :=
  ⟨_, if_pos hpc, Word.toNat_ofBytes _ _⟩

/-! ### From a file -/

/-- A file that can be read is loaded as the bytes that it holds. -/
theorem loadFile_inScene {path : String} {scene : Scene} (s : Machine)
    (hfile : scene.files path = .ok rom) :
    (s.loadFile path : InScene _) scene = (s.load rom, scene) := by
  have hfiles : (Surroundings.readFile path : InScene _) scene = (.ok rom, scene) :=
    congrArg (·, scene) hfile
  have hread : (Rom.readFile path : InScene _) scene = (.ok rom, scene) := by
    rw [Rom.readFile, bind_inScene hfiles]
    rfl
  rw [loadFile, bind_inScene hread]
  rfl

end Machine

/-- A program whose size has been checked is loaded as it would be without
that. -/
theorem Rom.accept_bind_load (path : String) (rom : Rom) (s : Machine) :
    (accept path (.ok rom) >>= fun rom => s.load rom) = s.load rom := by
  rw [accept]
  split
  next hlarge => exact (s.load_of_lt hlarge).symm
  next => rfl

/-! ### By opening a console -/

namespace Console

/-- A console that is opened starts with the program in a fresh machine, or
not at all. -/
theorem start_load {path : String} {settings : Settings} {options? : Option Log.Options}
    {level : Log.Level} {rom : Rom} {scene : Scene} (hfile : scene.files path = .ok rom)
    (hseed : FitsSigned 64 settings.seed)
    (hlevel : Log.Level.choose? (options?.getD { level := settings.logLevel }).level = some level)
    (hkind : (options?.getD { level := settings.logLevel }).kind = .sessions) :
    ∃ lg scene', (start path settings options? : InScene _) scene
      = (((Machine.boot (.ofSeed settings.seed)).load rom).map fun t =>
          { session := { settings, initial := t, machine := t }, logger := lg }, scene') := by
  obtain ⟨lg, scene', hstart⟩ := start_accept path options? hlevel hkind
    (Text.Numeral.isWritable_of_fits hseed) scene
  refine ⟨lg, scene', hstart.trans ?_⟩
  have hboot : Machine.ofSeed settings.seed = .ok (.boot (.ofSeed settings.seed)) :=
    Machine.ofSeed_eq_ok_iff.2 ⟨hseed, rfl⟩
  rw [hfile, ← Rom.accept_bind_load path rom]
  cases Rom.accept path (.ok rom) with
  | error e => rfl
  | ok rom =>
    show ((Session.start settings rom).map _, scene') = (((Machine.boot _).load rom).map _, scene')
    rw [Session.start_eq, hboot]
    show ((((Machine.boot _).load rom).map _).map _, scene') = _
    cases (Machine.boot (.ofSeed settings.seed)).load rom <;> rfl

end Console

/-- The bytes of a program that fits are put in at their places, and nothing
else changes. A program over another one is read with what is left of that
behind it. Words are fetched from two bytes, at any address, even or odd,
and also where only one of the bytes is of the program. A program that does
not fit is refused with its size.

A file that holds the program is loaded as its bytes are, with the same
machine or the same error. A console that is opened on the file, with
settings that are accepted and any logger for sessions, starts with a fresh
machine that the program has been loaded into, or is refused with the same
error. -/
theorem load_threeWays (s : Machine) (rom : Rom) :
    (rom.length ≤ 3584 → ∃ t, s.load rom = .ok t ∧
      (∀ i (hi : i < rom.length), t.memory.read (0x200 + i) = rom[i]) ∧
      (∀ a, a < 0x200 ∨ 0x200 + rom.length ≤ a → t.memory.read a = s.memory.read a) ∧
      t = { s with memory := t.memory } ∧
      (∀ first : Rom, first.length ≤ 3584 →
        (s.load first >>= fun u => u.load rom) = s.load (rom ++ first.drop rom.length)) ∧
      ∀ pc : Word, pc.toNat + 1 < 4096 →
        ∃ w, ({ t with pc } : Machine).fetch = .ok ({ t with pc := pc + 2 }, w) ∧
          w.toNat = 256 * (t.memory.read pc.toNat).toNat + (t.memory.read (pc.toNat + 1)).toNat) ∧
    (3584 < rom.length → s.load rom = .error (.romTooLarge rom.length) ∧
      (Error.romTooLarge rom.length).message
        = s!"ROM is {rom.length} bytes, at most {3584} bytes fit in memory") ∧
    (∀ (path : String) (scene : Scene), scene.files path = .ok rom →
      (s.loadFile path : InScene _) scene = (s.load rom, scene)) ∧
    ∀ (path : String) (settings : Settings) (options? : Option Log.Options) (level : Log.Level)
      (scene : Scene), scene.files path = .ok rom → FitsSigned 64 settings.seed →
      let options := options?.getD { level := settings.logLevel }
      Log.Level.choose? options.level = some level → options.kind = .sessions →
      ∃ lg scene', (Console.start path settings options? : InScene _) scene
        = (((Machine.boot (.ofSeed settings.seed)).load rom).map fun t =>
            { session := { settings, initial := t, machine := t }, logger := lg }, scene') := by
  refine ⟨fun hrom => ?_, fun hrom => ⟨s.load_of_lt hrom, Error.message_romTooLarge _⟩,
    fun path scene => s.loadFile_inScene,
    fun path settings options? level scene hfile hseed hlevel hkind =>
      Console.start_load hfile hseed hlevel hkind⟩
  refine ⟨_, s.load_of_le hrom, fun i hi => Machine.read_loaded hrom hi,
    fun a ha => Machine.read_loaded_of_outside ha, rfl, fun first hfirst => s.load_load hfirst hrom,
    fun pc hpc => Machine.fetch_of_lt hpc⟩

/-- A program of three bytes. The word at `0x202` has the last of them and
a byte of the memory behind it. Over a program of five bytes, the last two
of these are left. A program of 3585 bytes does not fit. -/
theorem load_threeWays_odd :
    let s := Machine.boot (.ofSeed 7)
    let rom : Rom := [0x12, 0x34, 0x56]
    let large : Rom := List.replicate 3585 0
    let settings : Settings := ⟨11, 10000, 7, "INFO", false, by decide, by decide,
      Settings.writable_of_fits (by decide) (by decide)⟩
    let scene : Scene := { files := fun _ => .ok rom }
    rom.length ≤ 3584 ∧ FitsSigned 64 settings.seed ∧
    (Log.Level.choose? settings.logLevel).isSome = true ∧ ∃ t, s.load rom = .ok t ∧
      (∃ w, ({ t with pc := 0x202 } : Machine).fetch = .ok ({ t with pc := 0x204 }, w) ∧
        w.toNat = 0x5600) ∧
      (s.load [1, 2, 3, 4, 5] >>= fun u => u.load rom) = s.load [0x12, 0x34, 0x56, 4, 5] ∧
      s.load large = .error (.romTooLarge 3585) ∧
      (s.loadFile "game.ch8" : InScene _) scene = (.ok t, scene) ∧
      ∃ lg scene', (Console.start "game.ch8" settings none : InScene _) scene
        = (.ok { session := { settings, initial := t, machine := t }, logger := lg }, scene') := by
  intro s rom large settings scene
  have hrom : rom.length ≤ 3584 := by decide
  have hlarge : large.length = 3585 := List.length_replicate
  have hseed : FitsSigned 64 settings.seed := by decide
  have hsome : (Log.Level.choose? settings.logLevel).isSome = true := by decide +kernel
  obtain ⟨level, hlevel⟩ := Option.isSome_iff_exists.1 hsome
  have hfile : scene.files "game.ch8" = .ok rom := rfl
  obtain ⟨hfits, -, hloadFile, hopen⟩ := load_threeWays s rom
  obtain ⟨-, hrefused, -, -⟩ := load_threeWays s large
  obtain ⟨t, ht, hbytes, hother, -, hover, hfetch⟩ := hfits hrom
  obtain ⟨w, hw, hvalue⟩ := hfetch 0x202 (by decide)
  obtain ⟨lg, scene', hstart⟩ := hopen "game.ch8" settings none level scene hfile hseed hlevel rfl
  refine ⟨hrom, hseed, hsome, t, ht, ⟨w, hw, ?_⟩, hover _ (by decide), ?_,
    (hloadFile _ _ hfile).trans (by rw [ht]), lg, scene', hstart.trans ?_⟩
  · have hlast : t.memory.read (0x202 : Word).toNat = 0x56 := hbytes 2 (by decide)
    have hnext : t.memory.read ((0x202 : Word).toNat + 1) = 0 :=
      (hother 0x203 (.inr (by decide))).trans <|
        (Memory.read_writeBlock_of_outside (.inr (by decide))).trans Memory.read_zero
    rw [hvalue, hlast, hnext]
    rfl
  · rw [(hrefused (by omega)).1, hlarge]
  · rw [show (Machine.boot (.ofSeed settings.seed)).load rom = .ok t from ht]
    rfl

end Chip8
