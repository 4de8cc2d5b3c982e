import Chip8.Proofs.Machine.Drawing
import Chip8.Proofs.Machine.StoreLoad

/-!
# `Chip8.Proofs.Machine.Digits`: a number on the screen

A program shows a number digit by digit. `FX33` puts the three decimal
digits of `VX` into memory, `F265` takes them into `V0`, `V1` and `V2`,
`Fj29` points the index register at the glyph of one of them, and `DAB5`
draws it.

The first two of these words are a block of their own (`execute_digits`),
and so are the other two (`execute_digit`), which draw any hexadecimal
digit. What ties them together is that the digits stay off the glyphs, so
that the font is still there to be drawn from (`HoldsFont.congr`), and that
the corner of the drawing is kept in registers that the digits do not go
into. The main statement, `executeAll_number`, is about all four words.
-/

set_option autoImplicit false

namespace Chip8

/-! ### The glyphs in memory -/

namespace Memory

variable {m m' : Memory} {i : Nat}

/-- Bytes that end in memory are read back where they were written. -/
theorem readBlock_writeBlock {a : Nat} {bs : List UInt8} (h : a + bs.length ≤ 4096) :
    (m.writeBlock a bs).readBlock a bs.length = bs := by
  refine List.ext_getElem (length_readBlock _) fun k hk hk' => ?_
  rw [getElem_readBlock]
  exact read_writeBlock_add hk' (by omega)

/-- The glyphs lie in memory. -/
def HoldsFont (m : Memory) : Prop := m.readBlock Font.start Font.data.length = Font.data

theorem HoldsFont.read (h : m.HoldsFont) (hi : i < 80) :
    m.read (Font.start + i) = Font.data.getD i 0 := by
  have hlength : Font.data.length = 80 := rfl
  rw [List.getD_eq_getElem?_getD, ← h, getD_readBlock, if_pos (by omega)]

/-- The glyphs stay where nothing is written over them. -/
theorem HoldsFont.congr (h : m.HoldsFont)
    (hread : ∀ a, 0x50 ≤ a → a ≤ 0x9F → m'.read a = m.read a) : m'.HoldsFont := by
  refine Eq.trans (List.map_congr_left fun k hk => hread _ (Nat.le_add_right ..) ?_) h
  have hlt : k < 80 := List.mem_range.1 hk
  show 0x50 + k ≤ 0x9F
  omega

end Memory

/-- A fresh machine has the font. -/
theorem Machine.holdsFont_boot (random : RandomKey) : (boot random).memory.HoldsFont :=
  Memory.readBlock_writeBlock (by decide)

/-! ### Decimal digits -/

/-- The three decimal digits of a byte. -/
def decimalDigits (v : UInt8) : List UInt8 := [v / 100, v / 10 % 10, v % 10]

theorem decimalDigits_le {v d : UInt8} (h : d ∈ decimalDigits v) : d.toNat ≤ 9 := by
  have hv := v.toNat_lt
  simp only [decimalDigits, List.mem_cons, List.not_mem_nil, or_false] at h
  obtain rfl | rfl | rfl := h
  all_goals
    simp only [UInt8.toNat_div, UInt8.toNat_mod, UInt8.reduceToNat]
    omega

theorem decimalDigits_value (v : UInt8) :
    100 * (v / 100).toNat + 10 * (v / 10 % 10).toNat + (v % 10).toNat = v.toNat := by
  simp only [UInt8.toNat_div, UInt8.toNat_mod, UInt8.reduceToNat]
  omega

namespace Machine

variable {s : Machine} {x j a b : Fin 16}

/-! ### Words one after the other -/

/-- Carries out some words, one after the other, until one of them fails. -/
def executeAll (s : Machine) (words : List Word) : Except Fault Machine :=
  words.foldlM (fun s w => s.execute (.decode w)) s

theorem executeAll_pair {t u : Machine} {w w' : Word} (h : s.execute (.decode w) = .ok t)
    (h' : t.execute (.decode w') = .ok u) : s.executeAll [w, w'] = .ok u := by
  rw [executeAll, List.foldlM_cons, h]
  show t.execute (.decode w') >>= pure = .ok u
  rw [h']
  rfl

theorem executeAll_append {t u : Machine} {words words' : List Word}
    (h : s.executeAll words = .ok t) (h' : t.executeAll words' = .ok u) :
    s.executeAll (words ++ words') = .ok u := by
  rw [executeAll, List.foldlM_append]
  exact bind_eq_ok.2 ⟨t, h, h'⟩

/-! ### The digits into registers -/

/-- The memory after the digits of `VX` have been put in at the index
register. -/
def digitMemory (s : Machine) (x : Fin 16) : Memory :=
  s.memory.writeBlock s.index.toNat (decimalDigits (s.registers.get x))

theorem execute_decimal (hin : s.index.toNat + 2 ≤ 4095) :
    s.execute (.decimal x) = .ok { s with memory := s.digitMemory x, frameReady := false } := by
  have haccess : s.checkAccess 3 = .ok () := if_pos (Nat.succ_le_succ hin)
  rw [execute, perform, haccess]
  rfl

theorem read_digitMemory {k : Nat} (hin : s.index.toNat + 2 ≤ 4095) (hk : k < 3) :
    (s.digitMemory x).read (s.index.toNat + k) = (decimalDigits (s.registers.get x))[k] :=
  Memory.read_writeBlock_add hk (by omega)

/-- The digits of a register go into memory and from there into the first
three registers. -/
theorem execute_digits (s : Machine) (x : Fin 16) (hin : s.index.toNat + 2 ≤ 4095) :
    ∃ t, s.executeAll [.ofNibbles 0xF x 0x3 0x3, .ofNibbles 0xF 0x2 0x6 0x5] = .ok t ∧
      (∀ k < 3, (t.memory.read (s.index.toNat + k)).toNat ≤ 9) ∧
      100 * (t.memory.read s.index.toNat).toNat + 10 * (t.memory.read (s.index.toNat + 1)).toNat
        + (t.memory.read (s.index.toNat + 2)).toNat = (s.registers.get x).toNat ∧
      (∀ v, t.registers.get v
        = if v ≤ 2 then t.memory.read (s.index.toNat + v) else s.registers.get v) ∧
      (∀ i, i < s.index.toNat ∨ s.index.toNat + 2 < i → t.memory.read i = s.memory.read i) ∧
      t = { s with memory := t.memory, registers := t.registers, frameReady := false } := by
  refine ⟨_, executeAll_pair (Instruction.decode_decimal x ▸ execute_decimal hin)
    (Instruction.decode_load 2 ▸ execute_load hin), fun k hk => ?_, ?_, fun v => ?_,
    fun i hi => Memory.read_writeBlock_of_outside ?_, rfl⟩
  · show ((s.digitMemory x).read (s.index.toNat + k)).toNat ≤ 9
    rw [read_digitMemory hin hk]
    exact decimalDigits_le (List.getElem_mem _)
  · show 100 * ((s.digitMemory x).read (s.index.toNat + 0)).toNat
      + 10 * ((s.digitMemory x).read (s.index.toNat + 1)).toNat
      + ((s.digitMemory x).read (s.index.toNat + 2)).toNat = (s.registers.get x).toNat
    rw [read_digitMemory hin (by decide), read_digitMemory hin (by decide),
      read_digitMemory hin (by decide)]
    exact decimalDigits_value _
  · simp only [loadedRegisters, Registers.get_loadUpTo]
  · show i < s.index.toNat ∨ s.index.toNat + 3 ≤ i
    omega

/-! ### A digit on the screen -/

/-- The machine `t` shows what was on the screen before, with the glyph of
the digit `d` drawn over it. The glyph has its corner in column `ox` of row
`oy`, and what falls off the screen is left out. The flag register says
whether a lit pixel was erased, and the index register is left at the
glyph. -/
structure ShowsDigit (before : Display) (d ox oy : Nat) (t : Machine) : Prop where
  index : t.index.toNat = 0x50 + 5 * d
  pixel : ∀ px py, px < 64 → py < 32 → t.display.pixel px py =
    if ox ≤ px ∧ px < ox + 8 ∧ oy ≤ py ∧ py < oy + 5 then
      before.pixel px py ^^ (Font.data.getD (5 * d + (py - oy)) 0).toNat.testBit (7 - (px - ox))
    else before.pixel px py
  erased : t.registers.get Registers.flag = 1 ↔
    ∃ px py, px < 64 ∧ py < 32 ∧ before.pixel px py = true ∧ t.display.pixel px py = false
  kept : t.registers.get Registers.flag = 0 ↔
    ¬ ∃ px py, px < 64 ∧ py < 32 ∧ before.pixel px py = true ∧ t.display.pixel px py = false

/-- The machine whose index register points at the glyph of the low nibble
of `VX`. -/
def atGlyph (s : Machine) (x : Fin 16) : Machine :=
  { s with
    index := UInt16.ofNat (Font.start + (s.registers.get x).toNat % 16 * Font.glyphSize)
    frameReady := false }

@[simp] theorem registers_atGlyph : (s.atGlyph x).registers = s.registers := rfl

@[simp] theorem display_atGlyph : (s.atGlyph x).display = s.display := rfl

theorem toNat_index_atGlyph (s : Machine) (x : Fin 16) :
    (s.atGlyph x).index.toNat = 0x50 + 5 * ((s.registers.get x).toNat % 16) := by
  simp only [atGlyph, Font.start, Font.glyphSize, UInt16.toNat_ofNat']
  omega

theorem read_atGlyph (hfont : s.memory.HoldsFont) {r : Nat} (hr : r < 5) :
    (s.atGlyph x).memory.read ((s.atGlyph x).index.toNat + r)
      = Font.data.getD (5 * ((s.registers.get x).toNat % 16) + r) 0 := by
  rw [toNat_index_atGlyph, Nat.add_assoc]
  exact hfont.read (by omega)

/-- The sprite at a glyph is the glyph. -/
theorem pixel_atGlyph (hfont : s.memory.HoldsFont) {px py : Nat} (hx : px < 64) (hy : py < 32) :
    ((s.atGlyph x).display.xor ((s.atGlyph x).sprite a b 5)).pixel px py =
      if (s.registers.get a).toNat % 64 ≤ px ∧ px < (s.registers.get a).toNat % 64 + 8 ∧
          (s.registers.get b).toNat % 32 ≤ py ∧ py < (s.registers.get b).toNat % 32 + 5 then
        s.display.pixel px py ^^
          (Font.data.getD (5 * ((s.registers.get x).toNat % 16)
            + (py - (s.registers.get b).toNat % 32)) 0).toNat.testBit
              (7 - (px - (s.registers.get a).toNat % 64))
      else s.display.pixel px py := by
  rw [Display.pixel_xor, pixel_sprite, Canvas.xor_spriteMarks _ hx hy, registers_atGlyph,
    display_atGlyph]
  refine ite_congr rfl (fun hin => ?_) fun _ => rfl
  have hrow : py - (s.registers.get b).toNat % 32 < 5 := by omega
  rw [read_atGlyph hfont hrow]

/-- The glyph of the low nibble of a register is drawn from the font. -/
theorem execute_digit (s : Machine) (x a b : Fin 16) (hfont : s.memory.HoldsFont) :
    ∃ t, s.executeAll [.ofNibbles 0xF x 0x2 0x9, .ofNibbles 0xD a b 0x5] = .ok t ∧
      ShowsDigit s.display ((s.registers.get x).toNat % 16) ((s.registers.get a).toNat % 64)
        ((s.registers.get b).toNat % 32) t ∧
      (∀ v, v ≠ Registers.flag → t.registers.get v = s.registers.get v) ∧
      t = { s with
        index := t.index, display := t.display, registers := t.registers, frameReady := true } := by
  have hin : (s.atGlyph x).index.toNat + (5 : Fin 16) ≤ 4096 := by
    rw [toNat_index_atGlyph]
    show 0x50 + 5 * ((s.registers.get x).toNat % 16) + 5 ≤ 4096
    omega
  refine ⟨_, executeAll_pair (t := s.atGlyph x) (by rw [Instruction.decode_glyph]; rfl)
    (by rw [Instruction.decode_draw]; exact execute_draw hin), ?_, fun v hv => ?_, rfl⟩
  · refine ⟨s.toNat_index_atGlyph x, fun px py hx hy => pixel_atGlyph hfont hx hy, ?_, ?_⟩
    all_goals
      dsimp only
      rw [Registers.get_set, if_pos rfl]
    · rw [bit_eq_one_iff, Display.overlaps_iff_erased]
      rfl
    · rw [bit_eq_zero_iff, ← Bool.not_eq_true, Display.overlaps_iff_erased]
      rfl
  · exact Registers.get_set_of_ne (beq_eq_false_iff_ne.2 hv)

/-- The glyphs lie in memory, and the three bytes at the index register lie
in memory and off the glyphs. Then the four words that put the digits of
`VX` into `V0`, `V1` and `V2` and draw the digit in `Vj` succeed, for any
registers above these three for the corner, `VF` included. The three bytes
are the decimal digits of `VX`, and the glyph of the chosen one is drawn
over the screen. No other byte of memory and no other register than these
three and `VF` changes. -/
theorem executeAll_number (s : Machine) (x j a b : Fin 16) (hfont : s.memory.HoldsFont)
    (hin : s.index.toNat + 2 ≤ 4095)
    (hoff : s.index.toNat + 2 < 0x50 ∨ 0x9F < s.index.toNat)
    (hj : j ≤ 2) (ha : 3 ≤ a) (hb : 3 ≤ b) :
    ∃ t, s.executeAll [.ofNibbles 0xF x 0x3 0x3, .ofNibbles 0xF 0x2 0x6 0x5,
        .ofNibbles 0xF j 0x2 0x9, .ofNibbles 0xD a b 0x5] = .ok t ∧
      (∀ k < 3, (t.memory.read (s.index.toNat + k)).toNat ≤ 9) ∧
      100 * (t.memory.read s.index.toNat).toNat + 10 * (t.memory.read (s.index.toNat + 1)).toNat
        + (t.memory.read (s.index.toNat + 2)).toNat = (s.registers.get x).toNat ∧
      (∀ k, k ≤ 2 → t.registers.get k = t.memory.read (s.index.toNat + k)) ∧
      ShowsDigit s.display (t.memory.read (s.index.toNat + j)).toNat
        ((s.registers.get a).toNat % 64) ((s.registers.get b).toNat % 32) t ∧
      (∀ i, i < s.index.toNat ∨ s.index.toNat + 2 < i → t.memory.read i = s.memory.read i) ∧
      (∀ v, 2 < v → v ≠ Registers.flag → t.registers.get v = s.registers.get v) ∧
      t = { s with
        memory := t.memory, registers := t.registers, index := t.index, display := t.display
        frameReady := true } := by
  obtain ⟨u, hu, hdigit, hvalue, hregisters, hmemory, hsame⟩ := execute_digits s x hin
  -- The digits lie off the glyphs, so the second block finds the font.
  have hfont' : u.memory.HoldsFont := hfont.congr fun i _ _ => hmemory i (by omega)
  obtain ⟨t, ht, hshows, hother, hrest⟩ := execute_digit u j a b hfont'
  have htu : t.memory = u.memory := by rw [hrest]
  have hdisplay : u.display = s.display := by rw [hsame]
  have hj3 : j.val < 3 := Nat.lt_succ_of_le hj
  have hle : (u.memory.read (s.index.toNat + j)).toNat ≤ 9 := hdigit j hj3
  have hcorner : ∀ v : Fin 16, 3 ≤ v → u.registers.get v = s.registers.get v := fun v hv => by
    rw [hregisters, if_neg (Fin.not_le.2 hv)]
  -- A decimal digit is its own low nibble, and the corner is where it was.
  rw [hregisters, if_pos hj, hcorner a ha, hcorner b hb, hdisplay, Nat.mod_eq_of_lt (by omega)]
    at hshows
  refine ⟨t, executeAll_append hu ht, ?_⟩
  rw [htu]
  refine ⟨hdigit, hvalue, fun k hk => ?_, hshows, hmemory, fun v hv hvf => ?_, ?_⟩
  · -- The flag register is not one of the three.
    have hkf : k ≠ Registers.flag := Fin.ne_of_lt (Nat.lt_of_le_of_lt hk (by decide))
    rw [hother k hkf, hregisters, if_pos hk]
  · rw [hother v hvf, hcorner v hv]
  · rw [hrest, hsame]

/-- The middle digit of 254 is drawn, with its column in the flag register.
The second row of a five begins with a lit pixel, and nothing was lit
before. -/
theorem executeAll_number_five :
    let s : Machine := { boot (.ofSeed 0) with
      index := 0x300
      registers := ((Registers.zero.set 5 254).set 3 4).set Registers.flag 10 }
    s.memory.HoldsFont ∧ s.index.toNat + 2 ≤ 4095 ∧
    (s.index.toNat + 2 < 0x50 ∨ 0x9F < s.index.toNat) ∧
    ∃ t, s.executeAll [0xF533, 0xF265, 0xF129, 0xDF35] = .ok t ∧
      t.registers.get 0 = 2 ∧ t.registers.get 1 = 5 ∧ t.registers.get 2 = 4 ∧
      t.display.pixel 10 5 = true ∧ t.display.pixel 11 5 = false ∧
      t.registers.get Registers.flag = 0 := by
  intro s
  have hfont : s.memory.HoldsFont := holdsFont_boot (.ofSeed 0)
  have hin : s.index.toNat + 2 ≤ 4095 := by decide
  have hoff : s.index.toNat + 2 < 0x50 ∨ 0x9F < s.index.toNat := by decide
  obtain ⟨t, ht, hdigit, hvalue, hregisters, hshows, -⟩ :=
    executeAll_number s 5 1 0xF 3 hfont hin hoff (by decide) (by decide) (by decide)
  have h254 : (s.registers.get 5).toNat = 254 := by decide
  have hle0 : (t.memory.read 0x300).toNat ≤ 9 := hdigit 0 (by decide)
  have hle1 : (t.memory.read 0x301).toNat ≤ 9 := hdigit 1 (by decide)
  have hle2 : (t.memory.read 0x302).toNat ≤ 9 := hdigit 2 (by decide)
  have hsum : 100 * (t.memory.read 0x300).toNat + 10 * (t.memory.read 0x301).toNat
      + (t.memory.read 0x302).toNat = 254 := hvalue.trans h254
  obtain ⟨h0, h1, h2⟩ : t.memory.read 0x300 = 2 ∧ t.memory.read 0x301 = 5 ∧
      t.memory.read 0x302 = 4 := by
    simp only [← UInt8.toNat_inj, UInt8.reduceToNat]
    omega
  have hpixel := hshows.pixel
  rw [show t.memory.read (s.index.toNat + (1 : Fin 16)) = 5 from h1] at hpixel
  refine ⟨hfont, hin, hoff, t, ht, (hregisters 0 (by decide)).trans h0,
    (hregisters 1 (by decide)).trans h1, (hregisters 2 (by decide)).trans h2, ?_, ?_,
    hshows.kept.2 ?_⟩
  · exact (hpixel 10 5 (by decide) (by decide)).trans (by decide +kernel)
  · exact (hpixel 11 5 (by decide) (by decide)).trans (by decide +kernel)
  · rintro ⟨px, py, -, -, hlit, -⟩
    rw [show s.display = .blank from rfl, Display.pixel_blank] at hlit
    cases hlit

end Machine

end Chip8
