import Chip8.Proofs.Machine.Drawing

/-!
# `Chip8.Proofs.Machine.Strokes`: a picture drawn in strokes

A `Stroke` points the index register at a sprite and draws it, with the
corner in two registers other than the flag register. Drawing writes the
flag register alone, so no stroke moves a later one: the sprite of a
stroke is read off the memory and the registers of the machine at the
start (`Stroke.sprite_congr`).

`strokes_drawn` follows, by induction on the list of strokes. The display
at the end is the exclusive or of the one at the start and all the
sprites. What is known of the exclusive or then holds of drawing:
strokes may change places, and two that are equal cancel
(`strokes_action`).
-/

set_option autoImplicit false

namespace Chip8

/-! ### Many exclusive ors -/

namespace Display

variable {d e : Display}

theorem foldl_xor_perm {es fs : List Display} (h : es.Perm fs) (d : Display) :
    es.foldl xor d = fs.foldl xor d :=
  h.foldl_eq' (fun _ _ _ _ _ => xor_right_comm _ _ _) d

/-- Two equal displays cancel, wherever they stand. -/
theorem foldl_xor_cancel (e : Display) (as bs cs : List Display) (d : Display) :
    (as ++ e :: bs ++ e :: cs).foldl xor d = (as ++ bs ++ cs).foldl xor d := by
  have hfront : (as ++ e :: bs ++ e :: cs).Perm (e :: e :: (as ++ bs ++ cs)) := by
    refine List.perm_middle.trans (.cons e ?_)
    rw [List.append_assoc, List.append_assoc]
    exact List.perm_middle
  rw [foldl_xor_perm hfront, List.foldl_cons, List.foldl_cons, xor_xor_self]

/-- The second of two equal drawings erases what was dark before the
first. -/
theorem overlaps_xor_iff :
    (d.xor e).overlaps e = true ↔ ∃ x y, e.pixel x y = true ∧ d.pixel x y = false := by
  rw [overlaps_iff]
  refine exists_congr fun x => exists_congr fun y => ?_
  rw [pixel_xor]
  cases d.pixel x y <;> cases e.pixel x y <;> decide

end Display

/-! ### Strokes -/

/-- A drawing step: the address of a sprite that lies in memory, the
registers with the corner, and the number of rows. -/
structure Stroke where
  /-- The address of the sprite. -/
  address : Address
  /-- The register with the column. -/
  x : Fin 16
  /-- The register with the row. -/
  y : Fin 16
  /-- The number of rows. -/
  height : Fin 16
  x_ne : x ≠ Registers.flag
  y_ne : y ≠ Registers.flag
  fits : address.val + height.val ≤ 4096
deriving DecidableEq

namespace Stroke

/-- What a stroke draws. -/
def sprite (d : Stroke) (m : Memory) (r : Registers) : Display :=
  .ofSprite ((r.get d.x).toNat % Display.width) ((r.get d.y).toNat % Display.height)
    (m.readBlock d.address d.height)

/-- A stroke does not look at the flag register. -/
theorem sprite_congr {r r' : Registers} (h : ∀ v, v ≠ Registers.flag → r'.get v = r.get v)
    (d : Stroke) (m : Memory) : d.sprite m r' = d.sprite m r := by
  rw [sprite, sprite, h _ d.x_ne, h _ d.y_ne]

/-- The pixels of the screen that a stroke draws. -/
theorem pixel_sprite_iff {d : Stroke} {m : Memory} {r : Registers} {i j : Nat} :
    (d.sprite m r).pixel i j = true ↔
      let ox := (r.get d.x).toNat % 64
      let oy := (r.get d.y).toNat % 32
      (i < 64 ∧ j < 32 ∧ ox ≤ i ∧ i < ox + 8 ∧ oy ≤ j ∧ j < oy + d.height) ∧
        (m.read (d.address + (j - oy))).toNat.testBit (7 - (i - ox)) = true := by
  rw [sprite, Memory.pixel_ofSprite_readBlock, Canvas.spriteMarks, Bool.and_eq_true,
    decide_eq_true_eq]
  rfl

end Stroke

namespace Machine

/-- Carries out a stroke: `ANNN`, then `DXYN`. -/
def stroke (s : Machine) (d : Stroke) : Except Fault Machine := do
  let t ← s.execute (.decode (.ofAddress 0xA d.address))
  t.execute (.decode (.ofNibbles 0xD d.x d.y d.height))

/-- Carries out a list of strokes. -/
def strokes (s : Machine) (ds : List Stroke) : Except Fault Machine := ds.foldlM stroke s

/-- A stroke succeeds. -/
theorem stroke_eq (s : Machine) (d : Stroke) :
    s.stroke d = .ok { s with
      index := d.address.toWord
      display := s.display.xor (d.sprite s.memory s.registers)
      registers := s.registers.set Registers.flag
        (bit (s.display.overlaps (d.sprite s.memory s.registers)))
      frameReady := true } := by
  have hindex : d.address.toWord.toNat = d.address := Address.toNat_toWord _
  let t : Machine := { s with index := d.address.toWord, frameReady := false }
  have ht : s.execute (.decode (.ofAddress 0xA d.address)) = .ok t := by
    rw [Instruction.decode_setIndex]
    rfl
  have hsprite : t.sprite d.x d.y d.height = d.sprite s.memory s.registers := by
    show Display.ofSprite _ _ (s.memory.readBlock d.address.toWord.toNat d.height) = _
    rw [hindex]
    rfl
  have hin : t.index.toNat + d.height ≤ 4096 := by
    show d.address.toWord.toNat + _ ≤ _
    rw [hindex]
    exact d.fits
  rw [stroke, ht]
  show t.execute _ = _
  rw [Instruction.decode_draw, execute_draw hin, hsprite]

/-- The machine `t` is `s` after the given sprites were drawn. -/
structure Drawn (s : Machine) (sprites : List Display) (t : Machine) : Prop where
  display : t.display = sprites.foldl Display.xor s.display
  registers : ∀ v, v ≠ Registers.flag → t.registers.get v = s.registers.get v
  rest : t = { s with
    index := t.index, display := t.display, registers := t.registers, frameReady := t.frameReady }

variable {s t u : Machine} {e : Display} {es : List Display}

theorem drawn_nil (s : Machine) : s.Drawn [] s where
  display := rfl
  registers _ _ := rfl
  rest := rfl

theorem Drawn.cons (h : s.Drawn [e] t) (h' : t.Drawn es u) : s.Drawn (e :: es) u where
  display := by
    rw [h'.display, h.display, List.foldl_cons, List.foldl_nil, List.foldl_cons]
  registers v hv := (h'.registers v hv).trans (h.registers v hv)
  rest := h'.rest.trans (congrArg (fun m : Machine => { m with
    index := u.index, display := u.display, registers := u.registers, frameReady := u.frameReady })
    h.rest)

/-- What a stroke draws is the same before and after. -/
theorem Drawn.sprite_eq (h : s.Drawn es t) (d : Stroke) :
    d.sprite t.memory t.registers = d.sprite s.memory s.registers := by
  have hmemory : t.memory = s.memory := by
    rw [h.rest]
  rw [hmemory, d.sprite_congr h.registers]

theorem drawn_stroke {d : Stroke} (h : s.stroke d = .ok t) :
    s.Drawn [d.sprite s.memory s.registers] t := by
  rw [stroke_eq] at h
  cases h
  exact
    { display := rfl
      registers := fun v hv => Registers.get_set_of_ne (beq_eq_false_iff_ne.2 hv)
      rest := rfl }

/-- Strokes succeed, and what they draw is what they would draw at the
start. -/
theorem strokes_drawn (s : Machine) (ds : List Stroke) :
    ∃ t, s.strokes ds = .ok t ∧ s.Drawn (ds.map fun d => d.sprite s.memory s.registers) t := by
  -- The later strokes are drawn from the machine that the first one leaves.
  induction ds generalizing s with
  | nil => exact ⟨s, rfl, s.drawn_nil⟩
  | cons d ds ih =>
    obtain ⟨t, ht⟩ : ∃ t, s.stroke d = .ok t := ⟨_, s.stroke_eq d⟩
    have hfirst := drawn_stroke ht
    obtain ⟨u, hu, hrest⟩ := ih t
    have hsprites : (ds.map fun d => d.sprite t.memory t.registers)
        = ds.map fun d => d.sprite s.memory s.registers :=
      List.map_congr_left fun d _ => hfirst.sprite_eq d
    rw [hsprites] at hrest
    refine ⟨u, ?_, hfirst.cons hrest⟩
    rw [strokes, List.foldlM_cons, ht]
    exact hu

/-- A stroke drawn twice restores the display, and both flags are about the
display before the two. -/
theorem stroke_twice (s : Machine) (d : Stroke) :
    ∃ u v, s.stroke d = .ok u ∧ u.stroke d = .ok v ∧ v.display = s.display ∧
      u.registers.get Registers.flag
        = bit (s.display.overlaps (d.sprite s.memory s.registers)) ∧
      v.registers.get Registers.flag
        = bit ((s.display.xor (d.sprite s.memory s.registers)).overlaps
            (d.sprite s.memory s.registers)) := by
  obtain ⟨u, hu⟩ : ∃ u, s.stroke d = .ok u := ⟨_, s.stroke_eq d⟩
  have hdrawn := drawn_stroke hu
  have hdisplay : u.display = s.display.xor (d.sprite s.memory s.registers) := hdrawn.display
  have hv := u.stroke_eq d
  rw [hdrawn.sprite_eq, hdisplay] at hv
  refine ⟨u, _, hu, hv, Display.xor_xor_self _ _, ?_, Registers.get_set.trans (if_pos rfl)⟩
  rw [stroke_eq] at hu
  cases hu
  exact Registers.get_set.trans (if_pos rfl)

/-- The display after some strokes is the exclusive or of the display
before and the sprite of each, so strokes may come in any order and two
equal ones may both be left out. A stroke drawn twice in a row restores
the display. The first time the flag says whether a pixel of the sprite
was lit before, the second time whether one was dark before.

The sprites are those of the machine at the start: the flag register is
the only register that is written, and no corner is read from it. -/
theorem strokes_action (s : Machine) (ds : List Stroke) :
    let sprite (d : Stroke) := d.sprite s.memory s.registers
    (∀ d i j, (sprite d).pixel i j = true ↔
      let ox := (s.registers.get d.x).toNat % 64
      let oy := (s.registers.get d.y).toNat % 32
      (i < 64 ∧ j < 32 ∧ ox ≤ i ∧ i < ox + 8 ∧ oy ≤ j ∧ j < oy + d.height) ∧
        (s.memory.read (d.address + (j - oy))).toNat.testBit (7 - (i - ox)) = true) ∧
    (∃ t, s.strokes ds = .ok t ∧
      t.display = (ds.map sprite).foldl Display.xor s.display ∧
      (∀ v, v ≠ Registers.flag → t.registers.get v = s.registers.get v) ∧
      (∀ es, ds.Perm es → ∃ u, s.strokes es = .ok u ∧ u.display = t.display) ∧
      ∀ d as bs cs, ds = as ++ d :: bs ++ d :: cs →
        ∃ u, s.strokes (as ++ bs ++ cs) = .ok u ∧ u.display = t.display) ∧
    ∀ d, ∃ u v, s.stroke d = .ok u ∧ u.stroke d = .ok v ∧ v.display = s.display ∧
      (u.registers.get Registers.flag = 1 ↔
        ∃ i j, (sprite d).pixel i j = true ∧ s.display.pixel i j = true) ∧
      (v.registers.get Registers.flag = 1 ↔
        ∃ i j, (sprite d).pixel i j = true ∧ s.display.pixel i j = false) := by
  intro sprite
  refine ⟨fun d i j => Stroke.pixel_sprite_iff, ?_, fun d => ?_⟩
  · obtain ⟨t, ht, hdrawn⟩ := s.strokes_drawn ds
    refine ⟨t, ht, hdrawn.display, hdrawn.registers, fun es hperm => ?_,
      fun d as bs cs hds => ?_⟩
    · obtain ⟨u, hu, hother⟩ := s.strokes_drawn es
      refine ⟨u, hu, ?_⟩
      rw [hother.display, hdrawn.display, Display.foldl_xor_perm (hperm.map sprite)]
    · obtain ⟨u, hu, hother⟩ := s.strokes_drawn (as ++ bs ++ cs)
      refine ⟨u, hu, ?_⟩
      have hcancel := Display.foldl_xor_cancel (sprite d) (as.map sprite) (bs.map sprite)
        (cs.map sprite) s.display
      rw [hother.display, hdrawn.display, hds]
      simpa only [List.map_append, List.map_cons] using hcancel.symm
  · obtain ⟨u, v, hu, hv, hdisplay, hfirst, hsecond⟩ := s.stroke_twice d
    refine ⟨u, v, hu, hv, hdisplay, ?_, ?_⟩
    · rw [hfirst, bit_eq_one_iff, Display.overlaps_iff]
      exact exists_congr fun i => exists_congr fun j => and_comm
    · rw [hsecond, bit_eq_one_iff, Display.overlaps_xor_iff]

/-- A sprite of two pixels on a screen where the left one of them is lit.
Both drawings erase a pixel, the second one what the first has lit. -/
theorem strokes_action_two_pixels :
    let s : Machine := { boot ⟨0, 0⟩ with
      memory := Memory.zero.write 0 0xC0, display := .ofSprite 0 0 [0x80] }
    let d : Stroke := ⟨0, 0, 1, 1, by decide, by decide, by decide⟩
    ∃ u v, s.stroke d = .ok u ∧ u.stroke d = .ok v ∧ v.display = s.display ∧
      u.registers.get Registers.flag = 1 ∧ v.registers.get Registers.flag = 1 := by
  intro s d
  obtain ⟨-, -, hpair⟩ := strokes_action s []
  obtain ⟨u, v, hu, hv, hdisplay, hfirst, hsecond⟩ := hpair d
  refine ⟨u, v, hu, hv, hdisplay, hfirst.2 ⟨0, 0, ?_⟩, hsecond.2 ⟨1, 0, ?_⟩⟩
  · exact ⟨by decide +kernel, by decide +kernel⟩
  · exact ⟨by decide +kernel, by decide +kernel⟩

end Machine

end Chip8
