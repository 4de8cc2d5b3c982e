import Chip8.Proofs.Machine.Footprint
import Chip8.Proofs.Machine.InBounds

/-!
# `Chip8.Proofs.Machine.StraightLine`: programs that run as they are written

A program is written as a list of words and lies in memory as a list of
bytes, the high byte of each word first (`Rom.ofWords`). A machine is at
the head of some words (`Machine.AtWords`) if they lie in memory from its
program counter on.

An instruction is straight (`Instruction.isStraight`) if the program goes
on with the next word and no memory is written. `AtWords.cycle` is the
step lemma: a cycle of a machine that is at the head of a straight word
carries out this word, and the machine is then at the head of the words
behind it. By induction on the words, single cycles carry out the words
one after the other up to the first that fails
(`AtWords.run_eq_executeWords`), and a batch carries them all out
(`AtWords.batch_run`). After `n` cycles without a fault the program counter
has moved over `n` words (`AtWords.run`).

The main statement is `runCycles_straightLine`, for every straight program
that fits in memory. A program of 1792 words fills the memory to its last
byte (`runCycles_straightLine_full`). The fault of a batch need not be the
first (`runCycles_straightLine_hides_fault`).
-/

set_option autoImplicit false

namespace Chip8

/-! ### Words as bytes -/

/-- The two bytes of a word, the high one first. -/
def Word.bytes (w : Word) : List UInt8 := [UInt8.ofNat (w.toNat / 256), w.kk]

/-- The program that consists of the given words. -/
def Rom.ofWords (words : List Word) : Rom := words.flatMap Word.bytes

theorem Word.ofBytes_bytes (w : Word) : ofBytes (UInt8.ofNat (w.toNat / 256)) w.kk = w := by
  have hw := w.toNat_lt
  refine UInt16.toNat_inj.1 ?_
  rw [toNat_ofBytes, toNat_kk, UInt8.toNat_ofNat']
  omega

theorem Rom.ofWords_cons (w : Word) (words : List Word) :
    ofWords (w :: words) = UInt8.ofNat (w.toNat / 256) :: w.kk :: ofWords words := rfl

@[simp] theorem Rom.length_ofWords (words : List Word) :
    (ofWords words).length = 2 * words.length := by
  induction words with
  | nil => rfl
  | cons w words ih =>
    rw [ofWords_cons, List.length_cons, List.length_cons, ih, List.length_cons]
    omega

/-- The bytes of the word at each place of a program. -/
theorem Rom.getElem?_ofWords {words : List Word} {k : Nat} (h : k < words.length) :
    (ofWords words)[2 * k]? = some (UInt8.ofNat (words[k].toNat / 256)) ∧
      (ofWords words)[2 * k + 1]? = some words[k].kk := by
  induction words generalizing k with
  | nil => cases h
  | cons w words ih =>
    cases k with
    | zero => exact ⟨rfl, rfl⟩
    | succ k => exact ih (Nat.lt_of_succ_lt_succ h)

theorem Memory.read_writeBlock_of_getElem? {m : Memory} {bs : List UInt8} {a i : Nat} {b : UInt8}
    (h : bs[i]? = some b) (hin : a + i < 4096) : (m.writeBlock a bs).read (a + i) = b := by
  obtain ⟨hi, rfl⟩ := List.getElem?_eq_some_iff.1 h
  exact read_writeBlock_add hi hin

/-- A word that was put into memory is read again. -/
theorem Memory.ofBytes_writeBlock {m : Memory} {words : List Word} {a k : Nat}
    (h : k < words.length) (hin : a + 2 * words.length ≤ 4096) :
    Word.ofBytes ((m.writeBlock a (Rom.ofWords words)).read (a + 2 * k))
        ((m.writeBlock a (Rom.ofWords words)).read (a + 2 * k + 1))
      = words[k] := by
  obtain ⟨hhigh, hlow⟩ := Rom.getElem?_ofWords h
  rw [read_writeBlock_of_getElem? hhigh (by omega), Nat.add_assoc,
    read_writeBlock_of_getElem? hlow (by omega), Word.ofBytes_bytes]

/-! ### Words one after the other -/

/-- The words one after the other, up to the first that fails: each is
stepped over and then carried out. -/
def Machine.executeWords (s : Machine) (words : List Word) : Except Error Machine :=
  words.foldlM (fun u w => u.stepped.executeInt w.toNat) s

/-- The words one after the other in a batch, which goes on when one of
them fails. -/
def Batch.executeWords (b : Batch) (words : List Word) : Batch :=
  words.foldl (fun b w => ({ b with machine := b.machine.stepped } : Batch).execute (.decode w)) b

/-! ### Straight instructions -/

/-- Whether the program goes on with the next word after an instruction,
whatever the machine, and no memory is written. -/
def Instruction.isStraight : Instruction → Bool
  | ret | jump _ | call _ | jumpOffset _ => false
  | skipEqByte _ _ | skipNeByte _ _ | skipEq _ _ | skipNe _ _ | skipKey _ | skipNoKey _ => false
  | waitKey _ => false
  | decimal _ | store _ => false
  | _ => true

/-- A straight instruction is none of those that move the program counter
or write bytes. -/
theorem Instruction.of_isStraight {i : Instruction} (h : i.isStraight = true) :
    i.isJump = false ∧ i.isSkip = false ∧ (∀ x, i ≠ waitKey x) ∧ i.footprint.bytes = 0 := by
  cases i <;> first | (cases h; done) | exact ⟨rfl, rfl, nofun, rfl⟩

namespace Machine

variable {s t : Machine} {i : Instruction} {w : Word} {words : List Word}

/-- Memory stays as it was if no byte may be written. -/
theorem Within.memory_eq {f : Footprint} (h : s.Within f t) (hbytes : f.bytes = 0) :
    t.memory = s.memory :=
  Memory.ext_read fun a _ => h.memory a (by omega)

/-- A straight instruction leaves the program counter and the memory
alone. -/
theorem execute_of_isStraight (hi : i.isStraight = true) (h : s.execute i = .ok t) :
    t.pc = s.pc ∧ t.memory = s.memory := by
  obtain ⟨u, hu, rfl⟩ := execute_eq_ok_iff.1 h
  obtain ⟨hjump, hskip, hwait, hbytes⟩ := Instruction.of_isStraight hi
  refine ⟨Classical.byContradiction fun hpc => ?_, (within_of_perform hu).memory_eq hbytes⟩
  -- Only a jump, a skip or a wait for a key moves the program counter.
  rcases pc_cases hu hpc with hjump' | ⟨hskip', -, -⟩ | ⟨⟨x, hwait'⟩, -, -⟩
  · exact absurd hjump' (Bool.eq_false_iff.1 hjump)
  · exact absurd hskip' (Bool.eq_false_iff.1 hskip)
  · exact hwait x hwait'

/-- In a batch too, and also if its check fails. -/
theorem batch_execute_of_isStraight (hi : i.isStraight = true) (b : Batch) :
    (b.execute i).machine.pc = b.machine.pc ∧ (b.execute i).machine.memory = b.machine.memory := by
  show (b.perform i).machine.pc = _ ∧ (b.perform i).machine.memory = _
  have hret : ¬ (i = .ret ∧ 0 < b.excess) := by
    rintro ⟨rfl, -⟩
    cases hi
  rw [Batch.perform, if_neg hret]
  cases hperform : b.machine.perform i with
  | ok t =>
    have hexecute : b.machine.execute i = .ok { t with frameReady := i.completesFrame } :=
      execute_eq_ok_iff.2 ⟨t, hperform, rfl⟩
    obtain ⟨hpc, hmemory⟩ := execute_of_isStraight hi hexecute
    exact ⟨hpc, hmemory⟩
  | error f =>
    -- What is done nevertheless is straight as well.
    cases i <;> first | (cases hi; done) | exact ⟨rfl, rfl⟩

/-! ### A machine at the head of some words -/

/-- The given words lie in memory from the program counter on. -/
structure AtWords (s : Machine) (words : List Word) : Prop where
  fits : s.pc.toNat + 2 * words.length ≤ 4096
  word_eq : ∀ k (h : k < words.length),
    Word.ofBytes (s.memory.read (s.pc.toNat + 2 * k)) (s.memory.read (s.pc.toNat + 2 * k + 1))
      = words[k]

/-- The first of the words is fetched. -/
theorem AtWords.fetch (hs : s.AtWords (w :: words)) : s.fetch = .ok (s.stepped, w) := by
  have hfits := hs.fits
  have hword := hs.word_eq 0 (Nat.zero_lt_succ _)
  rw [List.length_cons] at hfits
  rw [Machine.fetch, if_pos (show s.pc.toNat + 1 < Memory.size by show _ < 4096; omega)]
  exact congrArg (fun v => Except.ok (s.stepped, v)) hword

/-- A cycle carries out the first of the words. -/
theorem AtWords.cycle_eq (hs : s.AtWords (w :: words)) :
    s.cycle = s.stepped.execute (.decode w) := by
  rw [Machine.cycle, hs.fetch]
  rfl

/-- A machine that has stepped over the first of the words is at the head
of the words behind it. -/
theorem AtWords.tail (hs : s.AtWords (w :: words)) (hpc : t.pc = s.pc + 2)
    (hmemory : t.memory = s.memory) : t.pc.toNat = s.pc.toNat + 2 ∧ t.AtWords words := by
  have hfits := hs.fits
  rw [List.length_cons] at hfits
  have hstep : t.pc.toNat = s.pc.toNat + 2 := by
    rw [hpc]
    exact toNat_add_two (by omega)
  refine ⟨hstep, by omega, fun k hk => ?_⟩
  have hplace : t.pc.toNat + 2 * k = s.pc.toNat + 2 * (k + 1) := by omega
  rw [hplace, hmemory]
  exact hs.word_eq (k + 1) (Nat.succ_lt_succ hk)

/-- So does a cycle of a batch. -/
theorem AtWords.batch_cycle {b : Batch} (hs : b.machine.AtWords (w :: words)) :
    b.cycle = ({ b with machine := b.machine.stepped } : Batch).execute (.decode w) := by
  rw [Batch.cycle, Batch.fetch_of_ok hs.fetch]

/-- A cycle that carries out a straight word steps over it, and the
machine is then at the head of the words behind it. -/
theorem AtWords.cycle (hs : s.AtWords (w :: words))
    (hw : (Instruction.decode w).isStraight = true) (h : s.cycle = .ok t) :
    t.pc.toNat = s.pc.toNat + 2 ∧ t.memory = s.memory ∧ t.AtWords words := by
  rw [hs.cycle_eq] at h
  obtain ⟨hpc, hmemory⟩ := execute_of_isStraight hw h
  obtain ⟨hstep, ht⟩ := hs.tail hpc hmemory
  exact ⟨hstep, hmemory, ht⟩

/-- A run over straight words leaves the memory alone, and the machine is
then at the head of the words that it has not come to. -/
theorem AtWords.run {n : Nat} (hs : s.AtWords words)
    (hstraight : ∀ w ∈ words, (Instruction.decode w).isStraight = true) (hn : n ≤ words.length)
    (h : s.run n = .ok t) :
    t.pc.toNat = s.pc.toNat + 2 * n ∧ t.memory = s.memory ∧ t.AtWords (words.drop n) := by
  -- What is left of the words changes with each cycle, and so does the machine.
  induction n generalizing s words with
  | zero =>
    cases h
    exact ⟨rfl, rfl, hs⟩
  | succ n ih =>
    cases words with
    | nil => cases hn
    | cons w words =>
      obtain ⟨u, hu, ht⟩ := bind_eq_ok.1 h
      obtain ⟨hpc, hmemory, hs'⟩ := hs.cycle (hstraight w List.mem_cons_self) hu
      obtain ⟨hpc', hmemory', ht'⟩ := ih hs' (fun v hv => hstraight v (List.mem_cons_of_mem _ hv))
        (Nat.le_of_succ_le_succ hn) ht
      exact ⟨by omega, hmemory'.trans hmemory, ht'⟩

/-! ### A run and the words one after the other -/

/-- A run over straight words carries out the words one after the other.
The first fault of the one is the first fault of the other. -/
theorem AtWords.run_eq_executeWords {n : Nat} (hs : s.AtWords words)
    (hstraight : ∀ w ∈ words, (Instruction.decode w).isStraight = true) (hn : n ≤ words.length) :
    (s.run n).mapError .fault = s.executeWords (words.take n) := by
  -- The induction is on the cycles; each takes the first of the words that are left.
  induction n generalizing s words with
  | zero => rfl
  | succ n ih =>
    cases words with
    | nil => cases hn
    | cons w words =>
      rw [List.take_succ_cons, executeWords, List.foldlM_cons, executeInt_toNat, ← hs.cycle_eq,
        run_succ]
      cases hcycle : s.cycle with
      | error f =>
        -- Both stop at the fault of this word.
        rfl
      | ok t =>
        obtain ⟨-, -, ht⟩ := hs.cycle (hstraight w List.mem_cons_self) hcycle
        exact ih ht (fun v hv => hstraight v (List.mem_cons_of_mem _ hv))
          (Nat.le_of_succ_le_succ hn)

/-- A batch over straight words carries out the words one after the other,
whether they fail or not. -/
theorem AtWords.batch_run {b : Batch} {n : Nat} (hs : b.machine.AtWords words)
    (hstraight : ∀ w ∈ words, (Instruction.decode w).isStraight = true) (hn : n ≤ words.length) :
    b.run n = b.executeWords (words.take n) := by
  induction n generalizing b words with
  | zero => rfl
  | succ n ih =>
    cases words with
    | nil => cases hn
    | cons w words =>
      obtain ⟨hpc, hmemory⟩ := batch_execute_of_isStraight (hstraight w List.mem_cons_self)
        { b with machine := b.machine.stepped }
      rw [List.take_succ_cons, Batch.executeWords, List.foldl_cons, Batch.run, hs.batch_cycle]
      exact ih (hs.tail hpc hmemory).2 (fun v hv => hstraight v (List.mem_cons_of_mem _ hv))
        (Nat.le_of_succ_le_succ hn)

/-- A program that was put into a fresh machine is where the machine
starts. -/
theorem atWords_load (random : RandomKey) (h : words.length ≤ 1792)
    (hload : (boot random).load (Rom.ofWords words) = .ok s) :
    s.pc.toNat = Rom.start ∧ s.AtWords words := by
  obtain ⟨-, rfl⟩ := load_eq_ok_iff.1 hload
  have hpc : (UInt16.ofNat Rom.start).toNat = Rom.start := by decide
  have hfits : Rom.start + 2 * words.length ≤ 4096 := by
    show 512 + 2 * words.length ≤ 4096
    omega
  refine ⟨hpc, ?_, fun k hk => ?_⟩
  · show (UInt16.ofNat Rom.start).toNat + 2 * words.length ≤ 4096
    rw [hpc]
    exact hfits
  · show Word.ofBytes (Memory.read _ ((UInt16.ofNat Rom.start).toNat + 2 * k))
      (Memory.read _ ((UInt16.ofNat Rom.start).toNat + 2 * k + 1)) = words[k]
    rw [hpc]
    exact Memory.ofBytes_writeBlock hk hfits

/-- A program of at most 1792 words, all of them straight, is put into a
fresh machine with any random key. Running up to as many cycles as there
are words comes to what a batch of these words comes to. It succeeds just
if the words do, carried out one after the other after each is stepped
over, and then it gives the same machine. If a word fails, so does the
run. It reports the failure of the first such word, or that of a check
that fails later and stands at a lower place; if the run ends with this
word, it is the first. A run that succeeds has moved the program counter
over just these words and left the memory alone, and the word that is
fetched next is the next word of the program. -/
theorem runCycles_straightLine (random : RandomKey) (words : List Word)
    (hlength : words.length ≤ 1792)
    (hstraight : ∀ w ∈ words, (Instruction.decode w).isStraight = true) :
    ∃ s₀, (boot random).load (Rom.ofWords words) = .ok s₀ ∧
      ∀ n : Int, n ≤ words.length →
        s₀.runCycles n
          = ((Batch.start s₀).executeWords (words.take n.toNat)).result.mapError .fault ∧
        (∀ t, s₀.runCycles n = .ok t ↔ s₀.executeWords (words.take n.toNat) = .ok t) ∧
        (∀ e, s₀.executeWords (words.take n.toNat) = .error e →
          ∃ k < n.toNat, ∃ u first reported, s₀.executeWords (words.take k) = .ok u ∧
            ((Batch.start s₀).run n.toNat).FailedAt u first reported ∧ e = .fault first.fault ∧
            s₀.runCycles n = .error (.fault reported.fault) ∧
            (n.toNat = k + 1 → reported = first)) ∧
        ∀ t, s₀.runCycles n = .ok t →
          t.pc.toNat = 0x200 + 2 * n.toNat ∧ t.memory = s₀.memory ∧
          ∀ h : n.toNat < words.length, t.fetch = .ok (t.stepped, words[n.toNat]) := by
  have hrom : (Rom.ofWords words).length ≤ Rom.maxSize := by
    rw [Rom.length_ofWords]
    show _ ≤ 3584
    omega
  obtain ⟨s₀, hload⟩ : ∃ s₀, (boot random).load (Rom.ofWords words) = .ok s₀ :=
    ⟨_, load_eq_ok_iff.2 ⟨hrom, rfl⟩⟩
  obtain ⟨hpc, hs₀⟩ := atWords_load random hlength hload
  refine ⟨s₀, hload, fun n hn => ?_⟩
  have hcount : n < signedBound 32 := by
    show n < 2147483648
    omega
  have hwords : ∀ {k : Nat}, k ≤ n.toNat →
      (s₀.run k).mapError .fault = s₀.executeWords (words.take k) := fun hk =>
    hs₀.run_eq_executeWords hstraight (by omega)
  refine ⟨?_, fun t => ?_, fun e he => ?_, fun t ht => ?_⟩
  · have hbatch : (Batch.start s₀).run n.toNat
        = (Batch.start s₀).executeWords (words.take n.toNat) :=
      hs₀.batch_run hstraight (by omega)
    rw [runCycles_of_lt hcount, hbatch]
  · rw [runCycles_eq_ok_iff, and_iff_right hcount, ← hwords (Nat.le_refl _), mapError_eq_ok]
  · rw [← hwords (Nat.le_refl _)] at he
    obtain ⟨f, hf, rfl⟩ := mapError_eq_error.1 he
    obtain ⟨k, hk, u, hu, hcycle⟩ := run_eq_error_iff.1 hf
    obtain ⟨first, reported, hfailed, rfl, hrun, hlast⟩ := runCycles_of_cycle hcount hk hu hcycle
    refine ⟨k, hk, u, first, reported, ?_, hfailed, rfl, hrun, hlast⟩
    rw [← hwords (Nat.le_of_lt hk), mapError_eq_ok]
    exact hu
  · -- The machine is at the head of the words behind the first `n`, if there are any.
    obtain ⟨hpc', hmemory, hat⟩ :=
      hs₀.run hstraight (by omega) (runCycles_eq_ok_iff.1 ht).2
    refine ⟨by rw [hpc', hpc]; rfl, hmemory, fun hnext => ?_⟩
    rw [List.drop_eq_getElem_cons hnext] at hat
    exact hat.fetch

/-- The longest program there can be, which adds one to a register 1792
times. It runs up to the end of memory, and its last word is fetched from
the last two bytes. -/
theorem runCycles_straightLine_full :
    let words : List Word := List.replicate 1792 0x7001
    words.length ≤ 1792 ∧ (∀ w ∈ words, (Instruction.decode w).isStraight = true) ∧
      ∃ s₀ t u, (boot ⟨0, 0⟩).load (Rom.ofWords words) = .ok s₀ ∧
        s₀.runCycles 1791 = .ok t ∧ t.pc.toNat = 0xFFE ∧ t.fetch = .ok (t.stepped, 0x7001) ∧
        s₀.runCycles 1792 = .ok u ∧ u.pc.toNat = 0x1000 ∧ u.memory = s₀.memory := by
  intro words
  have hlength : words.length = 1792 := List.length_replicate
  have hstraight : ∀ w ∈ words, (Instruction.decode w).isStraight = true := by
    intro w hw
    rw [List.eq_of_mem_replicate hw]
    decide
  -- Adding to a register never fails, however often it is done.
  have hadds : ∀ (n : Nat) (s : Machine),
      ∃ t, s.executeWords (List.replicate n (0x7001 : Word)) = .ok t := by
    intro n
    induction n with
    | zero => exact fun s => ⟨s, rfl⟩
    | succ n ih =>
      intro s
      obtain ⟨t, ht⟩ : ∃ t, s.stepped.executeInt (0x7001 : Word).toNat = .ok t := by
        rw [executeInt_toNat]
        exact ⟨_, rfl⟩
      obtain ⟨u, hu⟩ := ih t
      refine ⟨u, ?_⟩
      rw [List.replicate_succ, executeWords, List.foldlM_cons]
      exact bind_eq_ok.2 ⟨t, ht, hu⟩
  obtain ⟨s₀, hload, hrun⟩ := runCycles_straightLine ⟨0, 0⟩ words (by omega) hstraight
  have hends : ∀ n : Int, n ≤ words.length → ∃ t, s₀.runCycles n = .ok t := by
    intro n hn
    obtain ⟨t, ht⟩ := hadds (min n.toNat 1792) s₀
    refine ⟨t, ((hrun n hn).2.1 t).2 ?_⟩
    rw [List.take_replicate]
    exact ht
  obtain ⟨t, ht⟩ := hends 1791 (by omega)
  obtain ⟨u, hu⟩ := hends 1792 (by omega)
  obtain ⟨hpc, -, hfetch⟩ := (hrun 1791 (by omega)).2.2.2 t ht
  obtain ⟨hpc', hmemory, -⟩ := (hrun 1792 (by omega)).2.2.2 u hu
  refine ⟨by omega, hstraight, s₀, t, u, hload, ht, hpc, ?_, hu, hpc', hmemory⟩
  rw [hfetch (by show 1791 < words.length; omega)]
  simp only [words, List.getElem_replicate]

/-- The program points the index register at the last byte of memory and
adds 255 to it over and over. The 241st sum is too large for the register,
and the words one after the other end there. A batch goes on: the sums
that follow take the index register to 4349, where there is no row to
draw. The drawing stands at a lower place than the sum, and so its fault
is reported. -/
theorem runCycles_straightLine_hides_fault :
    let words : List Word := 0xAFFF :: 0x60FF :: (List.replicate 258 0xF01E ++ [0xD001])
    (∃ s₀, (boot ⟨0, 0⟩).load (Rom.ofWords words) = .ok s₀ ∧
      s₀.executeWords words = .error (.fault (.indexOverflow 65295 255)) ∧
      s₀.runCycles 261 = .error (.fault (.accessOutOfRange 4349 1))) ∧
    ¬ ∀ (random : RandomKey) (words : List Word), words.length ≤ 1792 →
      (∀ w ∈ words, (Instruction.decode w).isStraight = true) →
      ∃ s₀, (boot random).load (Rom.ofWords words) = .ok s₀ ∧
        ∀ n : Int, n ≤ words.length → s₀.runCycles n = s₀.executeWords (words.take n.toNat) := by
  intro words
  have hlength : words.length = 261 := by
    simp only [words, List.length_cons, List.length_append, List.length_replicate, List.length_nil]
  have hstraight : ∀ w ∈ words, (Instruction.decode w).isStraight = true := by
    intro w hw
    simp only [words, List.mem_cons, List.mem_append, List.mem_replicate, List.not_mem_nil] at hw
    rcases hw with rfl | rfl | ⟨-, rfl⟩ | rfl | hw
    · decide
    · decide
    · decide
    · decide
    · exact absurd hw id
  -- The words are carried out without the memory that holds them.
  have hcheck : ((boot ⟨0, 0⟩).load (Rom.ofWords words)).toOption.any (fun s =>
      error? (s.executeWords words) == some (.fault (.indexOverflow 65295 255)) &&
        error? ((Batch.start s).executeWords words).result
          == some (.accessOutOfRange 4349 1)) = true := by
    decide +kernel
  obtain ⟨s₀, hload, hcheck⟩ := ok_of_any hcheck
  simp only [Bool.and_eq_true, beq_iff_eq, error?_eq_some_iff] at hcheck
  obtain ⟨hwords, hresult⟩ := hcheck
  have hreport : s₀.runCycles 261 = .error (.fault (.accessOutOfRange 4349 1)) := by
    obtain ⟨-, hs₀⟩ := atWords_load ⟨0, 0⟩ (by omega) hload
    have hbatch : (Batch.start s₀).run 261 = (Batch.start s₀).executeWords (words.take 261) :=
      hs₀.batch_run hstraight (by omega)
    rw [runCycles_of_lt (by decide)]
    show ((Batch.start s₀).run 261).result.mapError _ = _
    rw [hbatch, List.take_of_length_le (by omega), hresult]
    rfl
  refine ⟨⟨s₀, hload, hwords, hreport⟩, fun hclaim => ?_⟩
  obtain ⟨s₁, hload', hsame⟩ := hclaim ⟨0, 0⟩ words (by omega) hstraight
  cases hload.symm.trans hload'
  have hboth := hsame 261 (by omega)
  rw [List.take_of_length_le (by show words.length ≤ 261; omega), hreport, hwords] at hboth
  cases hboth

end Machine

end Chip8
