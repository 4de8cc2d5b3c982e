import Chip8.Machine.Load
import Chip8.Proofs.Machine.Replay
import Mathlib.Logic.Function.Iterate

/-!
# `Chip8.Proofs.Machine.RandomStream`: the random bytes of a run

The key of the random source gives a stream of bytes: `RandomKey.byteAt k j`
is the byte of the draw with the number `j`, counted from zero, when the
draws start at the key `k`.

`random_cases` is the step lemma. An event either retires an instruction
that draws (`Step.draws`), stores the byte of the key under a mask
(`Step.Stores`) and moves the key on by one, or it leaves the key alone.
`OnStream` says what has become of the key and of the draws since the
start of a run: the key has moved on by the number of draws, and each draw
has stored the byte that the stream has at its place. One more event keeps
it (`OnStream.apply`), and so it holds of every run (`onStream_steps`).

The main statement is `replay_draws`. The bytes before they are masked
depend on nothing but the first key, so two runs from one key draw the
same bytes, whatever programs they run. An instruction that does not draw
does the same with any key (`execute_withRandom`).
-/

set_option autoImplicit false

namespace Chip8

/-- The byte of the `j`-th draw that starts at the key `k`, counted from
zero. -/
def RandomKey.byteAt (k : RandomKey) (j : Nat) : UInt8 := (next^[j] k).byte

namespace Machine

variable {s t : Machine} {i : Instruction} {e : Event} {events : List Event}

/-! ### Drawing a byte -/

/-- Whether a random byte is drawn in the step. -/
def Step.draws (st : Step) : Bool := st.retired?.any (·.isRandom)

/-- The step retires an instruction that puts the byte `b`, under its
mask, into its register. -/
def Step.Stores (st : Step) (b : UInt8) : Prop :=
  ∃ x mask, st.retired? = some (.random x mask) ∧ st.after.registers.get x = b &&& mask

/-- The steps of a run in which a random byte is drawn. -/
def draws (s : Machine) (events : List Event) : List Step := (s.steps events).filter (·.draws)

/-- An instruction that draws stores the byte of the key, and moves the
key on. -/
theorem execute_random {x : Fin 16} {mask : UInt8} (h : s.execute (.random x mask) = .ok t) :
    t.registers.get x = s.random.byte &&& mask ∧ t.random = s.random.next := by
  cases h
  exact ⟨by rw [setRegister, Registers.get_set, if_pos rfl], rfl⟩

/-- An instruction that does not draw does the same with any key, and
hands the key on. -/
theorem execute_withRandom (s : Machine) (k : RandomKey) (hi : i.isRandom = false) :
    ({ s with random := k } : Machine).execute i
      = (s.execute i).map fun t => { t with random := k } := by
  rw [execute, execute, perform_withRandom s k hi]
  cases s.perform i with
  | error f => rfl
  | ok t => rfl

/-! ### Steps and runs -/

/-- An event draws a byte from the key and moves it on, or it leaves the
key alone. -/
theorem random_cases (h : s.apply e = .ok t) :
    ((⟨s, e, t⟩ : Step).draws = true ∧ (⟨s, e, t⟩ : Step).Stores s.random.byte ∧
        t.random = s.random.next) ∨
      (⟨s, e, t⟩ : Step).draws = false ∧ t.random = s.random := by
  cases e with
  | tick | press | release =>
    cases h
    exact .inr ⟨rfl, rfl⟩
  | cycle =>
    obtain ⟨i, hcur, hexec⟩ := current?_of_cycle h
    have hretired : (⟨s, .cycle, t⟩ : Step).retired? = some i := hcur
    have hdraws : (⟨s, .cycle, t⟩ : Step).draws = i.isRandom := by
      rw [Step.draws, hretired, Option.any_some]
    rw [hdraws]
    cases hi : i.isRandom with
    | true =>
      -- There is one instruction that draws.
      cases i with
      | random x mask =>
        obtain ⟨hstored, hnext⟩ := execute_random hexec
        exact .inl ⟨rfl, ⟨x, mask, hretired, hstored⟩, hnext⟩
      | _ => cases hi
    | false =>
      obtain ⟨u, hu, rfl⟩ := execute_eq_ok_iff.1 hexec
      have hsame : u.random = s.stepped.random := random_of_perform hi hu
      exact .inr ⟨rfl, hsame⟩

/-- A machine that has gone through the steps `done` since its key was
`k`: the key has moved on by the number of draws, each draw has stored the
byte that the stream has at its place, and all other steps have left the
key alone. -/
structure OnStream (u : Machine) (k : RandomKey) (done : List Step) : Prop where
  key_eq : u.random = RandomKey.next^[(done.filter (·.draws)).length] k
  stores : ∀ (j : Nat) (st : Step), (done.filter (·.draws))[j]? = some st →
    st.Stores (k.byteAt j)
  quiet : ∀ st ∈ done, st.draws = false → st.after.random = st.before.random

theorem onStream_start (s : Machine) : s.OnStream s.random [] where
  key_eq := rfl
  stores _ _ h := nomatch List.getElem?_nil.symm.trans h
  quiet _ h := absurd h List.not_mem_nil

/-- One more event keeps a machine on the stream of its first key. -/
theorem OnStream.apply {k : RandomKey} {done : List Step} (hs : s.OnStream k done)
    (h : s.apply e = .ok t) : t.OnStream k (done ++ [⟨s, e, t⟩]) := by
  rcases random_cases h with ⟨hdraws, hstores, hnext⟩ | ⟨hdraws, hsame⟩
  · have hfilter : (done ++ [(⟨s, e, t⟩ : Step)]).filter (·.draws)
        = done.filter (·.draws) ++ [⟨s, e, t⟩] := by
      rw [List.filter_append, List.filter_cons_of_pos hdraws, List.filter_nil]
    refine ⟨?_, fun j st hst => ?_, ?_⟩
    · rw [hfilter, List.length_append, List.length_singleton, Function.iterate_succ_apply',
        ← hs.key_eq, hnext]
    · rw [hfilter] at hst
      by_cases hj : j < (done.filter (·.draws)).length
      · rw [List.getElem?_append_left hj] at hst
        exact hs.stores j st hst
      · -- The draw is the last one so far, so its place is the number of those before it.
        rw [List.getElem?_append_right (Nat.le_of_not_lt hj), List.getElem?_singleton] at hst
        split at hst
        · cases hst
          have hlast : j = (done.filter (·.draws)).length := by omega
          rw [RandomKey.byteAt, hlast, ← hs.key_eq]
          exact hstores
        · cases hst
    · simp only [List.forall_mem_append, List.forall_mem_singleton]
      exact ⟨hs.quiet, fun hfalse => absurd hdraws (Bool.eq_false_iff.1 hfalse)⟩
  · have hfilter : (done ++ [(⟨s, e, t⟩ : Step)]).filter (·.draws) = done.filter (·.draws) := by
      rw [List.filter_append, List.filter_cons_of_neg (Bool.eq_false_iff.1 hdraws), List.filter_nil,
        List.append_nil]
    refine ⟨?_, ?_, ?_⟩
    · rw [hfilter, hsame, hs.key_eq]
    · rw [hfilter]
      exact hs.stores
    · simp only [List.forall_mem_append, List.forall_mem_singleton]
      exact ⟨hs.quiet, fun _ => hsame⟩

/-- A run stays on the stream of its first key. -/
theorem onStream_steps (h : s.replay events = .ok t) : t.OnStream s.random (s.steps events) :=
  replay_steps_induction (R := fun u done => u.OnStream s.random done) s.onStream_start
    (fun _ _ _ _ hu hv => hu.apply hv) h

/-- A run of any program, with ticks of the timers and keys in between,
draws the stream of bytes that its first key gives. The key at the end has
moved on by the number of draws. The draw with the number `j` stores the
byte `j` of the stream under its mask, so two runs that start from the
same key store the same bytes, apart from the masks, as far as both draw.
No other step changes the key, and no other instruction looks at it. -/
theorem replay_draws (h : s.replay events = .ok t) :
    t.random = RandomKey.next^[(s.draws events).length] s.random ∧
      (∀ (j : Nat) (st : Step), (s.draws events)[j]? = some st → st.Stores (s.random.byteAt j)) ∧
      (∀ (s' t' : Machine) (events' : List Event), s'.random = s.random → s'.replay events' = .ok t' →
        ∀ (j : Nat) (st st' : Step), (s.draws events)[j]? = some st → (s'.draws events')[j]? = some st' →
          ∃ b, st.Stores b ∧ st'.Stores b) ∧
      (∀ st ∈ s.steps events, st.draws = false → st.after.random = st.before.random) ∧
      ∀ (u : Machine) (i : Instruction) (k : RandomKey), i.isRandom = false →
        ({ u with random := k } : Machine).execute i
          = (u.execute i).map fun v => { v with random := k } := by
  have hstream := onStream_steps h
  refine ⟨hstream.key_eq, hstream.stores, fun s' t' events' hsame h' j st st' hst hst' => ?_,
    hstream.quiet, fun u i k hi => execute_withRandom u k hi⟩
  -- The stream of the other run is that of the same key.
  have hstores' := (onStream_steps h').stores j st' hst'
  rw [hsame] at hstores'
  exact ⟨s.random.byteAt j, hstream.stores j st hst, hstores'⟩

/-- A program that draws under the mask `FF` and then under the mask `0F`,
and one that draws under the mask `F0`. From the key for the seed 0 the
first draw gives `0E` in both, of which the second program keeps
nothing. -/
theorem replay_draws_twoPrograms :
    ∃ s t s' t' : Machine,
      (boot (.ofSeed 0)).load [0xC0, 0xFF, 0xC1, 0x0F] = .ok s ∧
        s.replay [.cycle, .tick, .cycle] = .ok t ∧
        (boot (.ofSeed 0)).load [0xC7, 0xF0] = .ok s' ∧
        s'.replay [.cycle] = .ok t' ∧
        t.random = (RandomKey.ofSeed 0).next.next ∧
        t.registers.get 0 = 0x0E ∧ t'.registers.get 7 = 0 ∧
        ∃ st st', (s.draws [.cycle, .tick, .cycle])[0]? = some st ∧
          (s'.draws [.cycle])[0]? = some st' ∧
          ∃ b, st.Stores b ∧ st'.Stores b := by
  have hcheck : ((boot (.ofSeed 0)).load [0xC0, 0xFF, 0xC1, 0x0F]).toOption.any
      (fun s => s.random == .ofSeed 0 &&
        (s.draws [.cycle, .tick, .cycle]).length == 2 &&
        (s.replay [.cycle, .tick, .cycle]).toOption.any
          fun t => t.registers.get 0 == 0x0E) = true := by
    decide +kernel
  have hcheck' : ((boot (.ofSeed 0)).load [0xC7, 0xF0]).toOption.any
      (fun s => s.random == .ofSeed 0 && (s.draws [.cycle]).length == 1 &&
        (s.replay [.cycle]).toOption.any fun t => t.registers.get 7 == 0) = true := by
    decide +kernel
  obtain ⟨s, hs, hcheck⟩ := ok_of_any hcheck
  obtain ⟨s', hs', hcheck'⟩ := ok_of_any hcheck'
  simp only [Bool.and_eq_true, beq_iff_eq] at hcheck hcheck'
  obtain ⟨⟨hkey, hcount⟩, hrun⟩ := hcheck
  obtain ⟨⟨hkey', hcount'⟩, hrun'⟩ := hcheck'
  obtain ⟨t, ht, hstored⟩ := ok_of_any hrun
  obtain ⟨t', ht', hstored'⟩ := ok_of_any hrun'
  obtain ⟨hrandom, -, htwo, -, -⟩ := replay_draws ht
  rw [hcount, hkey] at hrandom
  have hst := List.getElem?_eq_getElem (Nat.lt_of_lt_of_eq Nat.zero_lt_two hcount.symm)
  have hst' := List.getElem?_eq_getElem (Nat.lt_of_lt_of_eq Nat.zero_lt_one hcount'.symm)
  exact ⟨s, t, s', t', hs, ht, hs', ht', hrandom, beq_iff_eq.1 hstored, beq_iff_eq.1 hstored',
    _, _, hst, hst', htwo s' t' _ (hkey'.trans hkey.symm) ht' 0 _ _ hst hst'⟩

end Machine

end Chip8
