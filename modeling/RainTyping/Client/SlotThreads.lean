import RainTyping.Client.GameLocks

/-!
# The threads of a slot

A word thread works on its slot until it has erased the entry of its word in
its last section.  While the game runs and `words_mutex` is free, at most one
thread will still use a slot, and `thread_id` and `to_remove` tell whether
there is one.
-/

namespace RainTyping

/-- The code from this point to the next operation reads or writes the slot of
the thread. -/
def WordPc.accesses : WordPc → Bool
  | .activeLock => true
  | .overUnlock _ _ => true
  | .dropLock => true
  | .landHashLock => true
  | .landStateLock => true
  | .exitLock => true
  | .exitHashLock => true
  | _ => false

/-- The thread has not done its last access yet. -/
def WordPc.stillAccesses : WordPc → Bool
  | .exitHashUnlock => false
  | .exitUnlock => false
  | .finished => false
  | .joined => false
  | _ => true

namespace Game

/-- The thread will still read or write the slot. -/
def StillAccesses (game : Game) (threadId : Nat) (slot : Fin maxWords) :
    Prop :=
  ∃ pc : WordPc, game.threads threadId = some ⟨slot, pc⟩ ∧
    pc.stillAccesses = true

/-- A slot has a thread that will still use it exactly when it holds a thread
that is not marked as finished, and then it has only this one. -/
structure SlotsOwned (game : Game) : Prop where
  unique : ∀ slot first second, game.StillAccesses first slot →
    game.StillAccesses second slot → first = second
  held : ∀ slot, (∃ threadId, game.StillAccesses threadId slot) ↔
    (game.words slot).threadId ≠ 0 ∧ (game.words slot).toRemove = false
  removed : ∀ slot, (game.words slot).toRemove = true →
    (game.words slot).active = false
  active : ∀ slot, (game.words slot).active = true →
    ∃ threadId, game.StillAccesses threadId slot
  /-- The slot that `spawn_word` takes. -/
  reused : ∀ slot, freeSlot game.words = some slot →
    ∀ threadId, ¬game.StillAccesses threadId slot

variable {game : Game} {slot : Fin maxWords} {threadId : Nat}
  {thread : WordThread} {pc : WordPc} {word : Word}

/-! ## What a thread still accesses -/

/-- At every other point the code neither reads nor writes the slot: any
change of the slot makes no difference to it. -/
theorem wordStep_setWord
    (elsewhere : pc.accesses = false) (dropDue : Bool) :
    (game.setWord slot word).wordStep threadId ⟨slot, pc⟩ dropDue =
      (game.wordStep threadId ⟨slot, pc⟩ dropDue).setWord slot word := by
  cases pc with
  | activeLock => cases elsewhere
  | overUnlock active gameOver => cases elsewhere
  | dropLock => cases elsewhere
  | landHashLock => cases elsewhere
  | landStateLock => cases elsewhere
  | exitLock => cases elsewhere
  | exitHashLock => cases elsewhere
  | _ => rfl

private theorem stillAccesses_successor
    (pc : WordPc) :
    ∀ next ∈ pc.successors,
      (pc.stillAccesses = true ↔
        pc.accesses = true ∨ next.stillAccesses = true) := by
  cases pc with
  | activeUnlock active => cases active <;> decide
  | overLock active => cases active <;> decide
  | overUnlock active gameOver =>
      cases active <;> cases gameOver <;> decide
  | _ => decide

/-- A thread still accesses its slot until it does so for the last time, and
never again afterwards. -/
theorem stillAccesses_wordStep
    (live : game.threads threadId = some thread) (dropDue : Bool) :
    ∃ pc : WordPc,
      (game.wordStep threadId thread dropDue).threads =
          Function.update game.threads threadId (some ⟨thread.slot, pc⟩) ∧
        (thread.pc.stillAccesses = true ↔
          thread.pc.accesses = true ∨ pc.stillAccesses = true) := by
  obtain ⟨pc, follows, threads⟩ := wordStep_successor live dropDue
  exact ⟨pc, threads, stillAccesses_successor thread.pc pc follows⟩

/-! ## The threads of the round -/

/-- Where `words_mutex` is free no thread is within its last section. -/
private theorem stillAccesses_iff_phase
    (free : Mutex.words ∉ pc.held) :
    pc.stillAccesses = true ↔ pc.phase = .falling ∨ pc.phase = .landing := by
  cases pc with
  | exitHashLock => exact absurd (by decide) free
  | _ => simp [WordPc.stillAccesses, WordPc.phase]

theorem stillAccesses_iff
    (locksHeld : game.LocksHeld) (free : game.owners .words = none) :
    game.StillAccesses threadId slot ↔ game.round.Uses threadId slot := by
  have unheld : ∀ pc : WordPc, game.threads threadId = some ⟨slot, pc⟩ →
      Mutex.words ∉ pc.held := by
    intro pc live holds
    have held : .words ∈ game.held (.word threadId) := by
      simp only [held, live]
      exact holds
    rw [(locksHeld _ _).mpr held] at free
    cases free
  constructor
  · rintro ⟨pc, live, still⟩
    have there := round_threads_of_live live
    rcases (stillAccesses_iff_phase (unheld pc live)).mp still with
      falling | landing
    · exact .inl (by rw [there, WordThread.round, falling])
    · exact .inr (by rw [there, WordThread.round, landing])
  · intro uses
    have there : ∃ phase, game.round.threads threadId = some ⟨slot, phase⟩ ∧
        (phase = .falling ∨ phase = .landing) := by
      rcases uses with falling | landing
      · exact ⟨_, falling, .inl rfl⟩
      · exact ⟨_, landing, .inr rfl⟩
    obtain ⟨phase, there, before⟩ := there
    simp only [round, Option.map_eq_some_iff] at there
    obtain ⟨⟨place, pc⟩, live, same⟩ := there
    simp only [WordThread.round, RoundThread.mk.injEq] at same
    obtain ⟨rfl, rfl⟩ := same
    exact ⟨pc, live, (stillAccesses_iff_phase (unheld pc live)).mpr before⟩

/-- A slot is filled within one section on `words_mutex`. -/
private theorem holds_of_filled
    (filled : game.main.phase = .filled slot) : .words ∈ game.main.held := by
  cases current : game.main with
  | addLock other => exact Finset.mem_singleton_self _
  | addUnlock other =>
      exact Finset.mem_insert_of_mem (Finset.mem_singleton_self _)
  | inputUnlock target =>
      rw [current] at filled
      cases target <;> cases filled
  | joinLock loop =>
      rw [current] at filled
      cases loop <;> cases filled
  | joining loop other =>
      rw [current] at filled
      cases loop <;> cases filled
  | joinUnlock loop =>
      rw [current] at filled
      cases loop <;> cases filled
  | _ =>
      rw [current] at filled
      cases filled

/-! ## Owned slots -/

/-- The thread of a slot that is not marked is still at work, and it is the
one whose number the slot holds. -/
theorem uses_iff
    (owned : game.round.Owned) (playing : game.main.phase ≠ .closing) :
    game.round.Uses threadId slot ↔
      (game.words slot).threadId = threadId ∧ threadId ≠ 0 ∧
        (game.words slot).toRemove = false := by
  constructor
  · intro uses
    have mine : (game.words slot).threadId = threadId :=
      owned.threadId_of_uses uses
    refine ⟨mine, ?_, owned.unmarked_of_uses uses playing⟩
    rintro rfl
    exact owned.unused_of_threadId mine 0 uses
  · rintro ⟨rfl, some, unmarked⟩
    obtain ⟨phase, held, falling | landing | exited⟩ := owned.owner slot some
    · exact .inl (falling ▸ held)
    · exact .inr (landing ▸ held)
    · have marked : (game.words slot).toRemove = true :=
        (owned.exited slot (exited ▸ held)).2
      rw [unmarked] at marked
      cases marked

private theorem uses_of_active
    (owned : game.round.Owned) (locksHeld : game.LocksHeld)
    (free : game.owners .words = none)
    (active : (game.words slot).active = true) :
    game.round.Uses (game.words slot).threadId slot := by
  refine .inl (owned.falling_of_active active ?_)
  intro filled
  rw [(locksHeld .words .main).mpr (holds_of_filled filled)] at free
  cases free

theorem slotsOwned
    (owned : game.round.Owned) (locksHeld : game.LocksHeld)
    (playing : game.main.phase ≠ .closing)
    (free : game.owners .words = none) : game.SlotsOwned := by
  have still : ∀ {threadId slot}, game.StillAccesses threadId slot ↔
      (game.words slot).threadId = threadId ∧ threadId ≠ 0 ∧
        (game.words slot).toRemove = false :=
    (stillAccesses_iff locksHeld free).trans (uses_iff owned playing)
  have activeUsed : ∀ slot, (game.words slot).active = true →
      game.StillAccesses (game.words slot).threadId slot := by
    intro slot active
    exact (stillAccesses_iff locksHeld free).mpr
      (uses_of_active owned locksHeld free active)
  constructor
  case unique =>
      intro slot first second firstUses secondUses
      exact (still.mp firstUses).1.symm.trans (still.mp secondUses).1
  case held =>
      intro slot
      constructor
      · rintro ⟨threadId, uses⟩
        obtain ⟨rfl, some, unmarked⟩ := still.mp uses
        exact ⟨some, unmarked⟩
      · rintro ⟨some, unmarked⟩
        exact ⟨_, still.mpr ⟨rfl, some, unmarked⟩⟩
  case removed =>
      intro slot marked
      by_contra active
      rw [Bool.not_eq_false] at active
      have unmarked := (still.mp (activeUsed slot active)).2.2
      rw [marked] at unmarked
      cases unmarked
  case active => exact fun slot active => ⟨_, activeUsed slot active⟩
  case reused =>
      intro slot taken threadId uses
      obtain ⟨rfl, some, unmarked⟩ := still.mp uses
      rcases freeSlot_eq_some taken with none | marked
      · exact some none
      · rw [unmarked] at marked
        cases marked

/-- Up to the call of `safe_game_cleanup` and outside the sections on
`words_mutex`, every slot has one owner at most. -/
theorem slotsOwned_of_run
    (wordList : List CString) (area : GameArea) (input : InputLine)
    (actions : List GameAction) (game : Game)
    (ran : step.run (start wordList area input) actions = some game)
    (playing : game.main.phase ≠ .closing)
    (free : game.owners .words = none) : game.SlotsOwned :=
  slotsOwned (owned_of_run ran) (locksHeld_of_run ran) playing free

/-- A word has been spawned and falls. -/
def spawns : List GameAction :=
  List.replicate 21 (.main .spawnNow) ++ List.replicate 9 (.word 1 true)

theorem slotsOwned_of_spawns :
    ∃ game, step.run (start oneWord smallArea .blank) spawns = some game ∧
      (game.words 0).active = true ∧ game.SlotsOwned :=
  ⟨_, rfl, rfl, slotsOwned_of_run oneWord smallArea .blank spawns _ rfl nofun
    rfl⟩

end Game

end RainTyping
