import RainTyping.Client.RoundModel

/-!
# The owner of a slot

At most one thread will still use a slot: the one whose number the slot holds.
A slot is taken again only when that thread has left it.
-/

namespace RainTyping

namespace Round

/-- The thread of a slot is the only one that will still use the slot. -/
structure Owned (round : Round) : Prop where
  positive : 0 < round.nextThreadId
  issued : ∀ threadId thread, round.threads threadId = some thread →
    threadId ≠ 0 ∧ threadId < round.nextThreadId
  owner : ∀ slot, (round.words slot).threadId ≠ 0 →
    ∃ phase, round.threads (round.words slot).threadId = some ⟨slot, phase⟩ ∧
      (phase = .falling ∨ phase = .landing ∨ phase = .exited)
  falling : ∀ threadId slot,
    round.threads threadId = some ⟨slot, .falling⟩ →
      (round.words slot).threadId = threadId ∧
        (round.phase ≠ .closing → (round.words slot).toRemove = false)
  landing : ∀ threadId slot,
    round.threads threadId = some ⟨slot, .landing⟩ →
      (round.words slot).threadId = threadId ∧
        (round.phase ≠ .closing → (round.words slot).toRemove = false) ∧
        (round.words slot).active = false
  exited : ∀ slot,
    round.threads (round.words slot).threadId = some ⟨slot, .exited⟩ →
      (round.words slot).active = false ∧
        (round.words slot).toRemove = true
  active : ∀ slot, (round.words slot).active = true →
    round.phase = .filled slot ∨ (round.words slot).threadId ≠ 0
  choosing : ∀ slot, round.phase = .choosing slot →
    (round.words slot).threadId = 0 ∧ (round.words slot).active = false
  filled : ∀ slot, round.phase = .filled slot →
    (round.words slot).threadId = 0 ∧ (round.words slot).toRemove = false

variable {round next : Round} {slot other : Fin maxWords} {threadId : Nat}

/-- The thread has not left its slot. -/
def Uses (round : Round) (threadId : Nat) (slot : Fin maxWords) : Prop :=
  round.threads threadId = some ⟨slot, .falling⟩ ∨
    round.threads threadId = some ⟨slot, .landing⟩

namespace Owned

theorem threadId_of_uses
    (owned : round.Owned) (uses : round.Uses threadId slot) :
    (round.words slot).threadId = threadId := by
  rcases uses with falling | landing
  · exact (owned.falling threadId slot falling).1
  · exact (owned.landing threadId slot landing).1

theorem unmarked_of_uses
    (owned : round.Owned) (uses : round.Uses threadId slot)
    (opened : round.phase ≠ .closing) :
    (round.words slot).toRemove = false := by
  rcases uses with falling | landing
  · exact (owned.falling threadId slot falling).2 opened
  · exact (owned.landing threadId slot landing).2.1 opened

theorem unused_of_threadId
    (owned : round.Owned) (free : (round.words slot).threadId = 0) :
    ∀ threadId, ¬round.Uses threadId slot := by
  intro threadId uses
  have sameThread := owned.threadId_of_uses uses
  have issued : threadId ≠ 0 := by
    rcases uses with falling | landing
    · exact (owned.issued threadId _ falling).1
    · exact (owned.issued threadId _ landing).1
  exact issued (sameThread.symm.trans free)

/-- The slot `spawn_word` takes is inactive and no thread uses it. -/
theorem unused_of_free
    (owned : round.Owned) (playing : round.phase = .playing)
    (free : (round.words slot).threadId = 0 ∨
      (round.words slot).toRemove = true) :
    (∀ threadId, ¬round.Uses threadId slot) ∧
      (round.words slot).active = false := by
  have unused : ∀ threadId, ¬round.Uses threadId slot := by
    rcases free with none | marked
    · exact owned.unused_of_threadId none
    · intro threadId uses
      have unmarked := owned.unmarked_of_uses uses (by simp [playing])
      rw [unmarked] at marked
      cases marked
  refine ⟨unused, ?_⟩
  by_contra active
  rw [Bool.not_eq_false] at active
  rcases owned.active slot active with filled | some
  · rw [playing] at filled
    cases filled
  · obtain ⟨phase, held, falling | landing | exited⟩ := owned.owner slot some
    · exact unused _ (.inl (falling ▸ held))
    · exact unused _ (.inr (landing ▸ held))
    · have inactive := (owned.exited slot (exited ▸ held)).1
      rw [active] at inactive
      cases inactive

theorem falling_of_active
    (owned : round.Owned) (active : (round.words slot).active = true)
    (started : round.phase ≠ .filled slot) :
    round.threads (round.words slot).threadId = some ⟨slot, .falling⟩ := by
  have issued := (owned.active slot active).resolve_left started
  obtain ⟨phase, held, falling | landing | exited⟩ := owned.owner slot issued
  · exact falling ▸ held
  · have inactive := (owned.landing _ slot (landing ▸ held)).2.2
    rw [active] at inactive
    cases inactive
  · have inactive := (owned.exited slot (exited ▸ held)).1
    rw [active] at inactive
    cases inactive

/-- Two slots never hold the same thread. -/
theorem slot_unique
    (owned : round.Owned)
    (issued : (round.words slot).threadId ≠ 0)
    (same : (round.words other).threadId = (round.words slot).threadId) :
    other = slot := by
  obtain ⟨phase, held, _⟩ := owned.owner slot issued
  obtain ⟨otherPhase, otherHeld, _⟩ := owned.owner other (same ▸ issued)
  rw [same, held] at otherHeld
  cases otherHeld
  rfl

/-! ## Frames -/

/-- What the invariant does not mention may change, and words may vanish. -/
theorem congr
    (owned : round.Owned)
    (sameThreads : next.threads = round.threads)
    (sameNext : next.nextThreadId = round.nextThreadId)
    (samePhase : next.phase = round.phase)
    (sameThread : ∀ slot,
      (next.words slot).threadId = (round.words slot).threadId)
    (sameMark : ∀ slot,
      (next.words slot).toRemove = (round.words slot).toRemove)
    (fewer : ∀ slot, (next.words slot).active = true →
      (round.words slot).active = true) :
    next.Owned := by
  have inactive : ∀ slot, (round.words slot).active = false →
      (next.words slot).active = false := by
    intro slot gone
    by_contra active
    rw [Bool.not_eq_false] at active
    rw [fewer slot active] at gone
    cases gone
  constructor
  case positive => exact sameNext ▸ owned.positive
  case issued => rw [sameThreads, sameNext]; exact owned.issued
  case owner => simp only [sameThreads, sameThread]; exact owned.owner
  case falling =>
      simp only [sameThreads, sameThread, sameMark, samePhase]
      exact owned.falling
  case landing =>
      simp only [sameThreads, sameThread, sameMark, samePhase]
      intro threadId slot landing
      obtain ⟨sameId, unmarked, gone⟩ := owned.landing threadId slot landing
      exact ⟨sameId, unmarked, inactive slot gone⟩
  case exited =>
      simp only [sameThreads, sameThread, sameMark]
      intro slot exited
      obtain ⟨gone, marked⟩ := owned.exited slot exited
      exact ⟨inactive slot gone, marked⟩
  case active =>
      simp only [sameThread, samePhase]
      intro slot active
      exact owned.active slot (fewer slot active)
  case choosing =>
      simp only [sameThread, samePhase]
      intro slot choosing
      obtain ⟨none, gone⟩ := owned.choosing slot choosing
      exact ⟨none, inactive slot gone⟩
  case filled =>
      simp only [sameThread, sameMark, samePhase]
      exact owned.filled

theorem account
    (owned : round.Owned) (score : Int32) (lives : Int) (isOver : Bool)
    (landed : List SpawnedWord) (settled : List Settlement) :
    Owned
      { round with
        score := score
        lives := lives
        isOver := isOver
        landed := landed
        settled := settled } :=
  ⟨owned.positive, owned.issued, owned.owner, owned.falling, owned.landing,
    owned.exited, owned.active, owned.choosing, owned.filled⟩

theorem setWord
    (owned : round.Owned) {word : Word}
    (sameThread : word.threadId = (round.words slot).threadId)
    (sameMark : word.toRemove = (round.words slot).toRemove)
    (fewer : word.active = true → (round.words slot).active = true) :
    (round.setWord slot word).Owned := by
  refine owned.congr rfl rfl rfl ?_ ?_ ?_
  all_goals
    intro other
    simp only [Round.setWord, Words.set_apply]
    split
    · rename_i same
      subst same
      assumption
    · simp

/-- The main thread begins or ends something that concerns no free slot. -/
theorem goto
    (owned : round.Owned) {phase : MainPhase}
    (unfilled : ∀ slot, round.phase ≠ .filled slot)
    (opened : round.phase ≠ .closing)
    (after : phase = .playing ∨ ∃ slot wtype, phase = .typed slot wtype) :
    (round.goto phase).Owned := by
  constructor
  case positive => exact owned.positive
  case issued => exact owned.issued
  case owner => exact owned.owner
  case falling =>
      intro threadId slot falling
      obtain ⟨sameId, unmarked⟩ := owned.falling threadId slot falling
      exact ⟨sameId, fun _ => unmarked opened⟩
  case landing =>
      intro threadId slot landing
      obtain ⟨sameId, unmarked, gone⟩ := owned.landing threadId slot landing
      exact ⟨sameId, fun _ => unmarked opened, gone⟩
  case exited => exact owned.exited
  case active =>
      intro slot active
      exact .inr ((owned.active slot active).resolve_left (unfilled slot))
  case choosing =>
      intro slot choosing
      rcases after with rfl | ⟨_, _, rfl⟩ <;> cases choosing
  case filled =>
      intro slot filled
      rcases after with rfl | ⟨_, _, rfl⟩ <;> cases filled

/-! ## Events -/

/-- The main thread changes a slot that no thread uses. -/
private theorem setFreeWord
    (owned : round.Owned) {word : Word} {phase : MainPhase}
    (unused : ∀ threadId, ¬round.Uses threadId slot)
    (opened : round.phase ≠ .closing)
    (begun : ∀ other, round.phase = .filled other → other = slot)
    (free : word.threadId = 0)
    (active : word.active = true → phase = .filled slot)
    (choosing : ∀ other, phase = .choosing other →
      other = slot ∧ word.active = false)
    (filled : ∀ other, phase = .filled other →
      other = slot ∧ word.toRemove = false) :
    ((round.setWord slot word).goto phase).Owned := by
  have apart : ∀ threadId other, round.Uses threadId other →
      round.words.set slot word other = round.words other := by
    intro threadId other uses
    have different : other ≠ slot := by
      rintro rfl
      exact unused threadId uses
    exact Words.set_of_ne _ word different
  constructor <;> simp only [Round.setWord, Round.goto]
  case positive => exact owned.positive
  case issued => exact owned.issued
  case owner =>
      intro other issued
      by_cases here : other = slot
      · subst here
        rw [Words.set_same] at issued
        exact absurd free issued
      · rw [Words.set_of_ne _ _ here] at issued ⊢
        exact owned.owner other issued
  case falling =>
      intro threadId other falling
      obtain ⟨sameThread, unmarked⟩ := owned.falling threadId other falling
      rw [apart threadId other (.inl falling)]
      exact ⟨sameThread, fun _ => unmarked opened⟩
  case landing =>
      intro threadId other landing
      obtain ⟨sameThread, unmarked, gone⟩ :=
        owned.landing threadId other landing
      rw [apart threadId other (.inr landing)]
      exact ⟨sameThread, fun _ => unmarked opened, gone⟩
  case exited =>
      intro other exited
      by_cases here : other = slot
      · subst here
        rw [Words.set_same, free] at exited
        exact absurd rfl (owned.issued 0 _ exited).1
      · rw [Words.set_of_ne _ _ here] at exited ⊢
        exact owned.exited other exited
  case active =>
      intro other shown
      by_cases here : other = slot
      · subst here
        rw [Words.set_same] at shown
        exact .inl (active shown)
      · rw [Words.set_of_ne _ _ here] at shown ⊢
        have unfilled : round.phase ≠ .filled other :=
          fun filled => here (begun other filled)
        exact .inr ((owned.active other shown).resolve_left unfilled)
  case choosing =>
      intro other chosen
      obtain ⟨rfl, gone⟩ := choosing other chosen
      rw [Words.set_same]
      exact ⟨free, gone⟩
  case filled =>
      intro other chosen
      obtain ⟨rfl, unmarked⟩ := filled other chosen
      rw [Words.set_same]
      exact ⟨free, unmarked⟩

private theorem chooseSlot
    (owned : round.Owned) (playing : round.phase = .playing)
    (free : (round.words slot).threadId = 0 ∨
      (round.words slot).toRemove = true) :
    ((round.setWord slot (round.words slot).release).goto
      (.choosing slot)).Owned := by
  obtain ⟨unused, inactive⟩ := owned.unused_of_free playing free
  rw [release_threadId free]
  apply owned.setFreeWord unused
  · simp [playing]
  · simp [playing]
  · rfl
  · simp [inactive]
  · simp [inactive]
  · exact nofun

private theorem fillSlot
    (owned : round.Owned) (choosing : round.phase = .choosing slot)
    (areaWidth : Nat) (pick : CString) (rolls : Rolls) :
    ((round.setWord slot
      ((round.words slot).fill areaWidth pick rolls)).goto
        (.filled slot)).Owned := by
  have free := (owned.choosing slot choosing).1
  apply owned.setFreeWord (owned.unused_of_threadId free)
  · simp [choosing]
  · simp [choosing]
  · exact free
  · exact fun _ => rfl
  · exact nofun
  · simp [Word.fill]

private theorem startFails
    (owned : round.Owned) (filled : round.phase = .filled slot) :
    ((round.setWord slot (round.words slot).unspawn).goto .playing).Owned := by
  have free := (owned.filled slot filled).1
  apply owned.setFreeWord (owned.unused_of_threadId free)
  · simp [filled]
  · simp [filled]
  · rfl
  · exact nofun
  · exact nofun
  · exact nofun

/-- What a slot holds for a thread in this phase. -/
private def Holds (word : Word) (threadId : Nat) (opened : Prop) :
    WordPhase → Prop
  | .falling =>
      word.threadId = threadId ∧ (opened → word.toRemove = false)
  | .landing =>
      word.threadId = threadId ∧ (opened → word.toRemove = false) ∧
        word.active = false
  | .exited =>
      word.threadId = threadId ∧ word.active = false ∧ word.toRemove = true
  | .joined => word.threadId = 0 ∧ word.active = false

/-- A slot that has a thread has this one, and it is not joined. -/
private theorem Holds.running
    {word : Word} {opened : Prop} {phase : WordPhase}
    (holds : Holds word threadId opened phase) (some : word.threadId ≠ 0) :
    word.threadId = threadId ∧
      (phase = .falling ∨ phase = .landing ∨ phase = .exited) := by
  cases phase with
  | falling => exact ⟨holds.1, .inl rfl⟩
  | landing => exact ⟨holds.1, .inr (.inl rfl)⟩
  | exited => exact ⟨holds.1, .inr (.inr rfl)⟩
  | joined => exact absurd holds.1 some

private theorem Holds.threadId_of_active
    {word : Word} {opened : Prop} {phase : WordPhase}
    (holds : Holds word threadId opened phase) (shown : word.active = true) :
    word.threadId = threadId := by
  cases phase with
  | falling => exact holds.1
  | landing => cases shown.symm.trans holds.2.2
  | exited => cases shown.symm.trans holds.2.1
  | joined => cases shown.symm.trans holds.2

private theorem setOwner
    (owned : round.Owned) {word : Word} {phase : WordPhase} {main : MainPhase}
    (issued : threadId ≠ 0 ∧ threadId < round.nextThreadId)
    (alone : ∀ other, (round.words other).threadId = threadId → other = slot)
    (only : ∀ other, round.Uses other slot → other = threadId)
    (after : main = round.phase ∨
      main = .playing ∧ round.phase = .filled slot)
    (busy : main ≠ .choosing slot ∧ main ≠ .filled slot)
    (holds : Holds word threadId (main ≠ .closing) phase) :
    (((round.setWord slot word).setThread threadId
      ⟨slot, phase⟩).goto main).Owned := by
  have opened : main ≠ .closing → round.phase ≠ .closing := by
    rcases after with rfl | ⟨_, filled⟩
    · exact id
    · intro _ closing
      cases filled.symm.trans closing
  have elsewhere : ∀ other, other ≠ slot →
      Function.update round.threads threadId (some ⟨slot, phase⟩)
        (round.words other).threadId =
          round.threads (round.words other).threadId := by
    intro other here
    have different : (round.words other).threadId ≠ threadId :=
      fun same => here (alone other same)
    exact Function.update_of_ne different _ _
  have apart : ∀ other place, other ≠ threadId → round.Uses other place →
      round.words.set slot word place = round.words place := by
    intro other place different uses
    have here : place ≠ slot := by
      rintro rfl
      exact different (only other uses)
    exact Words.set_of_ne _ word here
  constructor <;> simp only [Round.setWord, Round.setThread, Round.goto]
  case positive => exact owned.positive
  case issued =>
      intro other thread taken
      by_cases here : other = threadId
      · exact here ▸ issued
      · rw [Function.update_of_ne here] at taken
        exact owned.issued other thread taken
  case owner =>
      intro other some
      by_cases here : other = slot
      · subst here
        rw [Words.set_same] at some ⊢
        obtain ⟨mine, running⟩ := holds.running some
        rw [mine, Function.update_self]
        exact ⟨_, rfl, running⟩
      · rw [Words.set_of_ne _ _ here] at some ⊢
        rw [elsewhere other here]
        exact owned.owner other some
  case falling =>
      intro other place falling
      by_cases here : other = threadId
      · subst here
        rw [Function.update_self] at falling
        cases falling
        rw [Words.set_same]
        exact holds
      · rw [Function.update_of_ne here] at falling
        rw [apart other place here (.inl falling)]
        obtain ⟨sameThread, unmarked⟩ := owned.falling other place falling
        exact ⟨sameThread, fun open' => unmarked (opened open')⟩
  case landing =>
      intro other place landing
      by_cases here : other = threadId
      · subst here
        rw [Function.update_self] at landing
        cases landing
        rw [Words.set_same]
        exact holds
      · rw [Function.update_of_ne here] at landing
        rw [apart other place here (.inr landing)]
        obtain ⟨sameThread, unmarked, gone⟩ :=
          owned.landing other place landing
        exact ⟨sameThread, fun open' => unmarked (opened open'), gone⟩
  case exited =>
      intro other exited
      by_cases here : other = slot
      · subst here
        rw [Words.set_same] at exited ⊢
        have some : word.threadId ≠ 0 := by
          intro none
          rw [none, Function.update_of_ne issued.1.symm] at exited
          exact (owned.issued 0 _ exited).1 rfl
        rw [(holds.running some).1, Function.update_self] at exited
        cases exited
        exact holds.2
      · rw [Words.set_of_ne _ _ here] at exited ⊢
        rw [elsewhere other here] at exited
        exact owned.exited other exited
  case active =>
      intro other shown
      by_cases here : other = slot
      · subst here
        right
        rw [Words.set_same] at shown ⊢
        exact holds.threadId_of_active shown ▸ issued.1
      · rw [Words.set_of_ne _ _ here] at shown ⊢
        rcases owned.active other shown with filled | some
        · rcases after with rfl | ⟨_, filled'⟩
          · exact .inl filled
          · cases filled.symm.trans filled'
            exact absurd rfl here
        · exact .inr some
  case choosing =>
      intro other chosen
      have here : other ≠ slot := by
        rintro rfl
        exact busy.1 chosen
      rw [Words.set_of_ne _ _ here]
      rcases after with rfl | ⟨rfl, _⟩
      · exact owned.choosing other chosen
      · cases chosen
  case filled =>
      intro other chosen
      have here : other ≠ slot := by
        rintro rfl
        exact busy.2 chosen
      rw [Words.set_of_ne _ _ here]
      rcases after with rfl | ⟨rfl, _⟩
      · exact owned.filled other chosen
      · cases chosen

private theorem setPhase
    (owned : round.Owned) {word : Word} {before phase : WordPhase}
    (there : round.threads threadId = some ⟨slot, before⟩)
    (mine : (round.words slot).threadId = threadId)
    (holds : Holds word threadId (round.phase ≠ .closing) phase) :
    ((round.setWord slot word).setThread threadId ⟨slot, phase⟩).Owned := by
  have issued := owned.issued threadId _ there
  have some : (round.words slot).threadId ≠ 0 := mine ▸ issued.1
  refine owned.setOwner issued ?_ ?_ (.inl rfl) ⟨?_, ?_⟩ holds
  · intro other same
    exact owned.slot_unique some (same.trans mine.symm)
  · intro other uses
    exact (owned.threadId_of_uses uses).symm.trans mine
  · intro choosing
    exact some (owned.choosing slot choosing).1
  · intro filled
    exact some (owned.filled slot filled).1

private theorem startThread
    (owned : round.Owned) (filled : round.phase = .filled slot)
    (spawned : List SpawnedWord) :
    Owned
      { ((round.setWord slot
          ((round.words slot).start round.nextThreadId)).setThread
            round.nextThreadId ⟨slot, .falling⟩).goto .playing with
        nextThreadId := round.nextThreadId + 1
        spawned := spawned } := by
  obtain ⟨free, unmarked⟩ := owned.filled slot filled
  let counted : Round :=
    { round with
      nextThreadId := round.nextThreadId + 1
      spawned := spawned }
  have countedOwned : counted.Owned :=
    { owned with
      positive := Nat.succ_pos _
      issued := fun threadId thread taken =>
        ⟨(owned.issued threadId thread taken).1,
          Nat.lt_succ_of_lt (owned.issued threadId thread taken).2⟩ }
  have issued : round.nextThreadId ≠ 0 ∧
      round.nextThreadId < counted.nextThreadId :=
    ⟨Nat.ne_of_gt owned.positive, Nat.lt_succ_self _⟩
  refine countedOwned.setOwner issued ?_ ?_ (.inr ⟨rfl, filled⟩)
    ⟨nofun, nofun⟩ ⟨rfl, fun _ => unmarked⟩
  · intro other fresh
    have some : (round.words other).threadId ≠ 0 := by
      rw [show (round.words other).threadId = round.nextThreadId from fresh]
      exact issued.1
    obtain ⟨_, taken, _⟩ := owned.owner other some
    have bound := (owned.issued _ _ taken).2
    rw [show (round.words other).threadId = round.nextThreadId from fresh]
      at bound
    exact absurd bound (Nat.lt_irrefl _)
  · intro other uses
    exact absurd uses (owned.unused_of_threadId free other)

private theorem setThread
    (owned : round.Owned) {phase : WordPhase}
    (uses : round.Uses threadId slot)
    (inactive : (round.words slot).active = false)
    (after : phase = .falling ∨ phase = .landing) :
    (round.setThread threadId ⟨slot, phase⟩).Owned := by
  have mine := owned.threadId_of_uses uses
  have unmarked := owned.unmarked_of_uses uses
  have holds : Holds (round.words slot) threadId (round.phase ≠ .closing)
      phase := by
    rcases after with rfl | rfl
    · exact ⟨mine, unmarked⟩
    · exact ⟨mine, unmarked, inactive⟩
  have unchanged : round.setWord slot (round.words slot) = round := by
    rw [Round.setWord, Words.set, Function.update_eq_self]
  rcases uses with there | there
  · exact unchanged ▸ owned.setPhase there mine holds
  · exact unchanged ▸ owned.setPhase there mine holds

private theorem leave
    (owned : round.Owned)
    (falling : round.threads threadId = some ⟨slot, .falling⟩) :
    ((round.setWord slot (round.words slot).leave).setThread threadId
      ⟨slot, .exited⟩).Owned := by
  have mine := (owned.falling threadId slot falling).1
  exact owned.setPhase falling mine ⟨mine, rfl, rfl⟩

private theorem collect
    (owned : round.Owned)
    (gone : round.threads (round.words slot).threadId =
      some ⟨other, .exited⟩) :
    ((round.setWord slot (round.words slot).collect).setThread
      (round.words slot).threadId ⟨other, .joined⟩).Owned := by
  have some := (owned.issued _ _ gone).1
  obtain ⟨phase, there, _⟩ := owned.owner slot some
  cases gone.symm.trans there
  exact owned.setPhase there rfl ⟨rfl, rfl⟩

private theorem close
    (owned : round.Owned) (playing : round.phase = .playing) :
    ({ round with
      words := fun slot => (round.words slot).requestRemoval }.goto
        .closing).Owned := by
  constructor <;>
    simp only [Round.goto, requestRemoval_threadId, requestRemoval_active]
  case positive => exact owned.positive
  case issued => exact owned.issued
  case owner => exact owned.owner
  case falling =>
      intro threadId slot falling
      obtain ⟨sameThread, _⟩ := owned.falling threadId slot falling
      exact ⟨sameThread, fun opened => absurd rfl opened⟩
  case landing =>
      intro threadId slot landing
      obtain ⟨sameThread, _, gone⟩ := owned.landing threadId slot landing
      exact ⟨sameThread, fun opened => absurd rfl opened, gone⟩
  case exited =>
      intro slot exited
      obtain ⟨gone, marked⟩ := owned.exited slot exited
      exact ⟨gone, requestRemoval_toRemove marked⟩
  case active =>
      intro slot shown
      have unfilled : round.phase ≠ .filled slot := by
        simp [playing]
      exact .inr ((owned.active slot shown).resolve_left unfilled)
  case choosing => exact nofun
  case filled => exact nofun

private theorem typeWord
    (owned : round.Owned) (playing : round.phase = .playing) :
    (((round.settle slot .typed).setWord slot
      (round.words slot).deactivate).goto
        (.typed slot (round.words slot).wtype)).Owned := by
  have settled : (round.settle slot .typed).Owned :=
    owned.account _ _ _ _ _
  have set : ((round.settle slot .typed).setWord slot
      (round.words slot).deactivate).Owned :=
    settled.setWord rfl rfl nofun
  apply set.goto
  · intro slot filled
    rw [show round.phase = .filled slot from filled] at playing
    cases playing
  · intro closing
    rw [show round.phase = .closing from closing] at playing
    cases playing
  · exact .inr ⟨_, _, rfl⟩

private theorem drop
    (owned : round.Owned) (areaHeight : Nat) :
    (round.setWord slot ((round.words slot).drop areaHeight)).Owned :=
  owned.setWord (drop_threadId _ _) (drop_toRemove _ _) active_of_drop

private theorem land
    (owned : round.Owned)
    (landing : round.threads threadId = some ⟨slot, .landing⟩) :
    ((round.land slot).setThread threadId ⟨slot, .falling⟩).Owned := by
  have inactive := (owned.landing threadId slot landing).2.2
  unfold Round.land
  split
  · have landed : (round.settle slot (.landed round.isOver)).Owned :=
      owned.account _ _ _ _ _
    exact landed.setThread (.inr landing) inactive (.inl rfl)
  · rename_i continues
    exact (owned.account _ _ _ _ _).setThread (.inr landing) inactive (.inl rfl)

theorem event (owned : round.Owned) (event : Event round next) :
    next.Owned := by
  cases event with
  | endGame => exact owned.account _ _ _ _ _
  | typeWord slot playing active => exact owned.typeWord playing
  | scoreWord slot wtype typed =>
      have scored : ({ round with
          score := round.score + .ofNat round.pending
          isOver := round.isOver || wtype = .kill } : Round).Owned :=
        owned.account _ _ _ _ _
      refine scored.goto ?_ ?_ (.inl rfl)
      · simp [typed]
      · simp [typed]
  | chooseSlot slot playing free => exact owned.chooseSlot playing free
  | fillSlot slot areaWidth pick rolls choosing =>
      exact owned.fillSlot choosing areaWidth pick rolls
  | startThread slot filled => exact owned.startThread filled _
  | startFails slot filled => exact owned.startFails filled
  | drop threadId slot areaHeight falling stays =>
      exact owned.drop areaHeight
  | reachGround threadId slot areaHeight falling active down =>
      have noted : (round.noteLanding slot).Owned :=
        owned.account _ _ _ _ _
      apply (noted.drop areaHeight).setThread (.inl falling) _ (.inr rfl)
      simpa [Round.setWord, noteLanding] using down
  | land threadId slot landing => exact owned.land landing
  | leave threadId slot falling => exact owned.leave falling
  | collect slot other calm exited => exact owned.collect exited
  | close playing => exact owned.close playing

end Owned

end Round

end RainTyping
