import RainTyping.Client.SlotOwner

/-!
# The accounts of a round

A word on the screen is one of the spawned words and is not settled, so it is
settled at most once.  A word that has reached the ground is settled as soon as
its thread is done with the landing.  The score is what the typed words are
worth, less the points that are still on their way, and the lives are what the
landed words have left of them.
-/

namespace RainTyping

namespace Round

def settledIds (round : Round) : List Nat :=
  round.settled.map fun settlement => settlement.word.threadId

/-- The word of a slot is falling, or has landed and not yet cost a life. -/
def OnScreen (round : Round) (slot : Fin maxWords) : Prop :=
  (round.words slot).active = true ∧ round.phase ≠ .filled slot ∨
    round.threads (round.words slot).threadId = some ⟨slot, .landing⟩

structure SettledOnce (round : Round) : Prop where
  issued : ∀ word ∈ round.spawned, word.threadId < round.nextThreadId
  spawnedOnce : (round.spawned.map SpawnedWord.threadId).Nodup
  spawned : ∀ settlement ∈ round.settled, settlement.word ∈ round.spawned
  once : round.settledIds.Nodup
  onScreen : ∀ slot, round.OnScreen slot →
    (round.words slot).spawned ∈ round.spawned ∧
      (round.words slot).threadId ∉ round.settledIds

/-- The thread of the word has not finished the landing. -/
def Landing (round : Round) (word : SpawnedWord) : Prop :=
  ∃ slot, round.threads word.threadId = some ⟨slot, .landing⟩ ∧
    (round.words slot).spawned = word

structure LandingsSettled (round : Round) : Prop where
  once : round.landed.Nodup
  settled : ∀ word, word ∈ round.landed ↔
    (∃ gameOver, ⟨word, .landed gameOver⟩ ∈ round.settled) ∨
      round.Landing word

structure Balanced (round : Round) : Prop where
  score : round.score + .ofNat round.pending =
    .ofNat (typedPoints round.settled)
  lives : round.lives = initialLives - lostLives round.settled
  nonneg : 0 ≤ round.lives
  gameOver : round.lives = 0 → round.isOver = true

variable {round next : Round} {slot : Fin maxWords} {threadId : Nat}

theorem Owned.issued_of_onScreen
    (owned : round.Owned) (onScreen : round.OnScreen slot) :
    (round.words slot).threadId ≠ 0 := by
  rcases onScreen with ⟨active, started⟩ | landing
  · exact (owned.active slot active).resolve_left started
  · exact (owned.issued _ _ landing).1

/-! ## Settling -/

namespace SettledOnce

theorem frame
    (settledOnce : round.SettledOnce)
    (sameSpawned : next.spawned = round.spawned)
    (sameSettled : next.settled = round.settled)
    (sameNext : next.nextThreadId = round.nextThreadId)
    (screen : ∀ slot, next.OnScreen slot →
      round.OnScreen slot ∧
        (next.words slot).spawned = (round.words slot).spawned) :
    next.SettledOnce := by
  have sameIds : next.settledIds = round.settledIds := by
    rw [settledIds, sameSettled, settledIds]
  constructor
  case issued => rw [sameSpawned, sameNext]; exact settledOnce.issued
  case spawnedOnce => rw [sameSpawned]; exact settledOnce.spawnedOnce
  case spawned => rw [sameSettled, sameSpawned]; exact settledOnce.spawned
  case once => rw [sameIds]; exact settledOnce.once
  case onScreen =>
      intro slot shown
      obtain ⟨before, sameWord⟩ := screen slot shown
      have sameThread := congrArg SpawnedWord.threadId sameWord
      rw [sameSpawned, sameIds, sameWord,
        show (next.words slot).threadId = (round.words slot).threadId from
          sameThread]
      exact settledOnce.onScreen slot before

theorem settle
    (owned : round.Owned) (settledOnce : round.SettledOnce)
    (outcome : Outcome) (shown : round.OnScreen slot)
    (sameSpawned : next.spawned = round.spawned)
    (settled : next.settled =
      round.settled ++ [⟨(round.words slot).spawned, outcome⟩])
    (sameNext : next.nextThreadId = round.nextThreadId)
    (screen : ∀ other, next.OnScreen other →
      other ≠ slot ∧ round.OnScreen other ∧
        (next.words other).spawned = (round.words other).spawned) :
    next.SettledOnce := by
  obtain ⟨wasSpawned, unsettled⟩ := settledOnce.onScreen slot shown
  have ids : next.settledIds =
      round.settledIds ++ [(round.words slot).threadId] := by
    simp [settledIds, settled, Word.spawned]
  constructor
  case issued => rw [sameSpawned, sameNext]; exact settledOnce.issued
  case spawnedOnce => rw [sameSpawned]; exact settledOnce.spawnedOnce
  case spawned =>
      rw [settled, sameSpawned]
      intro settlement member
      rcases List.mem_append.mp member with earlier | last
      · exact settledOnce.spawned settlement earlier
      · rw [List.mem_singleton.mp last]
        exact wasSpawned
  case once =>
      rw [ids]
      exact settledOnce.once.append (List.nodup_singleton _)
        (List.disjoint_singleton.mpr unsettled)
  case onScreen =>
      intro other otherShown
      obtain ⟨different, before, sameWord⟩ := screen other otherShown
      have sameThread : (next.words other).threadId =
          (round.words other).threadId :=
        congrArg SpawnedWord.threadId sameWord
      obtain ⟨otherSpawned, otherUnsettled⟩ :=
        settledOnce.onScreen other before
      have otherThread : (round.words other).threadId ≠
          (round.words slot).threadId := by
        intro same
        have issued := owned.issued_of_onScreen shown
        exact different (owned.slot_unique issued same)
      rw [sameSpawned, sameWord, sameThread, ids, List.mem_append,
        List.mem_singleton, not_or]
      exact ⟨otherSpawned, otherUnsettled, otherThread⟩

private theorem startThread
    (settledOnce : round.SettledOnce)
    (filled : round.phase = .filled slot) :
    SettledOnce
      { ((round.setWord slot
          ((round.words slot).start round.nextThreadId)).setThread
            round.nextThreadId ⟨slot, .falling⟩).goto .playing with
        nextThreadId := round.nextThreadId + 1
        spawned := round.spawned ++
          [((round.words slot).start round.nextThreadId).spawned] } := by
  have unspawned : round.nextThreadId ∉
      round.spawned.map SpawnedWord.threadId := by
    intro member
    obtain ⟨word, spawned, same⟩ := List.mem_map.mp member
    have issued := settledOnce.issued word spawned
    omega
  have unsettled : round.nextThreadId ∉ round.settledIds := by
    intro member
    obtain ⟨settlement, settled, same⟩ := List.mem_map.mp member
    have spawned := settledOnce.spawned settlement settled
    exact unspawned (same ▸ List.mem_map_of_mem spawned)
  constructor
  case issued =>
      intro word member
      rcases List.mem_append.mp member with earlier | last
      · exact (settledOnce.issued word earlier).trans (Nat.lt_succ_self _)
      · rw [List.mem_singleton.mp last]
        exact Nat.lt_succ_self _
  case spawnedOnce =>
      rw [List.map_append]
      exact settledOnce.spawnedOnce.append (List.nodup_singleton _)
        (List.disjoint_singleton.mpr unspawned)
  case spawned =>
      intro settlement settled
      exact List.mem_append_left _ (settledOnce.spawned settlement settled)
  case once => exact settledOnce.once
  case onScreen =>
      intro other shown
      simp only [Round.setWord, Round.setThread, Round.goto]
      by_cases same : other = slot
      · subst same
        rw [Words.set_same]
        exact ⟨List.mem_append_right _ (List.mem_singleton_self _), unsettled⟩
      · have before : round.OnScreen other := by
          simp only [OnScreen, Round.setWord, Round.setThread, Round.goto,
            Words.set_of_ne _ _ same] at shown ⊢
          grind
        obtain ⟨spawned, kept⟩ := settledOnce.onScreen other before
        rw [Words.set_of_ne _ _ same]
        exact ⟨List.mem_append_left _ spawned, kept⟩

private theorem land
    (owned : round.Owned) (settledOnce : round.SettledOnce)
    (landing : round.threads threadId = some ⟨slot, .landing⟩) :
    ((round.land slot).setThread threadId ⟨slot, .falling⟩).SettledOnce := by
  obtain ⟨sameThread, _, inactive⟩ := owned.landing threadId slot landing
  have shown : round.OnScreen slot := .inr (sameThread ▸ landing)
  apply settledOnce.settle owned (.landed round.isOver) shown
  · simp [Round.setThread]
  · simp [Round.setThread]
  · simp [Round.setThread]
  · intro other otherShown
    simp only [OnScreen, Round.setThread, land_words, land_threads,
      land_phase] at otherShown ⊢
    grind

theorem event
    (owned : round.Owned) (settledOnce : round.SettledOnce)
    (event : Event round next) : next.SettledOnce := by
  cases event with
  | endGame =>
      exact settledOnce.frame rfl rfl rfl fun _ shown => ⟨shown, rfl⟩
  | typeWord slot playing active =>
      have shown : round.OnScreen slot := .inl ⟨active, by simp [playing]⟩
      refine settledOnce.settle owned .typed shown rfl rfl rfl ?_
      intro other otherShown
      have landing := owned.landing
      simp only [OnScreen, Round.setWord, Round.settle, Round.goto,
        Words.set_apply, Word.deactivate] at otherShown ⊢
      grind
  | scoreWord slot wtype typed =>
      refine settledOnce.frame rfl rfl rfl ?_
      intro other shown
      simp only [OnScreen, Round.goto] at shown ⊢
      grind
  | chooseSlot slot playing free =>
      have inactive := (owned.unused_of_free playing free).2
      have issued := owned.issued
      refine settledOnce.frame rfl rfl rfl ?_
      intro other shown
      simp only [OnScreen, Round.setWord, Round.goto, Words.set_apply,
        release_threadId free] at shown ⊢
      grind
  | fillSlot slot areaWidth pick rolls choosing =>
      have empty := owned.choosing slot choosing
      have issued := owned.issued
      refine settledOnce.frame rfl rfl rfl ?_
      intro other shown
      simp only [OnScreen, Round.setWord, Round.goto, Words.set_apply,
        Word.fill] at shown ⊢
      grind
  | startThread slot filled => exact settledOnce.startThread filled
  | startFails slot filled =>
      have empty := owned.filled slot filled
      have issued := owned.issued
      refine settledOnce.frame rfl rfl rfl ?_
      intro other shown
      simp only [OnScreen, Round.setWord, Round.goto, Words.set_apply,
        Word.unspawn] at shown ⊢
      grind
  | drop threadId slot areaHeight falling stays =>
      refine settledOnce.frame rfl rfl rfl ?_
      intro other shown
      simp only [OnScreen, Round.setWord, Words.set_apply] at shown ⊢
      grind [drop_threadId, drop_spawned]
  | reachGround threadId slot areaHeight falling active down =>
      have sameThread := (owned.falling _ _ falling).1
      have issued := owned.issued
      have filled := owned.filled
      refine settledOnce.frame rfl rfl rfl ?_
      intro other shown
      simp only [OnScreen, noteLanding, Round.setWord, Round.setThread,
        Words.set_apply] at shown ⊢
      grind [drop_threadId, drop_spawned]
  | land threadId slot landing => exact settledOnce.land owned landing
  | leave threadId slot falling =>
      have sameThread := (owned.falling _ _ falling).1
      refine settledOnce.frame rfl rfl rfl ?_
      intro other shown
      simp only [OnScreen, Round.setWord, Round.setThread, Words.set_apply,
        Word.leave] at shown ⊢
      grind
  | collect slot other calm exited =>
      have issued := owned.issued
      refine settledOnce.frame rfl rfl rfl ?_
      intro other shown
      simp only [OnScreen, Round.setWord, Round.setThread, Words.set_apply,
        Word.collect] at shown ⊢
      grind
  | close playing =>
      refine settledOnce.frame rfl rfl rfl ?_
      intro other shown
      simp only [OnScreen, Round.goto, Word.requestRemoval] at shown ⊢
      grind [Word.spawned]

end SettledOnce

/-! ## Landings -/

namespace LandingsSettled

theorem frame
    (landings : round.LandingsSettled)
    (sameLanded : next.landed = round.landed)
    (sameSettled : ∀ word gameOver,
      ⟨word, .landed gameOver⟩ ∈ next.settled ↔
        ⟨word, .landed gameOver⟩ ∈ round.settled)
    (sameThreads : ∀ threadId slot,
      next.threads threadId = some ⟨slot, .landing⟩ ↔
        round.threads threadId = some ⟨slot, .landing⟩)
    (sameWord : ∀ threadId slot,
      round.threads threadId = some ⟨slot, .landing⟩ →
        (next.words slot).spawned = (round.words slot).spawned) :
    next.LandingsSettled := by
  have sameLanding : ∀ word, next.Landing word ↔ round.Landing word := by
    intro word
    apply exists_congr
    intro slot
    rw [sameThreads]
    apply and_congr_right
    intro landing
    rw [sameWord _ _ landing]
  constructor
  case once => rw [sameLanded]; exact landings.once
  case settled =>
      intro word
      simp only [sameLanded, sameSettled, sameLanding]
      exact landings.settled word

/-- The slots of the landing words keep them if one other slot is set. -/
private theorem kept_setWord
    {word : Word} {threadId : Nat}
    (kept : ∀ threadId, round.threads threadId = some ⟨slot, .landing⟩ →
      word.spawned = (round.words slot).spawned)
    (other : Fin maxWords)
    (landing : round.threads threadId = some ⟨other, .landing⟩) :
    (round.words.set slot word other).spawned =
      (round.words other).spawned := by
  rw [Words.set_apply]
  split
  · rename_i same
    subst same
    exact kept threadId landing
  · rfl

/-- The landing words stay when a thread is set that is none of them. -/
private theorem same_setThread
    {changed : Nat} {thread : RoundThread} (after : thread.phase ≠ .landing)
    (before : ∀ slot, round.threads changed ≠ some ⟨slot, .landing⟩)
    (threadId : Nat) (slot : Fin maxWords) :
    (round.setThread changed thread).threads threadId =
        some ⟨slot, .landing⟩ ↔
      round.threads threadId = some ⟨slot, .landing⟩ := by
  simp only [Round.setThread, Function.update_apply]
  split
  · rename_i same
    subst same
    constructor
    · intro landing
      cases landing
      exact absurd rfl after
    · exact fun landing => absurd landing (before slot)
  · rfl

/-- The words that land behind the drop that takes one more to the ground. -/
private theorem landing_reachGround
    (owned : round.Owned)
    (falling : round.threads threadId = some ⟨slot, .falling⟩)
    (areaHeight : Nat) (word : SpawnedWord) :
    (((round.noteLanding slot).setWord slot
      ((round.words slot).drop areaHeight)).setThread threadId
        ⟨slot, .landing⟩).Landing word ↔
      round.Landing word ∨ word = (round.words slot).spawned := by
  have sameThread : (round.words slot).threadId = threadId :=
    (owned.falling _ _ falling).1
  have landing := owned.landing
  simp only [Landing, noteLanding, Round.setWord, Round.setThread,
    Function.update_apply, Words.set_apply]
  constructor
  · rintro ⟨other, landed, rfl⟩
    grind [drop_spawned]
  · rintro (⟨other, landed, rfl⟩ | rfl)
    · grind [drop_spawned]
    · refine ⟨slot, ?_, ?_⟩
      · exact if_pos sameThread
      · rw [if_pos rfl, drop_spawned]

private theorem reachGround
    (landings : round.LandingsSettled) (owned : round.Owned)
    (settledOnce : round.SettledOnce)
    (falling : round.threads threadId = some ⟨slot, .falling⟩)
    (active : (round.words slot).active = true) (areaHeight : Nat) :
    (((round.noteLanding slot).setWord slot
      ((round.words slot).drop areaHeight)).setThread threadId
        ⟨slot, .landing⟩).LandingsSettled := by
  have sameThread : (round.words slot).threadId = threadId :=
    (owned.falling _ _ falling).1
  have started : round.phase ≠ .filled slot := by
    intro filled
    have none := (owned.filled slot filled).1
    have issued := (owned.issued _ _ falling).1
    exact issued (sameThread.symm.trans none)
  have unsettled := (settledOnce.onScreen slot (.inl ⟨active, started⟩)).2
  have first : (round.words slot).spawned ∉ round.landed := by
    rw [landings.settled]
    rintro (⟨gameOver, settled⟩ | ⟨other, landing, _⟩)
    · exact unsettled (List.mem_map_of_mem settled)
    · have own : round.threads (round.words slot).threadId =
          some ⟨other, .landing⟩ :=
        landing
      rw [sameThread, falling] at own
      cases own
  constructor
  case once =>
      exact landings.once.append (List.nodup_singleton _)
        (List.disjoint_singleton.mpr first)
  case settled =>
      intro word
      rw [landing_reachGround owned falling]
      simp only [noteLanding, Round.setWord, Round.setThread, List.mem_append,
        List.mem_singleton, landings.settled word, or_assoc]

/-- The words that still land when one is done with it. -/
private theorem landing_land
    (owned : round.Owned)
    (landing : round.threads threadId = some ⟨slot, .landing⟩)
    (word : SpawnedWord) :
    ((round.land slot).setThread threadId ⟨slot, .falling⟩).Landing word ↔
      round.Landing word ∧ word ≠ (round.words slot).spawned := by
  have sameThread : (round.words slot).spawned.threadId = threadId :=
    (owned.landing threadId slot landing).1
  simp only [Landing, Round.setThread, land_words, land_threads,
    Function.update_apply]
  constructor
  · rintro ⟨other, held, rfl⟩
    split at held
    · cases held
    · rename_i different
      refine ⟨⟨other, held, rfl⟩, ?_⟩
      intro same
      exact different (same ▸ sameThread)
  · rintro ⟨⟨other, held, rfl⟩, different⟩
    refine ⟨other, ?_, rfl⟩
    rw [if_neg, held]
    intro same
    rw [same, landing] at held
    cases held
    exact different rfl

private theorem landed_land (word : SpawnedWord) :
    (∃ gameOver, ⟨word, .landed gameOver⟩ ∈
      ((round.land slot).setThread threadId ⟨slot, .falling⟩).settled) ↔
      (∃ gameOver, ⟨word, .landed gameOver⟩ ∈ round.settled) ∨
        word = (round.words slot).spawned := by
  simp only [Round.setThread, land_settled, List.mem_append,
    List.mem_singleton, Settlement.mk.injEq, Outcome.landed.injEq, exists_or]
  simp

private theorem land
    (landings : round.LandingsSettled) (owned : round.Owned)
    (landing : round.threads threadId = some ⟨slot, .landing⟩) :
    ((round.land slot).setThread threadId
      ⟨slot, .falling⟩).LandingsSettled := by
  have sameThread : (round.words slot).spawned.threadId = threadId :=
    (owned.landing threadId slot landing).1
  have wasLanding : round.Landing (round.words slot).spawned :=
    ⟨slot, sameThread ▸ landing, rfl⟩
  constructor
  case once => simpa [Round.setThread] using landings.once
  case settled =>
      intro word
      have before := landings.settled word
      rw [landing_land owned landing, landed_land]
      simp only [Round.setThread, land_landed]
      rw [before]
      by_cases same : word = (round.words slot).spawned
      · subst same
        simp [wasLanding]
      · simp [same]

theorem event
    (landings : round.LandingsSettled) (owned : round.Owned)
    (settledOnce : round.SettledOnce) (event : Event round next) :
    next.LandingsSettled := by
  cases event with
  | endGame => exact ⟨landings.once, landings.settled⟩
  | typeWord slot playing active =>
      refine landings.frame rfl ?_ (fun _ _ => Iff.rfl) ?_
      · simp [Round.goto, Round.setWord, Round.settle]
      · exact fun _ => kept_setWord fun _ _ => rfl
  | scoreWord slot wtype typed => exact ⟨landings.once, landings.settled⟩
  | chooseSlot slot playing free =>
      have unused := (owned.unused_of_free playing free).1
      refine landings.frame rfl (fun _ _ => Iff.rfl) (fun _ _ => Iff.rfl) ?_
      exact fun _ => kept_setWord fun threadId landing =>
        absurd (.inr landing) (unused threadId)
  | fillSlot slot areaWidth pick rolls choosing =>
      have unused :=
        owned.unused_of_threadId (owned.choosing slot choosing).1
      refine landings.frame rfl (fun _ _ => Iff.rfl) (fun _ _ => Iff.rfl) ?_
      exact fun _ => kept_setWord fun threadId landing =>
        absurd (.inr landing) (unused threadId)
  | startThread slot filled =>
      have unused :=
        owned.unused_of_threadId (owned.filled slot filled).1
      refine landings.frame rfl (fun _ _ => Iff.rfl) ?_ ?_
      · apply same_setThread (by simp)
        intro other landing
        exact absurd (owned.issued _ _ landing).2 (Nat.lt_irrefl _)
      · exact fun _ => kept_setWord fun threadId landing =>
          absurd (.inr landing) (unused threadId)
  | startFails slot filled =>
      have unused :=
        owned.unused_of_threadId (owned.filled slot filled).1
      refine landings.frame rfl (fun _ _ => Iff.rfl) (fun _ _ => Iff.rfl) ?_
      exact fun _ => kept_setWord fun threadId landing =>
        absurd (.inr landing) (unused threadId)
  | drop threadId slot areaHeight falling stays =>
      refine landings.frame rfl (fun _ _ => Iff.rfl) (fun _ _ => Iff.rfl) ?_
      exact fun _ => kept_setWord fun _ _ => drop_spawned _ _
  | reachGround threadId slot areaHeight falling active down =>
      exact landings.reachGround owned settledOnce falling active areaHeight
  | land threadId slot landing => exact landings.land owned landing
  | leave threadId slot falling =>
      refine landings.frame rfl (fun _ _ => Iff.rfl) ?_ ?_
      · apply same_setThread (by simp)
        simp [Round.setWord, falling]
      · exact fun _ => kept_setWord fun _ _ => rfl
  | collect slot other calm exited =>
      refine landings.frame rfl (fun _ _ => Iff.rfl) ?_ ?_
      · apply same_setThread (by simp)
        simp [Round.setWord, exited]
      · refine fun _ => kept_setWord fun threadId landing => ?_
        rw [(owned.landing threadId slot landing).1, landing] at exited
        cases exited
  | close playing =>
      refine landings.frame rfl (fun _ _ => Iff.rfl) (fun _ _ => Iff.rfl) ?_
      intro threadId slot landing
      simp only [Round.goto, Word.requestRemoval]
      split <;> rfl

end LandingsSettled

/-! ## Score and lives -/

theorem typedPoints_append
    (settled : List Settlement) (settlement : Settlement) :
    typedPoints (settled ++ [settlement]) =
      typedPoints settled + settlement.points := by
  simp [typedPoints]

theorem lostLives_append
    (settled : List Settlement) (settlement : Settlement) :
    lostLives (settled ++ [settlement]) =
      lostLives settled + if settlement.CostsLife then 1 else 0 := by
  simp [lostLives, List.countP_singleton]

/-- A word keeps its worth as long as it keeps its text. -/
private theorem pending_setWord
    {word : Word} (sameText : word.text = (round.words slot).text) :
    (round.setWord slot word).pending = round.pending := by
  unfold pending
  simp only [setWord]
  split
  · rename_i target wtype typed
    by_cases same : target = slot
    · subst same
      rw [Words.set_same, sameText]
    · rw [Words.set_of_ne _ _ same]
  · rfl

namespace Balanced

theorem frame
    (balanced : round.Balanced)
    (sameScore : next.score = round.score)
    (sameLives : next.lives = round.lives)
    (sameOver : next.isOver = round.isOver)
    (sameSettled : next.settled = round.settled)
    (samePending : next.pending = round.pending) : next.Balanced := by
  constructor
  case score =>
      rw [sameScore, samePending, sameSettled]
      exact balanced.score
  case lives =>
      rw [sameLives, sameSettled]
      exact balanced.lives
  case nonneg => rw [sameLives]; exact balanced.nonneg
  case gameOver => rw [sameLives, sameOver]; exact balanced.gameOver

private theorem typeWord
    (balanced : round.Balanced) (playing : round.phase = .playing) :
    (((round.settle slot .typed).setWord slot
      (round.words slot).deactivate).goto
        (.typed slot (round.words slot).wtype)).Balanced := by
  have nothing : round.pending = 0 := by
    rw [pending, playing]
  have scored : round.score = .ofNat (typedPoints round.settled) := by
    have score := balanced.score
    rw [nothing] at score
    exact (Int32.add_zero _).symm.trans score
  constructor
  case score =>
      simp only [pending, Round.goto, Round.setWord, Words.set_same,
        Word.deactivate, Round.settle, typedPoints_append, Settlement.points,
        Word.spawned, Int32.ofNat_add, scored]
  case lives =>
      simp only [Round.goto, Round.setWord, Round.settle, lostLives_append,
        Settlement.CostsLife]
      simpa using balanced.lives
  case nonneg => exact balanced.nonneg
  case gameOver => exact balanced.gameOver

private theorem scoreWord
    (balanced : round.Balanced) (wtype : WordType) :
    Balanced
      { round.goto .playing with
        score := round.score + .ofNat round.pending
        isOver := round.isOver || wtype = .kill } := by
  constructor
  case score =>
      simp only [pending, Round.goto]
      exact (Int32.add_zero _).trans balanced.score
  case lives => exact balanced.lives
  case nonneg => exact balanced.nonneg
  case gameOver =>
      intro noLives
      simp [balanced.gameOver noLives]

private theorem land
    (balanced : round.Balanced) :
    ((round.land slot).setThread threadId ⟨slot, .falling⟩).Balanced := by
  have samePending : ((round.land slot).setThread threadId
      ⟨slot, .falling⟩).pending = round.pending := by
    simp [pending, Round.setThread]
  constructor
  case score =>
      rw [samePending]
      simpa [Round.setThread, typedPoints_append, Settlement.points] using
        balanced.score
  case lives =>
      have lives := balanced.lives
      simp only [Round.setThread, land_settled, lostLives_append, land_lives]
      split
      · push_cast
        omega
      · simpa using lives
  case nonneg =>
      have nonneg := balanced.nonneg
      simp only [Round.setThread, land_lives]
      split
      · rename_i costs
        have continues : round.isOver = false := by
          simpa using (Outcome.landed.inj costs.1)
        have some : round.lives ≠ 0 := by
          intro none
          rw [balanced.gameOver none] at continues
          cases continues
        omega
      · simpa using nonneg
  case gameOver =>
      intro none
      have noLives : (round.land slot).lives = 0 := none
      simp [Round.setThread, land_isOver, noLives]

theorem event
    (balanced : round.Balanced) (event : Event round next) : next.Balanced := by
  cases event with
  | endGame =>
      exact ⟨balanced.score, balanced.lives, balanced.nonneg, fun _ => rfl⟩
  | typeWord slot playing active => exact balanced.typeWord playing
  | scoreWord slot wtype typed => exact balanced.scoreWord wtype
  | chooseSlot slot playing free =>
      exact balanced.frame rfl rfl rfl rfl (by simp [pending, goto, playing])
  | fillSlot slot areaWidth pick rolls choosing =>
      exact balanced.frame rfl rfl rfl rfl (by simp [pending, goto, choosing])
  | startThread slot filled =>
      exact balanced.frame rfl rfl rfl rfl (by simp [pending, goto, filled])
  | startFails slot filled =>
      exact balanced.frame rfl rfl rfl rfl (by simp [pending, goto, filled])
  | drop threadId slot areaHeight falling stays =>
      exact balanced.frame rfl rfl rfl rfl
        (pending_setWord (congrArg SpawnedWord.text (drop_spawned _ _)))
  | reachGround threadId slot areaHeight falling active down =>
      have samePending : (round.setWord slot
          ((round.words slot).drop areaHeight)).pending = round.pending :=
        pending_setWord (congrArg SpawnedWord.text (drop_spawned _ _))
      exact balanced.frame rfl rfl rfl rfl samePending
  | land threadId slot landing => exact balanced.land
  | leave threadId slot falling =>
      have samePending : (round.setWord slot
          (round.words slot).leave).pending = round.pending :=
        pending_setWord rfl
      exact balanced.frame rfl rfl rfl rfl samePending
  | collect slot other calm exited =>
      refine balanced.frame rfl rfl rfl rfl ?_
      rcases calm with playing | closing
      · simp [pending, setWord, setThread, playing]
      · simp [pending, setWord, setThread, closing]
  | close playing =>
      exact balanced.frame rfl rfl rfl rfl (by simp [pending, goto, playing])

end Balanced

end Round

end RainTyping
