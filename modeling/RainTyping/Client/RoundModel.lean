import Mathlib.Data.List.Nodup
import Mathlib.Logic.Relation
import RainTyping.Client.WordSlots

/-!
# A round of the game

The abstract model behind the game's threads: words get a slot and a thread,
are typed or land, and their slot is given up.  Every word is settled once, and
the score and the lives are what the settled words make of them.  Program
points and mutexes play no role here.
-/

namespace RainTyping

abbrev initialLives : Int := 5

/-- What the main thread has begun and not finished. -/
inductive MainPhase where
  | playing
  /-- A word is typed and not yet scored. -/
  | typed (slot : Fin maxWords) (wtype : WordType)
  /-- A slot is taken and still empty. -/
  | choosing (slot : Fin maxWords)
  /-- The slot shows its word and has no thread yet. -/
  | filled (slot : Fin maxWords)
  /-- All threads are asked to finish. -/
  | closing
  deriving DecidableEq

inductive WordPhase where
  | falling
  /-- The word has reached the ground and not yet cost a life. -/
  | landing
  | exited
  | joined
  deriving DecidableEq

structure RoundThread where
  slot : Fin maxWords
  phase : WordPhase
  deriving DecidableEq

/-- How a word leaves the screen: it is typed, or it lands and finds the game
over or not. -/
inductive Outcome where
  | typed
  | landed (gameOver : Bool)
  deriving DecidableEq

structure Settlement where
  word : SpawnedWord
  outcome : Outcome
  deriving DecidableEq

structure Round where
  words : Words
  threads : Nat → Option RoundThread
  nextThreadId : Nat
  phase : MainPhase
  score : Int32
  lives : Int
  isOver : Bool
  spawned : List SpawnedWord
  /-- The words that have reached the ground. -/
  landed : List SpawnedWord
  settled : List Settlement

/-- A typed word counts its length, a bonus word 50 more, and a kill word
nothing. -/
def pointsOf (text : CharArray maxWordLen) : WordType → Nat
  | .kill => 0
  | .bonus => 50 + text.strlen
  | .normal => text.strlen

def Settlement.points (settlement : Settlement) : Nat :=
  match settlement.outcome with
  | .typed => pointsOf settlement.word.text settlement.word.wtype
  | .landed _ => 0

def typedPoints (settled : List Settlement) : Nat :=
  (settled.map Settlement.points).sum

/-- A word that is no kill word has landed while the game was not over. -/
def Settlement.CostsLife (settlement : Settlement) : Prop :=
  settlement.outcome = .landed false ∧ settlement.word.wtype ≠ .kill

instance (settlement : Settlement) : Decidable settlement.CostsLife :=
  inferInstanceAs (Decidable (_ ∧ _))

def lostLives (settled : List Settlement) : Nat :=
  settled.countP fun settlement => settlement.CostsLife

/-- The points of a word that is typed and not yet scored. -/
def Round.pending (round : Round) : Nat :=
  match round.phase with
  | .typed slot wtype => pointsOf (round.words slot).text wtype
  | _ => 0

/-! ## Events -/

namespace Round

def settle (round : Round) (slot : Fin maxWords) (outcome : Outcome) : Round :=
  { round with
    settled := round.settled ++ [⟨(round.words slot).spawned, outcome⟩] }

def setWord (round : Round) (slot : Fin maxWords) (word : Word) : Round :=
  { round with words := round.words.set slot word }

def setThread (round : Round) (threadId : Nat) (thread : RoundThread) :
    Round :=
  { round with
    threads := Function.update round.threads threadId (some thread) }

def goto (round : Round) (phase : MainPhase) : Round :=
  { round with phase := phase }

def noteLanding (round : Round) (slot : Fin maxWords) : Round :=
  { round with landed := round.landed ++ [(round.words slot).spawned] }

/-- What a landing costs. -/
def land (round : Round) (slot : Fin maxWords) : Round :=
  let landed := round.settle slot (.landed round.isOver)
  if round.isOver then landed
  else
    let lives :=
      if (round.words slot).wtype = .kill then round.lives
      else round.lives - 1
    { landed with
      lives := lives
      isOver := lives ≤ 0 }

/-- One thing that happens in a round. -/
inductive Event (round : Round) : Round → Prop where
  | endGame : Event round { round with isOver := true }
  | typeWord (slot)
      (playing : round.phase = .playing)
      (active : (round.words slot).active = true) :
      Event round
        (((round.settle slot .typed).setWord slot
          (round.words slot).deactivate).goto
            (.typed slot (round.words slot).wtype))
  | scoreWord (slot wtype)
      (typed : round.phase = .typed slot wtype) :
      Event round
        { round.goto .playing with
          score := round.score + .ofNat round.pending
          isOver := round.isOver || wtype = .kill }
  | chooseSlot (slot)
      (playing : round.phase = .playing)
      (free : (round.words slot).threadId = 0 ∨
        (round.words slot).toRemove = true) :
      Event round
        ((round.setWord slot (round.words slot).release).goto
          (.choosing slot))
  | fillSlot (slot areaWidth pick rolls)
      (choosing : round.phase = .choosing slot) :
      Event round
        ((round.setWord slot
          ((round.words slot).fill areaWidth pick rolls)).goto (.filled slot))
  | startThread (slot)
      (filled : round.phase = .filled slot) :
      Event round
        { ((round.setWord slot
            ((round.words slot).start round.nextThreadId)).setThread
              round.nextThreadId ⟨slot, .falling⟩).goto .playing with
          nextThreadId := round.nextThreadId + 1
          spawned := round.spawned ++
            [((round.words slot).start round.nextThreadId).spawned] }
  | startFails (slot)
      (filled : round.phase = .filled slot) :
      Event round
        ((round.setWord slot (round.words slot).unspawn).goto .playing)
  | drop (threadId slot areaHeight)
      (falling : round.threads threadId = some ⟨slot, .falling⟩)
      (stays : ((round.words slot).drop areaHeight).active =
        (round.words slot).active) :
      Event round (round.setWord slot ((round.words slot).drop areaHeight))
  | reachGround (threadId slot areaHeight)
      (falling : round.threads threadId = some ⟨slot, .falling⟩)
      (active : (round.words slot).active = true)
      (down : ((round.words slot).drop areaHeight).active = false) :
      Event round
        (((round.noteLanding slot).setWord slot
          ((round.words slot).drop areaHeight)).setThread threadId
            ⟨slot, .landing⟩)
  | land (threadId slot)
      (landing : round.threads threadId = some ⟨slot, .landing⟩) :
      Event round ((round.land slot).setThread threadId ⟨slot, .falling⟩)
  | leave (threadId slot)
      (falling : round.threads threadId = some ⟨slot, .falling⟩) :
      Event round
        ((round.setWord slot (round.words slot).leave).setThread threadId
          ⟨slot, .exited⟩)
  | collect (slot other)
      (calm : round.phase = .playing ∨ round.phase = .closing)
      (exited : round.threads (round.words slot).threadId =
        some ⟨other, .exited⟩) :
      Event round
        ((round.setWord slot (round.words slot).collect).setThread
          (round.words slot).threadId ⟨other, .joined⟩)
  | close
      (playing : round.phase = .playing) :
      Event round
        ({ round with
          words := fun slot => (round.words slot).requestRemoval }.goto
            .closing)

theorem setThread_current
    {round : Round} {threadId : Nat} {thread : RoundThread}
    (current : round.threads threadId = some thread) :
    round.setThread threadId thread = round := by
  rw [setThread, ← current, Function.update_eq_self]

section Land

variable (round : Round) (slot : Fin maxWords)

@[simp] theorem land_words : (round.land slot).words = round.words := by
  unfold land
  split <;> rfl

@[simp] theorem land_threads : (round.land slot).threads = round.threads := by
  unfold land
  split <;> rfl

@[simp] theorem land_phase : (round.land slot).phase = round.phase := by
  unfold land
  split <;> rfl

@[simp] theorem land_nextThreadId :
    (round.land slot).nextThreadId = round.nextThreadId := by
  unfold land
  split <;> rfl

@[simp] theorem land_score : (round.land slot).score = round.score := by
  unfold land
  split <;> rfl

@[simp] theorem land_spawned : (round.land slot).spawned = round.spawned := by
  unfold land
  split <;> rfl

@[simp] theorem land_landed : (round.land slot).landed = round.landed := by
  unfold land
  split <;> rfl

@[simp] theorem land_settled :
    (round.land slot).settled =
      round.settled ++
        [⟨(round.words slot).spawned, .landed round.isOver⟩] := by
  unfold land
  split <;> rfl

theorem land_lives :
    (round.land slot).lives =
      round.lives -
        if Settlement.CostsLife
          ⟨(round.words slot).spawned, .landed round.isOver⟩ then 1 else 0 := by
  unfold land
  by_cases gameOver : round.isOver = true
  · simp [gameOver, settle, Settlement.CostsLife]
  · by_cases kill : (round.words slot).wtype = .kill
    · simp [gameOver, kill, Settlement.CostsLife, Word.spawned]
    · simp [gameOver, kill, Settlement.CostsLife, Word.spawned]

theorem land_isOver :
    (round.land slot).isOver =
      (round.isOver || (round.land slot).lives ≤ 0) := by
  unfold land
  by_cases gameOver : round.isOver = true
  · simp [gameOver, settle]
  · simp [gameOver]

end Land

/-- Some events in a row. -/
abbrev Events := Relation.ReflTransGen Event

theorem Events.preserve
    {invariant : Round → Prop}
    (preserved : ∀ round next, invariant round → Event round next →
      invariant next)
    {round next : Round} (events : Events round next)
    (initial : invariant round) : invariant next := by
  induction events with
  | refl => exact initial
  | tail _ event induction => exact preserved _ _ induction event

end Round

end RainTyping
