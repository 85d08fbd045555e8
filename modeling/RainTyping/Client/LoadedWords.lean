import RainTyping.Client.ClientGames
import RainTyping.Network.ResponseLayout

/-!
# The words of a client

Whatever fails while words are loaded, the manager of a client has no words or
those of the response, and the client plays with these.
-/

namespace RainTyping

/-- The words as the client copies them. -/
def WordListResponse.strings (list : WordListResponse) : List CString :=
  list.words.map CharArray.toCString

/-- The struct holds this list. -/
structure HoldsWordList (memory : List UInt8) (list : WordListResponse) :
    Prop where
  sized : memory.length = sizeofWordListResponse
  read : readWordList memory = some list

/-! ## The struct -/

section Struct

variable {memory : List UInt8} {list : WordListResponse}

theorem readInt_eq_wordCount
    {value : Int32} (read : readInt memory = .ok value) :
    wordCount memory = value := by
  unfold readInt at read
  split at read
  · cases read
  · rename_i first second third fourth rest
    have nothing : ofLittleEndian [] = 0 :=
      rfl
    cases read
    simp only [wordCount, List.take_succ_cons, List.take_zero,
      ofLittleEndian_cons, nothing, Nat.mul_zero, Nat.add_zero]
  · cases read

namespace HoldsWordList

theorem elements (holds : HoldsWordList memory list) :
    (wordCount memory).toNatClampNeg = list.words.length ∧
      ∀ index word, list.words[index]? = some word →
        CharArray.read maxWordStrLen (memory.drop (wordOffset index)) =
          some word := by
  have read := holds.read
  simp only [readWordList, readCounted, Option.bind_eq_some_iff] at read
  obtain ⟨words, counted, fits⟩ := read
  split at counted
  · rename_i value valued
    split at counted
    · split at fits
      · cases fits
        obtain ⟨length, places⟩ := readElements_eq_some counted
        rw [readInt_eq_wordCount valued]
        refine ⟨length.symm, ?_⟩
        intro index word found
        have place := places index word found
        rw [List.drop_drop] at place
        exact place
      · cases fits
    · cases counted
  · cases counted

theorem strdupEntry_eq
    (holds : HoldsWordList memory list) (stray : Nat → CString)
    {index : Nat} {word : CharArray maxWordStrLen}
    (found : list.words[index]? = some word) :
    strdupEntry memory stray index = word.toCString := by
  have read := holds.elements.2 index word found
  obtain ⟨listed, _⟩ := List.getElem?_eq_some_iff.mp found
  have room : maxWordStrLen ≤ (memory.drop (wordOffset index)).length := by
    have fits := list.fits
    have sized := holds.sized
    rw [List.length_drop, sized, wordOffset]
    simp only [sizeofWordListResponse, sizeofInt, maxWordlistWords,
      maxWordStrLen] at *
    omega
  simp only [CharArray.read] at read
  split at read
  · rename_i short
    cases read
    have terminated :
        0 ∈ (memory.drop (wordOffset index)).take maxWordStrLen := by
      by_contra unterminated
      have whole : (CString.ofBuffer ((memory.drop (wordOffset index)).take
          maxWordStrLen)).bytes =
            (memory.drop (wordOffset index)).take maxWordStrLen := by
        apply List.takeWhile_eq_self_iff.mpr
        intro byte member
        rw [decide_eq_true_eq]
        rintro rfl
        exact unterminated member
      rw [whole, List.length_take, Nat.min_eq_left room] at short
      exact Nat.lt_irrefl _ short
    have inEntry := CString.ofBuffer_append terminated
      ((memory.drop (wordOffset index)).drop maxWordStrLen)
    rw [List.take_append_drop] at inEntry
    rw [strdupEntry, if_pos (List.mem_of_mem_take terminated)]
    exact inEntry
  · cases read

/-! ## The load -/

variable {manager : WordManager} {allocations : LoadAllocations}
  {stray : Nat → CString}

/-- A load fails and leaves no words, or takes over the whole list. -/
theorem load
    (holds : HoldsWordList memory list) (noWords : manager.words = []) :
    let loading := loadWordsFromServer manager allocations 0 memory stray
    loading.manager.words = [] ∧ loading.result = false ∨
      loading.manager.words = list.strings ∧ list.strings ≠ [] ∧
        loading.manager.isInitialized = true := by
  obtain ⟨counted, _⟩ := holds.elements
  by_cases reaches : allocations.ReachesEntries manager (wordCount memory)
  swap
  · obtain ⟨left, noneLeft, stops⟩ :=
      loadWordsFromServer_of_not_reaches reaches noWords stray
    rw [stops]
    exact .inl ⟨noneLeft, rfl⟩
  rw [loadWordsFromServer_of_reaches reaches, counted]
  by_cases all : ∀ index < list.words.length, allocations.strdup index = true
  · right
    have copied : copyWords (strdupEntry memory stray) allocations.strdup 0
        list.words.length =
          (some ((List.range' 0 list.words.length).map
            (strdupEntry memory stray)), List.range' 0 list.words.length) :=
      copyWords_of_all fun index _ listed => all index (by omega)
    have same : (List.range' 0 list.words.length).map
        (strdupEntry memory stray) = list.strings := by
      apply List.ext_getElem
      · simp [WordListResponse.strings]
      · intro index listed _
        have inside : index < list.words.length := by
          simpa using listed
        have entry := holds.strdupEntry_eq stray
          (List.getElem?_eq_getElem inside)
        simpa [WordListResponse.strings] using entry
    have positive : 0 < list.words.length := by
      rw [← counted]
      have above := Int32.lt_iff_toInt_lt.mp reaches.positive
      exact Int.lt_toNat.mpr above
    simp only [copied, Option.getD_some, same]
    refine ⟨trivial, ?_, trivial⟩
    rw [WordListResponse.strings, ne_eq, List.map_eq_nil_iff]
    exact List.ne_nil_of_length_pos positive
  · obtain ⟨index, listed, fails⟩ :
        ∃ index < list.words.length, allocations.strdup index = false := by
      simpa using all
    have none : (copyWords (strdupEntry memory stray) allocations.strdup 0
        list.words.length).1 = none :=
      copyWords_of_failed (Nat.zero_le index) (by rwa [Nat.zero_add]) fails
    left
    simp only [none, Option.getD_none, Option.isSome_none, and_self]

end HoldsWordList

end Struct

/-! ## The client -/

namespace Client

/-- The client has the words of this list, and plays with no others. -/
structure HasWords (list : WordListResponse) (client : Client) : Prop where
  loaded : client.wordManager.words = [] ∨
    client.wordManager.words = list.strings
  cleaned : client.wordManager.isInitialized = false →
    client.wordManager.words = []
  asking : client.point = .calling .sendWordlistRequest ∨
      client.point = .awaiting .sendWordlistRequest →
    client.wordManager.words = []
  playing : client.point = .playing → client.wordManager.words ≠ []
  played : ∀ played ∈ client.games,
    played.2.wordList = list.strings ∧ list.strings ≠ []

variable {sha256 : Sha256} {client next : Client} {action : ClientAction}
  {list : WordListResponse}

theorem words_cleanup (manager : WordManager) :
    (cleanupWordManager manager).words = [] ∨
      cleanupWordManager manager = manager := by
  unfold cleanupWordManager
  split
  · exact .inl rfl
  · exact .inr rfl

theorem HasWords.disconnect (hasWords : client.HasWords list) :
    client.disconnectFromServer.HasWords list := by
  obtain ⟨loaded, cleaned, asking, playing, played⟩ := hasWords
  have samePoint : client.disconnectFromServer.point = client.point := by
    unfold disconnectFromServer
    split
    · rfl
    · rfl
  have sameWords := @words_disconnect client
  constructor
  · rw [sameWords]
    exact loaded
  · rw [sameWords]
    exact cleaned
  · rw [samePoint, sameWords]
    exact asking
  · rw [samePoint, sameWords]
    exact playing
  · rw [games_disconnect]
    exact played

/-- A step to an idle point, with the words as they are or without any. -/
theorem HasWords.passes
    (hasWords : client.HasWords list) (passes : client.Passes next) :
    next.HasWords list := by
  obtain ⟨loaded, cleaned, asking, playing, played⟩ := hasWords
  obtain ⟨games, words, idle⟩ := passes
  have elsewhere : next.point ≠ .calling .sendWordlistRequest ∧
      next.point ≠ .awaiting .sendWordlistRequest ∧
        next.point ≠ .playing := by
    refine ⟨?_, ?_, ?_⟩
    · intro here
      rw [here] at idle
      exact idle.1 rfl
    · intro here
      rw [here] at idle
      exact idle rfl
    · intro here
      rw [here] at idle
      exact idle
  have kept : next.wordManager = client.wordManager ∨
      next.wordManager.words = [] := by
    rcases words with same | cleanedUp
    · exact .inl same
    · rcases words_cleanup client.wordManager with none | same
      · exact .inr (cleanedUp ▸ none)
      · exact .inl (cleanedUp.trans same)
  constructor
  case loaded =>
    rcases kept with same | none
    · rw [same]
      exact loaded
    · exact .inl none
  case cleaned =>
    rcases kept with same | none
    · rw [same]
      exact cleaned
    · exact fun _ => none
  case asking =>
    rintro (here | here)
    · exact absurd here elsewhere.1
    · exact absurd here elsewhere.2.1
  case playing => exact fun here => absurd here elsewhere.2.2
  case played =>
    rw [games]
    exact played

/-- What memory holds when `send_wordlist_request` has returned zero. -/
def Answers (list : WordListResponse) (client : Client) :
    ClientAction → Prop
  | .return (.returns 0 memory) _ =>
      client.point = .awaiting .sendWordlistRequest →
        HoldsWordList memory list
  | _ => True

theorem HasWords.notLoaded
    (hasWords : client.HasWords list) (load : LoadMemory) {code : Int}
    (response : List UInt8) (failed : code ≠ 0) :
    (client.afterLoad load code response).HasWords list := by
  have fails : loadWordsFromServer client.wordManager load.allocations code
      response load.stray = ⟨false, client.wordManager, []⟩ := by
    rw [loadWordsFromServer, if_pos (.inl failed)]
  obtain ⟨loaded, cleaned, asking, playing, played⟩ := hasWords
  simp only [afterLoad, fails]
  exact ⟨loaded, cleaned, by simp [goto], by simp [goto], played⟩

theorem HasWords.afterLoad
    (hasWords : client.HasWords list) (load : LoadMemory)
    {memory : List UInt8} (noWords : client.wordManager.words = [])
    (holds : HoldsWordList memory list) :
    (client.afterLoad load 0 memory).HasWords list := by
  rcases @HoldsWordList.load memory list client.wordManager load.allocations
      load.stray holds noWords with
    ⟨none, fails⟩ | ⟨words, some, initialized⟩
  · refine ⟨.inl none, fun _ => none, fun _ => none, ?_, hasWords.played⟩
    simp [Client.afterLoad, goto, fails]
  · refine ⟨.inr words, ?_, ?_, ?_, hasWords.played⟩
    · intro uninitialized
      simp only [Client.afterLoad, goto] at uninitialized
      rw [initialized] at uninitialized
      cases uninitialized
    · simp only [Client.afterLoad, goto]
      split <;> simp
    · intro _
      simp only [Client.afterLoad, goto]
      rw [words]
      exact some

/-- A client that has left its game and given up its words. -/
theorem hasWords_reportScore
    (finalScore : Int32) (noWords : client.wordManager.words = [])
    (played : ∀ played ∈ client.games,
      played.2.wordList = list.strings ∧ list.strings ≠ []) :
    (client.reportScore finalScore).HasWords list := by
  have emptied : (client.reportScore finalScore).wordManager.words = [] := by
    unfold reportScore unlessSigint
    split_ifs
    · rcases words_cleanup client.wordManager with none | same
      · exact none
      · simp only [performCleanupAndExit]
        rw [same]
        exact noWords
    · exact noWords
    · exact noWords
  refine ⟨.inl emptied, fun _ => emptied, fun _ => emptied, ?_, ?_⟩
  · unfold reportScore unlessSigint
    split_ifs <;> simp [performCleanupAndExit, goto]
  · rw [games_reportScore]
    exact played

theorem HasWords.plays
    {game : FinishedGame} (hasWords : client.HasWords list)
    (here : client.point = .playing) (plays : client.Plays game) :
    ((client.afterGame game).reportScore game.score).HasWords list := by
  obtain ⟨loaded, cleaned, asking, playing, played⟩ := hasWords
  have some := playing here
  have words := loaded.resolve_left some
  apply hasWords_reportScore
  · simp only [afterGame, record, leaveGame, cleanupWordManager]
    split
    · rfl
    · rename_i unset
      rw [Bool.not_eq_true] at unset
      exact cleaned unset
  · rw [games_afterGame]
    intro game member
    rcases List.mem_append.mp member with before | last
    · exact played game before
    · rw [List.mem_singleton.mp last]
      rw [plays.1, ← words]
      exact ⟨rfl, some⟩

theorem hasWords_of_step
    (hasWords : client.HasWords list) (answers : client.Answers list action)
    (stepped : step sha256 client action = some next) :
    next.HasWords list := by
  cases moves_of_step stepped with
  | passes action passes => exact hasWords.passes passes
  | sigint =>
      obtain ⟨loaded, cleaned, asking, playing, played⟩ := hasWords
      unfold handleSigint
      split
      · exact ⟨loaded, cleaned, asking, playing, played⟩
      · exact ⟨loaded, cleaned, asking, playing, played⟩
  | choose code =>
      obtain ⟨loaded, cleaned, asking, playing, played⟩ := hasWords
      unfold choose
      split
      · split
        · rename_i noWords
          have empty : client.wordManager.words = [] := by
            rcases noWords with unset | empty
            · exact cleaned unset
            · exact empty
          exact ⟨loaded, cleaned, fun _ => empty, by simp [goto], played⟩
        · rename_i hasSome
          rw [not_or] at hasSome
          exact ⟨loaded, cleaned, by simp [goto], fun _ => hasSome.2, played⟩
      · split_ifs <;>
          exact ⟨loaded, cleaned, by simp [goto], by simp [goto], played⟩
  | asksWords call load here =>
      have noWords := hasWords.asking (.inl here)
      unfold RequestCall.start
      split_ifs
      · exact hasWords.notLoaded load _ (by decide)
      · obtain ⟨loaded, cleaned, asking, playing, played⟩ := hasWords
        refine ⟨loaded, cleaned, fun _ => noWords, ?_, ?_⟩
        · simp [conclude, goto]
        · simpa [conclude, games, finishedGames, record, goto] using played
      · exact hasWords.notLoaded load _ (by decide)
  | loadsWords outcome load here ends =>
      have noWords := hasWords.asking (.inr here)
      cases outcome with
      | continues point => cases ends
      | returns code response =>
          by_cases success : code = 0
          · subst success
            exact hasWords.afterLoad load noWords (answers here)
          · exact hasWords.notLoaded load response success
      | disconnects code response =>
          exact hasWords.disconnect.notLoaded load response ends
  | plays game here plays => exact hasWords.plays here plays

end Client

end RainTyping
