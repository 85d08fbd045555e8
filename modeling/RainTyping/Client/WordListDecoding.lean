import RainTyping.Client.ResponseFraming

/-!
# The word list of a client

`load_words_from_server` takes the count and the entries of a
`WordListResponse` as they are.  `strdup` reads an entry up to its first NUL
byte, wherever that is; behind the struct it may find any string.
-/

namespace RainTyping

/-- `g_word_manager`, with its words up to its count. -/
structure WordManager where
  words : List CString
  capacity : Int32
  isInitialized : Bool

/-- Which allocations of a load succeed. -/
structure LoadAllocations where
  wordPtrs : Bool
  /-- For a manager that is not initialized. -/
  firstInit : Bool
  init : Bool
  growth : Bool
  strdup : Nat → Bool

/-- A load, with the entries that `strdup` was called on. -/
structure Loading where
  result : Bool
  manager : WordManager
  read : List Nat

abbrev initialCapacity : Int32 := 100

def initWordManager (manager : WordManager) (allocated : Bool) :
    WordManager × Bool :=
  if manager.isInitialized then (manager, true)
  else if allocated then (⟨[], initialCapacity, true⟩, true)
  else ({ manager with capacity := initialCapacity }, false)

def cleanupWordManager (manager : WordManager) : WordManager :=
  if manager.isInitialized then ⟨[], 0, false⟩ else manager

/-- The copies of so many entries from an index on; all are freed again when
one `strdup` fails. -/
def copyWords (entry : Nat → CString) (strdup : Nat → Bool) :
    Nat → Nat → Option (List CString) × List Nat
  | _, 0 => (some [], [])
  | index, left + 1 =>
      if strdup index then
        let (words, read) := copyWords entry strdup (index + 1) left
        (words.map (entry index :: ·), index :: read)
      else (none, [index])

def loadWordsFromResponse (manager : WordManager)
    (allocations : LoadAllocations) (entry : Nat → CString)
    (count : Int32) : Loading :=
  let (manager, initialized) :=
    initWordManager manager allocations.firstInit
  if initialized then
    let (manager, initialized) :=
      initWordManager (cleanupWordManager manager) allocations.init
    if initialized then
      if count > manager.capacity ∧ allocations.growth = false then
        ⟨false, manager, []⟩
      else
        let capacity :=
          if count > manager.capacity then count + 10 else manager.capacity
        let (copied, read) :=
          copyWords entry allocations.strdup 0 count.toNatClampNeg
        ⟨copied.isSome,
          ⟨copied.getD [], capacity, manager.isInitialized⟩, read⟩
    else ⟨false, manager, []⟩
  else ⟨false, manager, []⟩

/-- Where an entry starts in a `WordListResponse`. -/
def wordOffset (index : Nat) : Nat :=
  sizeofInt + index * maxWordStrLen

/-- The string that `strdup` reads at an entry; behind the struct there may be
any string. -/
def strdupEntry (memory : List UInt8) (stray : Nat → CString)
    (index : Nat) : CString :=
  if 0 ∈ memory.drop (wordOffset index) then
    .ofBuffer (memory.drop (wordOffset index))
  else stray index

def wordCount (memory : List UInt8) : Int32 :=
  .ofNat (ofLittleEndian (memory.take sizeofInt))

/-- With the result of `send_wordlist_request`, and the struct behind it. -/
def loadWordsFromServer (manager : WordManager)
    (allocations : LoadAllocations) (code : Int) (memory : List UInt8)
    (stray : Nat → CString) : Loading :=
  if code ≠ 0 ∨ wordCount memory ≤ 0 then ⟨false, manager, []⟩
  else if allocations.wordPtrs then
    loadWordsFromResponse manager allocations (strdupEntry memory stray)
      (wordCount memory)
  else ⟨false, manager, []⟩

/-! ## What a load should do -/

/-- A response that was accepted, and what the struct held before. -/
structure AcceptedWordList where
  body : List UInt8
  garbage : List UInt8
  fits : body.length ≤ sizeofWordListResponse
  sized : garbage.length = sizeofWordListResponse

def AcceptedWordList.memory (response : AcceptedWordList) : List UInt8 :=
  overwrite response.garbage 0 response.body

/-- The entry lies inside the received body and is terminated in its bytes. -/
structure EntryInside (body : List UInt8) (index : Nat) : Prop where
  listed : index < maxWordlistWords
  received : wordOffset (index + 1) ≤ body.length
  terminated : 0 ∈ (body.drop (wordOffset index)).take maxWordStrLen

/-- The string of an entry that is terminated in its bytes. -/
def entryOf (body : List UInt8) (index : Nat) : CString :=
  .ofBuffer ((body.drop (wordOffset index)).take maxWordStrLen)

namespace Loading

/-- Only such entries are read. -/
def ReadsInside (loading : Loading) (body : List UInt8) : Prop :=
  ∀ index ∈ loading.read, EntryInside body index

/-- The load fails with no words, or the manager holds the entries read, all
of them inside the body. -/
def Decodes (loading : Loading) (body : List UInt8) : Prop :=
  loading.result = false ∧ loading.manager.words = [] ∨
    loading.result = true ∧ loading.ReadsInside body ∧
      loading.manager.words = loading.read.map (entryOf body) ∧
        (loading.manager.words.length : Int) ≤ loading.manager.capacity.toInt

end Loading

/-- The load gets to its entries. -/
structure LoadAllocations.ReachesEntries (allocations : LoadAllocations)
    (manager : WordManager) (count : Int32) : Prop where
  positive : 0 < count
  wordPtrs : allocations.wordPtrs = true
  firstInit : manager.isInitialized = true ∨ allocations.firstInit = true
  init : allocations.init = true
  growth : count ≤ initialCapacity ∨ allocations.growth = true

/-! ## The copies -/

section Copies

variable {entry : Nat → CString} {strdup : Nat → Bool}

theorem copyWords_of_all
    {index left : Nat}
    (all : ∀ copied, index ≤ copied → copied < index + left →
      strdup copied = true) :
    copyWords entry strdup index left =
      (some ((List.range' index left).map entry), List.range' index left) := by
  induction left generalizing index with
  | zero => rfl
  | succ left induction =>
      have here := all index (Nat.le_refl index) (by omega)
      have later : ∀ copied, index + 1 ≤ copied →
          copied < index + 1 + left → strdup copied = true :=
        fun copied lower upper => all copied (by omega) (by omega)
      simp only [copyWords, here, ↓reduceIte, induction later,
        List.range'_succ, Option.map_some, List.map_cons]

theorem copyWords_of_failed
    {index left failed : Nat} (lower : index ≤ failed)
    (upper : failed < index + left) (fails : strdup failed = false) :
    (copyWords entry strdup index left).1 = none := by
  induction left generalizing index with
  | zero => omega
  | succ left induction =>
      rw [copyWords]
      split
      · rename_i here
        have apart : index ≠ failed := by
          rintro rfl
          rw [fails] at here
          cases here
        have later : index + 1 ≤ failed := by
          omega
        simp only [induction later (by omega), Option.map_none]
      · rfl

/-- An entry is read if no `strdup` before it has failed. -/
theorem mem_copyWords_iff
    {index left read : Nat} :
    read ∈ (copyWords entry strdup index left).2 ↔
      index ≤ read ∧ read < index + left ∧
        ∀ copied, index ≤ copied → copied < read →
          strdup copied = true := by
  induction left generalizing index with
  | zero =>
      simp only [copyWords, List.not_mem_nil, false_iff]
      omega
  | succ left induction =>
      rw [copyWords]
      by_cases here : strdup index = true
      · rw [if_pos here]
        simp only [List.mem_cons, induction]
        constructor
        · rintro (rfl | ⟨lower, upper, before⟩)
          · exact ⟨Nat.le_refl _, by omega, fun copied lower upper =>
              absurd lower (Nat.not_le.mpr upper)⟩
          · refine ⟨by omega, by omega, ?_⟩
            intro copied behind earlier
            by_cases first : copied = index
            · rw [first]
              exact here
            · exact before copied (by omega) earlier
        · rintro ⟨lower, upper, before⟩
          by_cases first : read = index
          · exact .inl first
          · refine .inr ⟨by omega, by omega, ?_⟩
            intro copied behind earlier
            exact before copied (by omega) earlier
      · rw [if_neg here, List.mem_singleton]
        constructor
        · rintro rfl
          exact ⟨Nat.le_refl _, by omega, fun copied lower upper =>
            absurd lower (Nat.not_le.mpr upper)⟩
        · rintro ⟨lower, upper, before⟩
          by_contra later
          exact here (before index (Nat.le_refl index) (by omega))

end Copies

/-! ## The entries of an accepted response -/

theorem CString.ofBuffer_append
    {first : List UInt8} (terminated : 0 ∈ first) (rest : List UInt8) :
    ofBuffer (first ++ rest) = ofBuffer first := by
  apply CString.ext
  simp only [ofBuffer]
  have short : (first.takeWhile (· ≠ 0)).length ≠ first.length := by
    intro whole
    have noNul := List.takeWhile_eq_self_iff.mp
      ((List.takeWhile_prefix _).eq_of_length whole) 0 terminated
    simp at noNul
  rw [List.takeWhile_append, if_neg short]

namespace AcceptedWordList

variable (response : AcceptedWordList)

/-- Every word list request that returns zero has left such a response, the
body of a whole frame of the stream. -/
theorem exists_of_run
    {call : RequestCall} {connected : Bool} {stream memory : List UInt8}
    {transfers : List Transfer} {final : CallState}
    (wordlist : call.function = .sendWordlistRequest)
    (ran : (CallState.step call).run (.start call connected stream)
      transfers = some final)
    (returned : final.outcome = .returns 0 memory) :
    ∃ (response : AcceptedWordList) (header : MessageHeader),
      response.memory = memory ∧ header.type = msgTypeWordlistResp ∧
        response.body.length = header.length.toNat ∧
          stream = header.bytes ++
            (response.body ++ final.wires.toClient) := by
  obtain ⟨header, body, type, whole, fits, taken, stored⟩ :=
    CallState.accepted_of_run ran returned
  have sized := call.sized
  rw [wordlist] at type fits sized
  exact ⟨⟨body, call.response, fits, sized⟩, header, stored.symm, type,
    whole, taken⟩

theorem memory_eq :
    response.memory = response.body ++
      response.garbage.drop response.body.length := by
  simp [memory, overwrite]

/-- The string of an entry that is inside the body is read from there. -/
theorem strdupEntry_of_inside
    {index : Nat} (inside : EntryInside response.body index)
    (stray : Nat → CString) :
    strdupEntry response.memory stray index = entryOf response.body index := by
  have bound : wordOffset index ≤ response.body.length := by
    have received := inside.received
    rw [wordOffset, Nat.succ_mul] at received
    rw [wordOffset]
    omega
  have entry := (List.take_append_drop maxWordStrLen
    (response.body.drop (wordOffset index))).symm
  have terminated : 0 ∈ response.memory.drop (wordOffset index) := by
    rw [memory_eq, List.drop_append_of_le_length bound, entry,
      List.append_assoc]
    exact List.mem_append_left _ inside.terminated
  rw [strdupEntry, if_pos terminated, memory_eq,
    List.drop_append_of_le_length bound, entry, List.append_assoc,
    CString.ofBuffer_append inside.terminated, entryOf]

end AcceptedWordList

/-! ## What a load does -/

theorem initWordManager_succeeds_iff
    {manager : WordManager} {allocated : Bool} :
    (initWordManager manager allocated).2 = true ↔
      manager.isInitialized = true ∨ allocated = true := by
  rw [initWordManager]
  split
  · simp [*]
  · split
    · simp [*]
    · simp [*]

theorem isInitialized_initWordManager
    {manager : WordManager} {allocated : Bool}
    (succeeds : (initWordManager manager allocated).2 = true) :
    (initWordManager manager allocated).1.isInitialized = true := by
  rw [initWordManager] at succeeds ⊢
  split
  · assumption
  · rename_i unset
    rw [if_neg unset] at succeeds
    split
    · rfl
    · rename_i fails
      rw [if_neg fails] at succeeds
      cases succeeds

theorem words_initWordManager
    {manager : WordManager} (noWords : manager.words = [])
    (allocated : Bool) :
    (initWordManager manager allocated).1.words = [] := by
  rw [initWordManager]
  split
  · exact noWords
  · split
    · rfl
    · exact noWords

/-- The second `init_word_manager` starts from a clean manager. -/
theorem initWordManager_cleanup
    {manager : WordManager} (initialized : manager.isInitialized = true)
    (allocated : Bool) :
    initWordManager (cleanupWordManager manager) allocated =
      (⟨[], initialCapacity, allocated⟩, allocated) := by
  rw [cleanupWordManager, if_pos initialized]
  cases allocated <;> rfl

section Loads

variable {manager : WordManager} {allocations : LoadAllocations}
  {memory : List UInt8} {stray : Nat → CString}

theorem loadWordsFromServer_of_reaches
    (reaches : allocations.ReachesEntries manager (wordCount memory)) :
    loadWordsFromServer manager allocations 0 memory stray =
      let (copied, read) := copyWords (strdupEntry memory stray)
        allocations.strdup 0 (wordCount memory).toNatClampNeg
      ⟨copied.isSome, ⟨copied.getD [],
        if wordCount memory > initialCapacity then wordCount memory + 10
        else initialCapacity, true⟩, read⟩ := by
  obtain ⟨positive, wordPtrs, firstInit, init, growth⟩ := reaches
  have goesOn : ¬((0 : Int) ≠ 0 ∨ wordCount memory ≤ 0) := by
    simp [positive]
  have first := initWordManager_succeeds_iff.mpr firstInit
  have initialized := isInitialized_initWordManager first
  have grows : ¬(wordCount memory > initialCapacity ∧
      allocations.growth = false) := by
    rintro ⟨larger, fails⟩
    rcases growth with fits | succeeds
    · exact absurd larger (Int32.not_lt.mpr fits)
    · rw [succeeds] at fails
      cases fails
  simp only [loadWordsFromServer, if_neg goesOn, wordPtrs, ↓reduceIte,
    loadWordsFromResponse, first, initWordManager_cleanup initialized, init,
    if_neg grows]

theorem loadWordsFromServer_of_not_reaches
    (stops : ¬allocations.ReachesEntries manager (wordCount memory))
    (noWords : manager.words = []) (stray : Nat → CString) :
    ∃ left, left.words = [] ∧
      loadWordsFromServer manager allocations 0 memory stray =
        ⟨false, left, []⟩ := by
  rw [loadWordsFromServer]
  split
  · exact ⟨_, noWords, rfl⟩
  rename_i goesOn
  have positive : 0 < wordCount memory :=
    Int32.not_le.mp (not_or.mp goesOn).2
  split
  swap
  · exact ⟨_, noWords, rfl⟩
  rename_i wordPtrs
  simp only [loadWordsFromResponse]
  split
  swap
  · exact ⟨_, words_initWordManager noWords _, rfl⟩
  rename_i first
  rw [initWordManager_cleanup (isInitialized_initWordManager first)]
  dsimp only
  split
  swap
  · exact ⟨_, rfl, rfl⟩
  rename_i init
  split
  · exact ⟨_, rfl, rfl⟩
  · rename_i grows
    refine absurd ⟨positive, wordPtrs,
      initWordManager_succeeds_iff.mp first, init, ?_⟩ stops
    by_cases fits : wordCount memory ≤ initialCapacity
    · exact .inl fits
    · have larger := Int32.not_le.mp fits
      exact .inr (by simpa using fun fails => grows ⟨larger, fails⟩)

end Loads

/-! ## When a load is safe -/

namespace AcceptedWordList

variable {manager : WordManager} {allocations : LoadAllocations}

/-- The entries that the count of the response asks for. -/
abbrev count (response : AcceptedWordList) : Nat :=
  (wordCount response.memory).toNatClampNeg

/-- The outcome of the load, and the entries that it reads. -/
def load (response : AcceptedWordList) (manager : WordManager)
    (allocations : LoadAllocations) (stray : Nat → CString) : Loading :=
  loadWordsFromServer manager allocations 0 response.memory stray

variable {response : AcceptedWordList} {stray : Nat → CString}

private theorem readsInside_iff (noWords : manager.words = []) :
    (response.load manager allocations stray).ReadsInside response.body ↔
      (allocations.ReachesEntries manager (wordCount response.memory) →
        ∀ index < response.count,
          (∀ earlier < index, allocations.strdup earlier = true) →
            EntryInside response.body index) := by
  by_cases reaches : allocations.ReachesEntries manager
      (wordCount response.memory)
  · rw [load, loadWordsFromServer_of_reaches reaches]
    simp only [Loading.ReadsInside, mem_copyWords_iff, Nat.zero_le,
      Nat.zero_add, true_and, reaches, and_imp, forall_const]
  · obtain ⟨left, _, stops⟩ :=
      loadWordsFromServer_of_not_reaches reaches noWords stray
    rw [load, stops]
    simp [Loading.ReadsInside, reaches]

/-- Where all entries are inside the body, the capacity is enough. -/
private theorem count_le_capacity
    (positive : 0 < wordCount response.memory)
    (inside : ∀ index < response.count, EntryInside response.body index) :
    (response.count : Int) ≤
      (if wordCount response.memory > initialCapacity then
        wordCount response.memory + 10 else initialCapacity).toInt := by
  have above : 0 < (wordCount response.memory).toInt :=
    Int32.lt_iff_toInt_lt.mp positive
  have counted : (response.count : Int) = (wordCount response.memory).toInt :=
    Int.toNat_of_nonneg (Int.le_of_lt above)
  have last := (inside (response.count - 1) (by omega)).listed
  have most : (wordCount response.memory).toInt ≤ 256 := by
    rw [maxWordlistWords] at last
    omega
  rw [counted]
  split
  · have ten : (10 : Int32).toInt = 10 :=
      rfl
    have sum : ((wordCount response.memory).toInt + 10).bmod (2 ^ 32) =
        (wordCount response.memory).toInt + 10 :=
      Int.bmod_eq_of_le (by omega) (by omega)
    rw [Int32.toInt_add, ten, sum]
    omega
  · rename_i fits
    exact Int32.le_iff_toInt_le.mp (Int32.not_lt.mp fits)

private theorem decodes_iff (noWords : manager.words = []) :
    (response.load manager allocations stray).Decodes response.body ↔
      (allocations.ReachesEntries manager (wordCount response.memory) →
        (∀ index < response.count, allocations.strdup index = true) →
          ∀ index < response.count, EntryInside response.body index) := by
  by_cases reaches : allocations.ReachesEntries manager
      (wordCount response.memory)
  swap
  · obtain ⟨left, noneLeft, stops⟩ :=
      loadWordsFromServer_of_not_reaches reaches noWords stray
    rw [load, stops]
    exact iff_of_true (.inl ⟨rfl, noneLeft⟩) (absurd · reaches)
  rw [load, loadWordsFromServer_of_reaches reaches]
  by_cases all : ∀ index < response.count, allocations.strdup index = true
  swap
  · obtain ⟨index, listed, fails⟩ :
        ∃ index < response.count, allocations.strdup index = false := by
      simpa using all
    have none : (copyWords (strdupEntry response.memory stray)
        allocations.strdup 0 response.count).1 = none :=
      copyWords_of_failed (Nat.zero_le index)
        (by rwa [Nat.zero_add]) fails
    refine iff_of_true (.inl ⟨?_, ?_⟩) fun _ succeed => absurd succeed all
    · simp only [none, Option.isSome_none]
    · simp only [none, Option.getD_none]
  have copied : copyWords (strdupEntry response.memory stray)
      allocations.strdup 0 response.count =
        (some ((List.range' 0 response.count).map
          (strdupEntry response.memory stray)),
          List.range' 0 response.count) :=
    copyWords_of_all fun index _ listed => all index (by omega)
  have mem_read : ∀ index, index ∈ List.range' 0 response.count ↔
      index < response.count := by
    simp [List.mem_range'_1]
  simp only [copied, Option.isSome_some, Option.getD_some]
  constructor
  · rintro (⟨fails, _⟩ | ⟨_, inside, _⟩) _ _ index listed
    · cases fails
    · exact inside index ((mem_read index).mpr listed)
  · intro inside
    have inside := inside reaches all
    refine .inr ⟨rfl, fun index read => inside index ((mem_read index).mp
      read), ?_, ?_⟩
    · apply List.map_congr_left
      intro index read
      exact response.strdupEntry_of_inside
        (inside index ((mem_read index).mp read)) stray
    · rw [List.length_map, List.length_range']
      exact count_le_capacity reaches.positive inside

/-- A load that starts without words fails without words or keeps exactly the
entries it reads, all of them inside the body, exactly if its count and its
allocations let it copy no other entry.  It reads no other entry exactly if
its count and its allocations let it get to none. -/
theorem load_decodes_iff
    (response : AcceptedWordList) (manager : WordManager)
    (allocations : LoadAllocations) (stray : Nat → CString)
    (noWords : manager.words = []) :
    ((response.load manager allocations stray).Decodes response.body ↔
      (allocations.ReachesEntries manager (wordCount response.memory) →
        (∀ index < response.count, allocations.strdup index = true) →
          ∀ index < response.count, EntryInside response.body index)) ∧
    ((response.load manager allocations stray).ReadsInside response.body ↔
      (allocations.ReachesEntries manager (wordCount response.memory) →
        ∀ index < response.count,
          (∀ earlier < index, allocations.strdup earlier = true) →
            EntryInside response.body index)) :=
  ⟨decodes_iff noWords, readsInside_iff noWords⟩

def allSucceed : LoadAllocations :=
  ⟨true, true, true, true, fun _ => true⟩

/-- A response that ends behind its only word. -/
def oneWord : AcceptedWordList where
  body := intBytes 1 ++ padTo maxWordStrLen (text "rain")
  garbage := List.replicate sizeofWordListResponse 255
  fits := by decide
  sized := List.length_replicate

theorem oneWord_decodes :
    (oneWord.load ⟨[], 0, false⟩ allSucceed fun _ => .empty).Decodes
        oneWord.body ∧
      (oneWord.load ⟨[], 0, false⟩ allSucceed fun _ => .empty).ReadsInside
        oneWord.body := by
  have inside : ∀ index < oneWord.count,
      EntryInside oneWord.body index := by
    have counted : oneWord.count = 1 := by
      decide +kernel
    intro index listed
    rw [counted] at listed
    obtain rfl := Nat.lt_one_iff.mp listed
    exact ⟨by decide, by decide, by decide +kernel⟩
  obtain ⟨decodes, reads⟩ := oneWord.load_decodes_iff ⟨[], 0, false⟩
    allSucceed (fun _ => .empty) rfl
  exact ⟨decodes.mpr fun _ _ => inside,
    reads.mpr fun _ index listed _ => inside index listed⟩

/-- A response of the full size whose count is over `MAX_WORDLIST_WORDS`. -/
def longCount : AcceptedWordList where
  body := intBytes 300 ++ List.replicate (maxWordlistWords * maxWordStrLen) 0
  garbage := List.replicate sizeofWordListResponse 0
  fits := by
    rw [List.length_append, length_intBytes, List.length_replicate]
  sized := List.length_replicate

private theorem count_longCount : wordCount longCount.memory = 300 := by
  have body : longCount.memory.take sizeofInt = intBytes 300 := by
    rw [memory_eq, longCount, List.append_assoc]
    exact List.take_left' (length_intBytes _)
  rw [wordCount, body]
  decide

private theorem reaches_longCount :
    allSucceed.ReachesEntries ⟨[], 0, false⟩
      (wordCount longCount.memory) := by
  rw [count_longCount]
  exact ⟨by decide, rfl, .inr rfl, rfl, .inr rfl⟩

/-- The 257th entry is behind the struct. -/
theorem longCount_reads_outside :
    ¬(longCount.load ⟨[], 0, false⟩ allSucceed fun _ => .empty).Decodes
        longCount.body ∧
      ¬(longCount.load ⟨[], 0, false⟩ allSucceed fun _ => .empty).ReadsInside
        longCount.body := by
  have counted : longCount.count = 300 := by
    rw [count, count_longCount]
    decide
  have outside : ¬EntryInside longCount.body 256 := fun inside =>
    absurd inside.listed (by decide)
  have listed : 256 < longCount.count := by
    rw [counted]
    decide
  constructor
  · intro decodes
    exact outside ((decodes_iff rfl).mp decodes reaches_longCount
      (fun _ _ => rfl) 256 listed)
  · intro inside
    exact outside ((readsInside_iff rfl).mp inside reaches_longCount 256
      listed fun _ _ => rfl)

end AcceptedWordList

end RainTyping
