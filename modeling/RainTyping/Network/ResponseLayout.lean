import RainTyping.Network.MessageLayout
import RainTyping.Server.Leaderboard

/-!
# The response structs

The type and the size that go with each response, how the client reads a
response struct, and that every response the server computes has a struct
that is read as this response.
-/

namespace RainTyping

/-! ## Reading a struct -/

def readStatus (memory : List UInt8) : Option StatusResponse :=
  match readInt memory,
    CharArray.read maxMsgLen (memory.drop sizeofInt) with
  | .ok success, some message => some ⟨success ≠ 0, message⟩
  | _, _ => none

def readEntry (memory : List UInt8) : Option LeaderboardEntry :=
  match CharArray.read maxIdLen memory, readInt (memory.drop maxIdLen) with
  | some username, .ok score => some ⟨username, score⟩
  | _, _ => none

/-- The elements of an array whose length stands before it. -/
def readCounted (size : Nat) (read : List UInt8 → Option α)
    (memory : List UInt8) : Option (List α) :=
  match readInt memory with
  | .ok count =>
      if 0 ≤ count.toInt then
        readElements size read count.toInt.toNat (memory.drop sizeofInt)
      else none
  | .error _ => none

def readLeaderboard (memory : List UInt8) : Option LeaderboardResponse :=
  if readInt memory = .ok (-1) then some ⟨none⟩
  else
    (readCounted sizeofLeaderboardEntry readEntry memory).map fun entries =>
      ⟨some entries⟩

def readWordList (memory : List UInt8) : Option WordListResponse :=
  (readCounted maxWordStrLen (CharArray.read maxWordStrLen)
    memory).bind fun words =>
      if fits : words.length ≤ maxWordlistWords then some ⟨words, fits⟩
      else none

/-- The response in a struct that came with this message type. -/
def readResponse (type : Int32) (memory : List UInt8) : Option Response :=
  if type = msgTypeRegisterResp then (readStatus memory).map .register
  else if type = msgTypeLoginResp then (readStatus memory).map .login
  else if type = msgTypeScoreSubmitResp then
    (readStatus memory).map .scoreSubmit
  else if type = msgTypeLeaderboardResp then
    (readLeaderboard memory).map .leaderboard
  else if type = msgTypeWordlistResp then
    (readWordList memory).map .wordlist
  else if type = msgTypeLogoutResp then (readStatus memory).map .logout
  else if type = msgTypeError then
    (CharArray.read maxMsgLen memory).map .error
  else none

namespace Response

/-- The message type that `handle_client` sends with the response. -/
def type : Response → Int32
  | .register _ => msgTypeRegisterResp
  | .login _ => msgTypeLoginResp
  | .scoreSubmit _ => msgTypeScoreSubmitResp
  | .leaderboard _ => msgTypeLeaderboardResp
  | .wordlist _ => msgTypeWordlistResp
  | .logout _ => msgTypeLogoutResp
  | .error _ => msgTypeError

/-- The `data_len` that `handle_client` sends with the response. -/
def sizeof : Response → Nat
  | .register _ => sizeofStatusResponse
  | .login _ => sizeofStatusResponse
  | .scoreSubmit _ => sizeofStatusResponse
  | .leaderboard _ => sizeofLeaderboardResponse
  | .wordlist _ => sizeofWordListResponse
  | .logout _ => sizeofStatusResponse
  | .error _ => sizeofErrorResponse

theorem sizeof_pos (response : Response) : 0 < response.sizeof := by
  cases response <;> simp only [sizeof] <;> decide

theorem sizeof_le (response : Response) :
    response.sizeof ≤ sizeofWordListResponse := by
  cases response <;> simp only [sizeof] <;> decide

/-- The memory of the response struct that `send_response` is given. -/
def FillsStruct (response : Response) (memory : List UInt8) : Prop :=
  memory.length = response.sizeof ∧
    readResponse response.type memory = some response

instance (response : Response) (memory : List UInt8) :
    Decidable (response.FillsStruct memory) :=
  inferInstanceAs (Decidable (_ ∧ _))

/-- The entries of a leaderboard fit their array. -/
def Fits : Response → Prop
  | .leaderboard ⟨some entries⟩ => entries.length ≤ maxLeaderboardEntries
  | _ => True

end Response

/-! ## Every response has its struct -/

def statusStruct (status : StatusResponse) : List UInt8 :=
  intBytes (if status.success then 1 else 0) ++ status.message.padded

def entryStruct (entry : LeaderboardEntry) : List UInt8 :=
  entry.username.padded ++ intBytes entry.score

/-- An array behind its length, in a struct of the given size. -/
def countedStruct (size : Nat) (write : α → List UInt8)
    (elements : List α) : List UInt8 :=
  padTo size (intBytes (.ofNat elements.length) ++ elements.flatMap write)

def leaderboardStruct (response : LeaderboardResponse) : List UInt8 :=
  match response.entries with
  | some entries => countedStruct sizeofLeaderboardResponse entryStruct entries
  | none => padTo sizeofLeaderboardResponse (intBytes (-1))

def wordListStruct (response : WordListResponse) : List UInt8 :=
  countedStruct sizeofWordListResponse CharArray.padded response.words

def Response.struct : Response → List UInt8
  | .register status => statusStruct status
  | .login status => statusStruct status
  | .scoreSubmit status => statusStruct status
  | .leaderboard response => leaderboardStruct response
  | .wordlist response => wordListStruct response
  | .logout status => statusStruct status
  | .error message => message.padded

@[simp] theorem length_statusStruct (status : StatusResponse) :
    (statusStruct status).length = sizeofStatusResponse := by
  simp [statusStruct]

theorem readStatus_statusStruct (status : StatusResponse) :
    readStatus (statusStruct status) = some status := by
  have message : CharArray.read maxMsgLen ((statusStruct status).drop
      sizeofInt) = some status.message := by
    rw [statusStruct, List.drop_left' (length_intBytes _)]
    simpa using status.message.read_padded []
  have success : readInt (statusStruct status) =
      .ok (if status.success then 1 else 0) :=
    readInt_intBytes _ _
  have truth : decide ((if status.success then (1 : Int32) else 0) ≠ 0) =
      status.success := by
    cases status.success
    · rfl
    · rfl
  simp only [readStatus, success, message, truth]

@[simp] theorem length_entryStruct (entry : LeaderboardEntry) :
    (entryStruct entry).length = sizeofLeaderboardEntry := by
  simp [entryStruct]

theorem readEntry_entryStruct
    (entry : LeaderboardEntry) (rest : List UInt8) :
    readEntry (entryStruct entry ++ rest) = some entry := by
  have score : (entryStruct entry ++ rest).drop maxIdLen =
      intBytes entry.score ++ rest := by
    rw [entryStruct, List.append_assoc]
    exact List.drop_left' entry.username.length_padded
  have username : CharArray.read maxIdLen (entryStruct entry ++ rest) =
      some entry.username := by
    rw [entryStruct, List.append_assoc]
    exact entry.username.read_padded _
  simp only [readEntry, username, score, readInt_intBytes]

section Counted

variable {α : Type u} {size elementSize : Nat} {write : α → List UInt8}
  {elements : List α}

theorem length_countedStruct
    (sized : ∀ element ∈ elements, (write element).length = elementSize)
    (fits : sizeofInt + elements.length * elementSize ≤ size) :
    (countedStruct size write elements).length = size := by
  apply length_padTo
  rw [List.length_append, length_intBytes, length_flatMap_of_sized sized]
  exact fits

private theorem countedStruct_eq
    (size : Nat) (write : α → List UInt8) (elements : List α) :
    ∃ zeros, countedStruct size write elements =
      intBytes (.ofNat elements.length) ++
        (elements.flatMap write ++ zeros) := by
  rw [countedStruct, padTo, List.append_assoc]
  exact ⟨_, rfl⟩

theorem readInt_countedStruct :
    readInt (countedStruct size write elements) =
      .ok (.ofNat elements.length) := by
  obtain ⟨zeros, struct⟩ := countedStruct_eq size write elements
  rw [struct]
  exact readInt_intBytes _ _

theorem readCounted_countedStruct
    {read : List UInt8 → Option α} (size : Nat)
    (small : elements.length < 2 ^ 31)
    (sized : ∀ element ∈ elements, (write element).length = elementSize)
    (reads : ∀ element ∈ elements, ∀ rest,
      read (write element ++ rest) = some element) :
    readCounted elementSize read (countedStruct size write elements) =
      some elements := by
  obtain ⟨zeros, struct⟩ := countedStruct_eq size write elements
  have tail : (countedStruct size write elements).drop sizeofInt =
      elements.flatMap write ++ zeros := by
    rw [struct]
    exact List.drop_left' (length_intBytes _)
  have counted : 0 ≤ (Int32.ofNat elements.length).toInt ∧
      (Int32.ofNat elements.length).toInt.toNat = elements.length := by
    rw [Int32.toInt_ofNat_of_lt small]
    exact ⟨Int.natCast_nonneg _, Int.toNat_natCast _⟩
  rw [readCounted, readInt_countedStruct]
  simp only [counted.1, counted.2, tail, ↓reduceIte]
  exact readElements_flatMap zeros sized reads

end Counted

@[simp] theorem length_leaderboardStruct
    {response : LeaderboardResponse}
    (fits : (Response.leaderboard response).Fits) :
    (leaderboardStruct response).length = sizeofLeaderboardResponse := by
  obtain ⟨entries | entries⟩ := response
  · apply length_padTo
    rw [length_intBytes, sizeofLeaderboardResponse, Nat.add_assoc]
    exact Nat.le_add_right _ _
  · apply length_countedStruct fun entry _ => length_entryStruct entry
    simp only [Response.Fits, maxLeaderboardEntries] at fits
    simp only [sizeofLeaderboardResponse, sizeofLeaderboardEntry, sizeofInt,
      maxIdLen, maxMsgLen, maxLeaderboardEntries]
    omega

theorem readLeaderboard_leaderboardStruct
    {response : LeaderboardResponse}
    (fits : (Response.leaderboard response).Fits) :
    readLeaderboard (leaderboardStruct response) = some response := by
  obtain ⟨entries | entries⟩ := response
  · have count : readInt (leaderboardStruct ⟨none⟩) = .ok (-1) :=
      readInt_intBytes _ _
    rw [readLeaderboard, if_pos count]
  · simp only [Response.Fits, maxLeaderboardEntries] at fits
    have small : entries.length < 2 ^ 31 := by
      omega
    have counted : readInt (leaderboardStruct ⟨some entries⟩) ≠ .ok (-1) := by
      intro same
      rw [leaderboardStruct, readInt_countedStruct] at same
      injection same with count
      have negative := congrArg Int32.toInt count
      rw [Int32.toInt_ofNat_of_lt small] at negative
      exact absurd negative (by simp)
    have read := readCounted_countedStruct sizeofLeaderboardResponse small
      (fun entry _ => length_entryStruct entry)
      (fun entry _ => readEntry_entryStruct entry)
    rw [readLeaderboard, if_neg counted, leaderboardStruct, read]
    rfl

@[simp] theorem length_wordListStruct (response : WordListResponse) :
    (wordListStruct response).length = sizeofWordListResponse := by
  have fits := response.fits
  apply length_countedStruct fun word _ => word.length_padded
  simp only [maxWordlistWords] at fits
  simp only [sizeofWordListResponse, sizeofInt, maxWordStrLen,
    maxWordlistWords]
  omega

theorem readWordList_wordListStruct (response : WordListResponse) :
    readWordList (wordListStruct response) = some response := by
  have fits := response.fits
  simp only [maxWordlistWords] at fits
  have small : response.words.length < 2 ^ 31 := by
    omega
  have read := readCounted_countedStruct sizeofWordListResponse small
    (fun word _ => word.length_padded)
    (fun word _ => word.read_padded)
  rw [readWordList, wordListStruct, read]
  exact dif_pos response.fits

/-- A response has a struct in which the client finds it. -/
theorem Response.fillsStruct_struct
    {response : Response} (fits : response.Fits) :
    response.FillsStruct response.struct := by
  cases response with
  | register status =>
      refine ⟨length_statusStruct status, ?_⟩
      exact congrArg (Option.map register) (readStatus_statusStruct status)
  | login status =>
      refine ⟨length_statusStruct status, ?_⟩
      exact congrArg (Option.map login) (readStatus_statusStruct status)
  | scoreSubmit status =>
      refine ⟨length_statusStruct status, ?_⟩
      exact congrArg (Option.map scoreSubmit) (readStatus_statusStruct status)
  | leaderboard response =>
      refine ⟨length_leaderboardStruct fits, ?_⟩
      exact congrArg (Option.map leaderboard)
        (readLeaderboard_leaderboardStruct fits)
  | wordlist response =>
      refine ⟨length_wordListStruct response, ?_⟩
      exact congrArg (Option.map wordlist)
        (readWordList_wordListStruct response)
  | logout status =>
      refine ⟨length_statusStruct status, ?_⟩
      exact congrArg (Option.map logout) (readStatus_statusStruct status)
  | error message =>
      refine ⟨message.length_padded, ?_⟩
      have read : CharArray.read maxMsgLen message.padded = some message := by
        simpa using message.read_padded []
      exact congrArg (Option.map error) read

/-- `get_leaderboard_impl` fills no more entries than there are. -/
theorem getLeaderboardImpl_fits
    (qsort : QSort) (calls : ReadCalls) (scores : DataFile) :
    (Response.leaderboard (getLeaderboardImpl qsort calls scores
      maxLeaderboardEntries)).Fits := by
  rw [getLeaderboardImpl]
  split
  · trivial
  · exact Nat.zero_le _
  · simp only [Response.Fits]
    rw [leaderboardOf_perm.length_eq, List.length_take]
    exact Nat.min_le_left _ _

end RainTyping
