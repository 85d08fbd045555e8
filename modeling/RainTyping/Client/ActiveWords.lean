import RainTyping.Protocol

/-!
# The table of active words

`game_logic.c` keeps the words on the screen in a chained hash table so that
`spawn_word` does not pick one of them again.
-/

namespace RainTyping

abbrev hashTableSize : Nat := 64

abbrev maxWordLen : Nat := 30

instance : NeZero maxWordLen := ⟨by decide⟩

structure ActiveWordTable where
  /-- The words of each chain, from its head. -/
  buckets : Fin hashTableSize → List (CharArray maxWordLen)
  /-- An `int`; a game has a node for each word on the screen at most, so that
  it stays in the range. -/
  totalCount : Int

/-- `hash_function`, where a `char` is signed. -/
def hashFunction (word : CString) : Fin hashTableSize :=
  let hash : UInt32 := word.bytes.foldl
    (fun hash byte => (hash <<< 5) + hash + byte.toInt8.toInt32.toUInt32) 5381
  Fin.ofNat hashTableSize hash.toNat

def initActiveWordTable : ActiveWordTable :=
  ⟨fun _ => [], 0⟩

def isWordInActiveTable (table : ActiveWordTable) (word : CString) : Bool :=
  (table.buckets (hashFunction word)).any fun node => node.bytes = word.bytes

/-- The result and the table afterwards; `allocated` is what `malloc` answers
for the new node. -/
def addActiveWord (allocated : Bool) (table : ActiveWordTable)
    (word : CString) : Bool × ActiveWordTable :=
  if isWordInActiveTable table word then (false, table)
  else if allocated then
    let index := hashFunction word
    (true,
      { buckets := Function.update table.buckets index
          (.store maxWordLen word.bytes :: table.buckets index)
        totalCount := table.totalCount + 1 })
  else (false, table)

def removeActiveWord (table : ActiveWordTable) (word : CString) :
    Bool × ActiveWordTable :=
  if isWordInActiveTable table word then
    let index := hashFunction word
    (true,
      { buckets := Function.update table.buckets index
          ((table.buckets index).eraseP fun node => node.bytes = word.bytes)
        totalCount := table.totalCount - 1 })
  else (false, table)

/-! ## What the table stores -/

namespace ActiveWordTable

/-- Some chain has a node with the word. -/
def Stores (table : ActiveWordTable) (word : CString) : Prop :=
  ∃ index, ∃ node ∈ table.buckets index, node.toCString = word

/-- Every word is in the chain of its hash, and there only once. -/
structure WellFormed (table : ActiveWordTable) : Prop where
  placed : ∀ index, ∀ node ∈ table.buckets index,
    hashFunction node.toCString = index
  distinct : ∀ index, (table.buckets index).Nodup

variable {table : ActiveWordTable} {word other : CString}

theorem wellFormed_init : initActiveWordTable.WellFormed := by
  constructor
  case placed => exact fun index node member => nomatch member
  case distinct => exact fun index => List.nodup_nil

theorem not_stores_init : ¬initActiveWordTable.Stores word := by
  rintro ⟨index, node, member, _⟩
  exact nomatch member

/-- The words of one chain are the stored words of its hash. -/
theorem WellFormed.stores_iff (wellFormed : table.WellFormed) :
    table.Stores word ↔
      ∃ node ∈ table.buckets (hashFunction word), node.toCString = word := by
  constructor
  · rintro ⟨index, node, member, rfl⟩
    rw [wellFormed.placed index node member]
    exact ⟨node, member, rfl⟩
  · rintro ⟨node, member, same⟩
    exact ⟨_, node, member, same⟩

theorem isWordInActiveTable_iff (wellFormed : table.WellFormed) :
    isWordInActiveTable table word = true ↔ table.Stores word := by
  rw [wellFormed.stores_iff]
  simp only [isWordInActiveTable, List.any_eq_true, decide_eq_true_eq]
  apply exists_congr
  intro node
  apply and_congr_right
  intro member
  exact CString.ext_iff.symm

/-- Only the chain of the word changes. -/
private theorem stores_of_update
    {chain : List (CharArray maxWordLen)} {count : Int}
    (wellFormed : table.WellFormed) :
    Stores ⟨Function.update table.buckets (hashFunction word) chain, count⟩
        other ↔
      (∃ node ∈ chain, node.toCString = other) ∨
        table.Stores other ∧ hashFunction other ≠ hashFunction word := by
  constructor
  · rintro ⟨index, node, member, rfl⟩
    simp only [Function.update_apply] at member
    split at member
    · exact .inl ⟨node, member, rfl⟩
    · rename_i elsewhere
      have index := wellFormed.placed index node member
      exact .inr ⟨⟨_, node, member, rfl⟩, fun same =>
        elsewhere (index.symm.trans same)⟩
  · rintro (⟨node, member, rfl⟩ | ⟨stored, elsewhere⟩)
    · refine ⟨hashFunction word, node, ?_, rfl⟩
      simpa only [Function.update_self] using member
    · obtain ⟨node, member, same⟩ := wellFormed.stores_iff.mp stored
      refine ⟨hashFunction other, node, ?_, same⟩
      simpa only [Function.update_of_ne elsewhere] using member

private theorem wellFormed_of_update
    {chain : List (CharArray maxWordLen)} {count : Int}
    (placed : ∀ node ∈ chain, hashFunction node.toCString = hashFunction word)
    (distinct : chain.Nodup) (wellFormed : table.WellFormed) :
    WellFormed
      ⟨Function.update table.buckets (hashFunction word) chain, count⟩ := by
  constructor
  case placed =>
      intro index node member
      simp only [Function.update_apply] at member
      split at member
      · rename_i same
        rw [same]
        exact placed node member
      · exact wellFormed.placed index node member
  case distinct =>
      intro index
      simp only [Function.update_apply]
      split
      · exact distinct
      · exact wellFormed.distinct index

/-- Nodes with one text are one node of a chain without duplicates. -/
private theorem mem_eraseP_iff
    {chain : List (CharArray maxWordLen)} (distinct : chain.Nodup)
    {node : CharArray maxWordLen} :
    node ∈ chain.eraseP (fun node => node.bytes = word.bytes) ↔
      node ∈ chain ∧ node.toCString ≠ word := by
  induction chain with
  | nil => simp
  | cons head chain induction =>
      obtain ⟨notLater, distinct⟩ := List.nodup_cons.mp distinct
      by_cases found : head.bytes = word.bytes
      · rw [List.eraseP_cons_of_pos (by simpa using found)]
        have atHead : head.toCString = word := CString.ext found
        constructor
        · intro later
          refine ⟨List.mem_cons_of_mem _ later, ?_⟩
          intro same
          have twice : node = head :=
            CharArray.eq_of_bytes_eq (by rw [same, atHead])
          exact notLater (twice ▸ later)
        · rintro ⟨member, differs⟩
          rcases List.mem_cons.mp member with rfl | later
          · exact absurd atHead differs
          · exact later
      · rw [List.eraseP_cons_of_neg (by simpa using found), List.mem_cons,
          induction distinct, List.mem_cons]
        have notHead : head.toCString ≠ word :=
          fun same => found (congrArg CString.bytes same)
        constructor
        · rintro (rfl | ⟨later, differs⟩)
          · exact ⟨.inl rfl, notHead⟩
          · exact ⟨.inr later, differs⟩
        · rintro ⟨rfl | later, differs⟩
          · exact .inl rfl
          · exact .inr ⟨later, differs⟩

theorem wellFormed_remove (wellFormed : table.WellFormed) :
    (removeActiveWord table word).2.WellFormed := by
  unfold removeActiveWord
  split
  · apply wellFormed_of_update _ ((wellFormed.distinct _).eraseP _) wellFormed
    intro node member
    exact wellFormed.placed _ node (List.mem_of_mem_eraseP member)
  · exact wellFormed

theorem stores_remove (wellFormed : table.WellFormed) :
    (removeActiveWord table word).2.Stores other ↔
      table.Stores other ∧ other ≠ word := by
  unfold removeActiveWord
  split
  · rw [stores_of_update wellFormed]
    simp only [mem_eraseP_iff (wellFormed.distinct _)]
    constructor
    · rintro (⟨node, ⟨member, differs⟩, rfl⟩ | ⟨stored, elsewhere⟩)
      · exact ⟨⟨_, node, member, rfl⟩, differs⟩
      · exact ⟨stored, fun same => elsewhere (congrArg hashFunction same)⟩
    · rintro ⟨stored, differs⟩
      by_cases same : hashFunction other = hashFunction word
      · obtain ⟨node, member, rfl⟩ := wellFormed.stores_iff.mp stored
        exact .inl ⟨node, ⟨same ▸ member, differs⟩, rfl⟩
      · exact .inr ⟨stored, same⟩
  · rename_i absent
    rw [isWordInActiveTable_iff wellFormed] at absent
    constructor
    · intro stored
      exact ⟨stored, fun same => absent (same ▸ stored)⟩
    · exact And.left

theorem wellFormed_add
    (allocated : Bool) (wellFormed : table.WellFormed)
    (short : word.bytes.length < maxWordLen) :
    (addActiveWord allocated table word).2.WellFormed := by
  unfold addActiveWord
  split
  · exact wellFormed
  · rename_i absent
    split
    · have stored : (CharArray.store maxWordLen word.bytes).toCString = word :=
        CString.ext (CharArray.store_of_fits short)
      apply wellFormed_of_update _ _ wellFormed
      · intro node member
        rcases List.mem_cons.mp member with rfl | later
        · rw [stored]
        · exact wellFormed.placed _ node later
      · apply List.nodup_cons.mpr
        refine ⟨?_, wellFormed.distinct _⟩
        intro member
        rw [isWordInActiveTable_iff wellFormed] at absent
        exact absent ⟨_, _, member, stored⟩
    · exact wellFormed

/-- `add_active_word` stores the word unless `malloc` fails. -/
theorem stores_add
    (wellFormed : table.WellFormed) (short : word.bytes.length < maxWordLen) :
    (addActiveWord true table word).2.Stores other ↔
      table.Stores other ∨ other = word := by
  unfold addActiveWord
  split
  · rename_i present
    rw [isWordInActiveTable_iff wellFormed] at present
    constructor
    · exact .inl
    · rintro (stored | rfl)
      · exact stored
      · exact present
  · have stored : (CharArray.store maxWordLen word.bytes).toCString = word :=
      CString.ext (CharArray.store_of_fits short)
    rw [if_pos rfl, stores_of_update wellFormed]
    constructor
    · rintro (⟨node, member, rfl⟩ | ⟨before, _⟩)
      · rcases List.mem_cons.mp member with rfl | later
        · exact .inr stored
        · exact .inl ⟨_, node, later, rfl⟩
      · exact .inl before
    · rintro (before | rfl)
      · by_cases same : hashFunction other = hashFunction word
        · obtain ⟨node, member, rfl⟩ := wellFormed.stores_iff.mp before
          exact .inl ⟨node, List.mem_cons_of_mem _ (same ▸ member), rfl⟩
        · exact .inr ⟨before, same⟩
      · exact .inl ⟨_, List.mem_cons_self, stored⟩

theorem add_of_not_allocated :
    (addActiveWord false table word).2 = table := by
  unfold addActiveWord
  split <;> rfl

end ActiveWordTable

end RainTyping
