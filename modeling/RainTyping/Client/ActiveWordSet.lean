import Mathlib.Data.Finset.Card
import RainTyping.Client.ActiveWords
import RainTyping.Support.Runs

/-!
# The active words as a set

What the table of active words is for: a set of words, whatever their hashes.
Only words that fit a node are added; they are looked up and removed at any
length.
-/

namespace RainTyping

inductive TableOperation where
  | add (word : CharArray maxWordLen)
  | remove (word : CString)
  | lookup (word : CString)
  deriving DecidableEq

/-- One call, where `malloc` succeeds. -/
def ActiveWordTable.perform :
    Service ActiveWordTable TableOperation Bool :=
  fun table operation =>
    match operation with
    | .add word => addActiveWord true table word.toCString
    | .remove word => removeActiveWord table word
    | .lookup word => (isWordInActiveTable table word, table)

/-- The same operation of a set. -/
def performOnSet : Service (Finset CString) TableOperation Bool :=
  fun words operation =>
    match operation with
    | .add word => (word.toCString ∉ words, insert word.toCString words)
    | .remove word => (word ∈ words, words.erase word)
    | .lookup word => (word ∈ words, words)

namespace ActiveWordTable

/-- The table holds the words of the set, each once and in the chain of its
hash, and counts them. -/
structure Represents (table : ActiveWordTable) (words : Finset CString) :
    Prop where
  wellFormed : table.WellFormed
  stores : ∀ word, table.Stores word ↔ word ∈ words
  totalCount : table.totalCount = words.card

variable {table : ActiveWordTable} {words : Finset CString}

theorem represents_init : initActiveWordTable.Represents ∅ := by
  refine ⟨wellFormed_init, ?_, rfl⟩
  intro word
  exact iff_of_false not_stores_init (Finset.notMem_empty word)

theorem Represents.lookup
    (represents : table.Represents words) (word : CString) :
    isWordInActiveTable table word = decide (word ∈ words) := by
  rw [Bool.eq_iff_iff, isWordInActiveTable_iff represents.wellFormed,
    decide_eq_true_eq]
  exact represents.stores word

theorem Represents.add
    (represents : table.Represents words) (word : CharArray maxWordLen) :
    (addActiveWord true table word.toCString).1 =
        decide (word.toCString ∉ words) ∧
      (addActiveWord true table word.toCString).2.Represents
        (insert word.toCString words) := by
  obtain ⟨wellFormed, stores, totalCount⟩ := represents
  have found := Represents.lookup ⟨wellFormed, stores, totalCount⟩
    word.toCString
  have stored : ∀ other,
      (addActiveWord true table word.toCString).2.Stores other ↔
        other ∈ insert word.toCString words := by
    intro other
    rw [stores_add wellFormed word.fits, stores, Finset.mem_insert, or_comm]
  refine ⟨?_, wellFormed_add true wellFormed word.fits, stored, ?_⟩
  · by_cases member : word.toCString ∈ words
    · simp [addActiveWord, found, member]
    · simp [addActiveWord, found, member]
  · by_cases member : word.toCString ∈ words
    · rw [Finset.insert_eq_of_mem member]
      simp [addActiveWord, found, member, totalCount]
    · rw [Finset.card_insert_of_notMem member]
      simp [addActiveWord, found, member, totalCount]

theorem Represents.remove
    (represents : table.Represents words) (word : CString) :
    (removeActiveWord table word).1 = decide (word ∈ words) ∧
      (removeActiveWord table word).2.Represents (words.erase word) := by
  obtain ⟨wellFormed, stores, totalCount⟩ := represents
  have found := Represents.lookup ⟨wellFormed, stores, totalCount⟩ word
  have stored : ∀ other, (removeActiveWord table word).2.Stores other ↔
      other ∈ words.erase word := by
    intro other
    rw [stores_remove wellFormed, stores, Finset.mem_erase, and_comm]
  refine ⟨?_, wellFormed_remove wellFormed, stored, ?_⟩
  · by_cases member : word ∈ words
    · simp [removeActiveWord, found, member]
    · simp [removeActiveWord, found, member]
  · by_cases member : word ∈ words
    · have some := Finset.card_pos.mpr ⟨word, member⟩
      rw [Finset.card_erase_of_mem member]
      simp only [removeActiveWord, found, member, decide_true, ↓reduceIte,
        totalCount]
      omega
    · rw [Finset.erase_eq_of_notMem member]
      simp [removeActiveWord, found, member, totalCount]

theorem Represents.perform
    (represents : table.Represents words) (operation : TableOperation) :
    (table.perform operation).1 = (performOnSet words operation).1 ∧
      (table.perform operation).2.Represents
        (performOnSet words operation).2 := by
  cases operation with
  | add word => exact represents.add word
  | remove word => exact represents.remove word
  | lookup word => exact ⟨represents.lookup word, represents⟩

/-- From the empty table on, every sequence of operations has the answers of
a set and leaves a table that represents it. -/
theorem perform_refines_set (operations : List TableOperation) :
    (perform.run initActiveWordTable operations).1 =
        (performOnSet.run ∅ operations).1 ∧
      (perform.run initActiveWordTable operations).2.Represents
        (performOnSet.run ∅ operations).2 := by
  apply Service.run_refines Represents _ represents_init
  intro table words operation represents
  exact represents.perform operation

end ActiveWordTable

end RainTyping
