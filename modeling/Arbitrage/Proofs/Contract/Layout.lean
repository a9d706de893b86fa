import Arbitrage.Contract.Abi
import Arbitrage.Proofs.Word

/-!
# Reading laid-out arguments

A contract reads its arguments by place: a part of fixed size is the word in its place, and a part
of variable size starts at the offset which that word holds. Nothing marks where such a part ends,
so it is read out of data that goes on behind it; every fact here is therefore about data which
begins with an encoding (`<+:`), and every reader gives back what had been laid out there as long as
the data is short enough for its offsets and lengths to fit their words.
-/

namespace Arbitrage.Abi

/-- The head of a part, if its tail starts at `offset`: its one word, or the offset in a word of its
own. -/
def Part.head (offset : Nat) : Part → Bytes
  | .static head => head
  | .dynamic _ => word offset

section Readers

variable {α : Type}

def numberAt? (data : Bytes) (place : Nat) : Option Nat := (wordAt? data place).map BitVec.toNat

def addressAt? (data : Bytes) (place : Nat) : Option Address := (wordAt? data place).map addressOf

/-- What starts at the offset in a place of a tuple, up to the end of the data; a length at its
start tells where it ends. -/
def tailAt? (data : Bytes) (place : Nat) : Option Bytes := (numberAt? data place).map data.drop

/-- A byte string of variable length: a word with the length, and behind it so many bytes. -/
def bytesOf? (data : Bytes) : Option Bytes := do
  let length ← numberAt? data 0
  let content := (data.drop Word.width).take length
  if content.length = length then some content else none

def itemsFrom? (read : Nat → Option α) : (count place : Nat) → Option (List α)
  | 0, _ => some []
  | count + 1, place => do
    let item ← read place
    let rest ← itemsFrom? read count (place + 1)
    return item :: rest

/-- An array of variable length, whose items are read by their place. -/
def arrayOf? (read : Bytes → Nat → Option α) (data : Bytes) : Option (List α) := do
  let count ← numberAt? data 0
  itemsFrom? (read (data.drop Word.width)) count 0

end Readers

section Words

variable {head data rest : Bytes} {n : Nat}

theorem ofBytes_word (n : Nat) : Word.ofBytes (word n) = BitVec.ofNat 256 n := by
  apply BitVec.eq_of_toNat_eq
  rw [Word.ofBytes, word, Bytes.toNat_ofNat, BitVec.toNat_ofNat, BitVec.toNat_ofNat]
  exact Nat.mod_mod _ _

theorem wordAt?_append_zero (size : head.length = Word.width) :
    wordAt? (head ++ rest) 0 = some (Word.ofBytes head) := by
  simp [wordAt?, ← size]

theorem wordAt?_append_succ (size : head.length = Word.width) (place : Nat) :
    wordAt? (head ++ rest) (place + 1) = wordAt? rest place := by
  have skip : Word.width * (place + 1) = head.length + Word.width * place := by
    rw [size, Nat.mul_succ, Nat.add_comm]
  simp only [wordAt?]
  rw [skip, List.drop_length_add_append]

@[simp] theorem wordAt?_word_zero : wordAt? (word n ++ rest) 0 = some (BitVec.ofNat 256 n) := by
  rw [wordAt?_append_zero (length_word n), ofBytes_word]

@[simp] theorem wordAt?_word_succ (place : Nat) :
    wordAt? (word n ++ rest) (place + 1) = wordAt? rest place :=
  wordAt?_append_succ (length_word n) place

theorem numberAt?_of_wordAt? {place : Nat} (found : wordAt? data place = some (BitVec.ofNat 256 n))
    (small : n < 2 ^ 256) : numberAt? data place = some n := by
  simp [numberAt?, found, Nat.mod_eq_of_lt small]

/-- Arguments of one word each are found in their places, which is all there is to the data of a
single action. -/
theorem wordAt?_words (numbers : List Nat) (place : Nat) :
    wordAt? (numbers.flatMap word) place = numbers[place]?.map (BitVec.ofNat 256) := by
  induction numbers generalizing place with
  | nil => simp [wordAt?, Word.width]
  | cons n numbers ih =>
      rw [List.flatMap_cons]
      cases place with
      | zero => exact wordAt?_word_zero
      | succ place => rw [wordAt?_word_succ, ih, List.getElem?_cons_succ]

@[simp] theorem addressOf_setWidth (a : Address) : addressOf (a.bits.setWidth 256) = a := by
  rw [addressOf, BitVec.setWidth_setWidth_of_le _ (by decide), BitVec.setWidth_eq]

end Words

section Tuples

variable {before after parts : List Part} {data tail : Bytes} {n : Nat}

@[simp] theorem Part.length_head (part : Part) (offset : Nat) :
    (part.head offset).length = part.headSize := by
  cases part with
  | static head => rfl
  | dynamic tail => exact length_word offset

theorem heads_cons (offset : Nat) (part : Part) (parts : List Part) :
    heads offset (part :: parts) = part.head offset ++ heads (offset + part.tail.length) parts := by
  cases part <;> rfl

@[simp] theorem length_heads (offset : Nat) (parts : List Part) :
    (heads offset parts).length = headSizes parts := by
  induction parts generalizing offset with
  | nil => rfl
  | cons part parts ih => simp [heads_cons, headSizes, ih]

theorem headSizes_of_words (words : ∀ part ∈ parts, part.headSize = Word.width) :
    headSizes parts = Word.width * parts.length := by
  have same : parts.map Part.headSize = parts.map fun _ => Word.width := List.map_congr_left words
  rw [headSizes, same, List.map_const', List.sum_replicate_nat, Nat.mul_comm]

/-- Behind the heads in front of it, a part has its head and the offset of its own tail. -/
theorem heads_append (offset : Nat) (before after : List Part) :
    heads offset (before ++ after) =
      heads offset before ++ heads (offset + (before.flatMap Part.tail).length) after := by
  induction before generalizing offset with
  | nil => simp [heads]
  | cons part before ih => simp [heads_cons, ih, Nat.add_assoc]

theorem wordAt?_heads (words : ∀ part ∈ before, part.headSize = Word.width) (offset : Nat)
    (rest : Bytes) :
    wordAt? (heads offset before ++ rest) before.length = wordAt? rest 0 := by
  induction before generalizing offset with
  | nil => rfl
  | cons part before ih =>
      obtain ⟨first, others⟩ := List.forall_mem_cons.mp words
      have size := (part.length_head offset).trans first
      rw [heads_cons, List.append_assoc, List.length_cons, wordAt?_append_succ size, ih others]

/-- A part is found in the place that counts the parts in front of it, if each takes one word. -/
theorem wordAt?_tuple (words : ∀ part ∈ before, part.headSize = Word.width) (part : Part)
    (own : part.headSize = Word.width) (after : List Part) (rest : Bytes) :
    wordAt? (tuple (before ++ part :: after) ++ rest) before.length = some (Word.ofBytes (part.head
      (headSizes (before ++ part :: after) + (before.flatMap Part.tail).length))) := by
  rw [tuple, heads_append, List.append_assoc, List.append_assoc, wordAt?_heads words, heads_cons,
    List.append_assoc]
  exact wordAt?_append_zero ((part.length_head _).trans own)

theorem wordAt?_static (before : List Part)
    (words : ∀ part ∈ before, part.headSize = Word.width)
    (layout : tuple (before ++ .static (word n) :: after) <+: data) :
    wordAt? data before.length = some (BitVec.ofNat 256 n) := by
  obtain ⟨rest, rfl⟩ := layout
  rw [wordAt?_tuple words (.static (word n)) (length_word n), Part.head, ofBytes_word]

theorem addressAt?_static {a : Address} (before : List Part)
    (words : ∀ part ∈ before, part.headSize = Word.width)
    (layout : tuple (before ++ .static (address a) :: after) <+: data) :
    addressAt? data before.length = some a := by
  rw [addressAt?, wordAt?_static before words layout, Option.map_some, BitVec.ofNat_toNat,
    addressOf_setWidth]

/-- The tail of a part stands behind all heads and the tails in front of it. -/
theorem tuple_split (before : List Part) (part : Part) (after : List Part) :
    ∃ front rest, tuple (before ++ part :: after) = front ++ (part.tail ++ rest) ∧
      front.length = headSizes (before ++ part :: after) + (before.flatMap Part.tail).length := by
  let parts := before ++ part :: after
  refine ⟨heads (headSizes parts) parts ++ before.flatMap Part.tail, after.flatMap Part.tail,
    ?_, ?_⟩
  · simp [tuple, parts]
  · simp [parts]

/-- The offset of a part of variable size leads to its tail. -/
theorem tailAt?_dynamic (before : List Part)
    (words : ∀ part ∈ before, part.headSize = Word.width)
    (layout : tuple (before ++ .dynamic tail :: after) <+: data) (small : data.length < 2 ^ 256) :
    ∃ found, tailAt? data before.length = some found ∧ tail <+: found ∧ found.length < 2 ^ 256 := by
  obtain ⟨rest, rfl⟩ := layout
  have here := wordAt?_tuple words (.dynamic tail) rfl after rest
  obtain ⟨front, behind, split, reach⟩ := tuple_split before (.dynamic tail) after
  rw [Part.head, ← reach, ofBytes_word] at here
  rw [split, Part.tail, List.append_assoc, List.append_assoc] at here small ⊢
  rw [List.length_append] at small
  have fits : front.length < 2 ^ 256 := by omega
  refine ⟨tail ++ (behind ++ rest), ?_, List.prefix_append _ _, by omega⟩
  rw [tailAt?, numberAt?_of_wordAt? here fits, Option.map_some, List.drop_left]

theorem length_tail_le (part : Part) (member : part ∈ parts) :
    part.tail.length ≤ (tuple parts).length := by
  have inside : part.tail.Sublist (parts.flatMap Part.tail) :=
    List.sublist_flatten_of_mem (List.mem_map_of_mem member)
  have := inside.length_le
  rw [tuple, List.length_append]
  omega

end Tuples

section Sequences

variable {α : Type} {data content : Bytes}

theorem bytesOf?_bytes (layout : bytes content <+: data) (small : data.length < 2 ^ 256) :
    bytesOf? data = some content := by
  obtain ⟨rest, rfl⟩ := layout
  have fits : content.length < 2 ^ 256 := by
    simp only [bytes, List.length_append] at small
    omega
  have length : numberAt? (bytes content ++ rest) 0 = some content.length :=
    numberAt?_of_wordAt? (by simp [bytes]) fits
  have body : (bytes content ++ rest).drop Word.width =
      content ++ (padding content.length ++ rest) := by
    rw [bytes, List.append_assoc, List.append_assoc, List.drop_left' (length_word _)]
  simp [bytesOf?, length, body]

theorem itemsFrom?_length {items : List α} {read : Nat → Option α}
    (reads : ∀ before item after, items = before ++ item :: after →
      read before.length = some item) :
    itemsFrom? read items.length 0 = some items := by
  suffices from_ : ∀ before after, items = before ++ after →
      itemsFrom? read after.length before.length = some after from from_ [] items rfl
  intro before after split
  induction after generalizing before with
  | nil => rfl
  | cons item after ih =>
      have first := reads before item after split
      have others := ih (before ++ [item]) (by simpa using split)
      rw [List.length_append, List.length_singleton] at others
      simp [itemsFrom?, first, others]

theorem arrayOf?_array {items : List α} {read : Bytes → Nat → Option α} (part : α → Part)
    (words : ∀ item, (part item).headSize = Word.width) (layout : array (items.map part) <+: data)
    (small : data.length < 2 ^ 256)
    (reads : ∀ (body : Bytes) (before : List α) (item : α) (after : List α),
      tuple (before.map part ++ part item :: after.map part) <+: body → body.length < 2 ^ 256 →
        read body before.length = some item) :
    arrayOf? read data = some items := by
  obtain ⟨rest, rfl⟩ := layout
  let body := tuple (items.map part) ++ rest
  have split : array (items.map part) ++ rest = word items.length ++ body := by
    simp [body, array]
  rw [split] at small ⊢
  have shorter : body.length < 2 ^ 256 := by
    rw [List.length_append] at small
    omega
  have room : Word.width * items.length ≤ body.length := by
    have sizes : headSizes (items.map part) = Word.width * (items.map part).length :=
      headSizes_of_words (List.forall_mem_map.mpr fun x _ => words x)
    rw [List.length_map] at sizes
    simp only [body, tuple, List.length_append, length_heads, sizes]
    omega
  have fits : items.length < 2 ^ 256 := by
    rw [Word.width] at room
    omega
  have count : numberAt? (word items.length ++ body) 0 = some items.length :=
    numberAt?_of_wordAt? wordAt?_word_zero fits
  have all : itemsFrom? (read body) items.length 0 = some items := by
    refine itemsFrom?_length fun before item after same => ?_
    have inside : tuple (before.map part ++ part item :: after.map part) <+: body := by
      simp [body, same]
    exact reads body before item after inside shorter
  rw [arrayOf?, count]
  simp [all, List.drop_left' (length_word _)]

end Sequences

end Arbitrage.Abi
