import Arbitrage.Proofs.Contract.Layout
import Arbitrage.Proofs.Contract.Range

/-!
# Reading calls back

The data of a call is taken apart as the contracts take it: the method by its first four bytes, the
arguments by their places. Reading undoes writing, first for what one contract is told
(`Contents.read?`) and then, because the data of an invocation is shorter than that of the batch
around it, for a whole call with everything nested in it (`Call.read?_of_calldata`). What a call
does is therefore settled by its data; where it is sent is not part of the data.
-/

namespace Arbitrage

/-- What the data of a call tells the contract, as it stands in the bytes. The target is not part of
it, since it is not among them. -/
inductive Contents
  | single (action : Action)
  /-- A batch, with target and data of each invocation. -/
  | batch (tokens : List Address) (invocations : List (Address × Bytes))
  deriving DecidableEq, Repr

namespace Contents

open Abi

section Readers

def readApproval? (arguments : Bytes) : Option Contents := do
  let spender ← addressAt? arguments 0
  let amount ← wordAt? arguments 1
  return single (.approve spender amount)

def readAmount? (action : Wad → Action) (arguments : Bytes) : Option Contents := do
  let wad ← numberAt? arguments 0
  return single (action ⟨wad⟩)

def readTake? (arguments : Bytes) : Option Contents := do
  let id ← wordAt? arguments 0
  let quantity ← numberAt? arguments 1
  if quantity < 2 ^ 128 then some (single (.take ⟨id⟩ ⟨quantity⟩)) else none

/-- The target and the data of the invocation in a place of the array, behind the offset that stands
there. -/
def invocationAt? (invocations : Bytes) (place : Nat) : Option (Address × Bytes) := do
  let invocation ← tailAt? invocations place
  let target ← addressAt? invocation 0
  let data ← (tailAt? invocation 1).bind bytesOf?
  return (target, data)

def readBatch? (arguments : Bytes) : Option Contents := do
  let tokens ← (tailAt? arguments 0).bind (arrayOf? addressAt?)
  let invocations ← (tailAt? arguments 1).bind (arrayOf? invocationAt?)
  return batch tokens invocations

/-- How the arguments of each method are read, by the four bytes that choose the method. -/
def methods : List (Bytes × (Bytes → Option Contents)) :=
  [(Selector.approve, readApproval?), (Selector.join, readAmount? .join),
    (Selector.exit, readAmount? .exit), (Selector.boom, readAmount? .boom),
    (Selector.bust, readAmount? .bust), (Selector.take, readTake?),
    (Selector.execute, readBatch?)]

/-- Read the data of a call: the method that its first bytes choose, and then the arguments in the
form of that method. -/
def read? (data : Bytes) : Option Contents :=
  (methods.lookup (data.take 4)).bind fun arguments? => arguments? (data.drop 4)

end Readers

section RoundTrip

variable {action : Action} {wad : Wad} {method arguments data : Bytes}

theorem read?_append (reader : Bytes → Option Contents) (size : method.length = 4)
    (known : methods.lookup method = some reader) :
    read? (method ++ arguments) = reader arguments := by
  rw [read?, List.take_left' size, List.drop_left' size, known, Option.bind_some]

theorem read?_amount (build : Wad → Action) (size : method.length = 4)
    (known : methods.lookup method = some (readAmount? build)) (fits : wad.raw < 2 ^ 256) :
    read? (method ++ [wad.raw].flatMap word) = some (single (build wad)) := by
  have first : numberAt? ([wad.raw].flatMap word) 0 = some wad.raw :=
    numberAt?_of_wordAt? (wordAt?_words _ 0) fits
  rw [read?_append _ size known, readAmount?, first]
  rfl

/-- An action whose amount is in range is read back. -/
theorem read?_single (fits : action.InRange) :
    read? (action.selector ++ action.arguments.flatMap word) = some (single action) := by
  cases action with
  | approve spender amount =>
      rw [read?_append readApproval? rfl rfl, Action.arguments, readApproval?, addressAt?]
      rw [wordAt?_words, wordAt?_words]
      simp
  | take id quantity =>
      have small := fits quantity 128 rfl
      have second : numberAt? ([id.word.toNat, quantity.raw].flatMap word) 1 = some quantity.raw :=
        numberAt?_of_wordAt? (wordAt?_words _ 1) (Nat.lt_trans small (by decide))
      rw [read?_append readTake? rfl rfl, Action.arguments, readTake?]
      rw [wordAt?_words, second]
      simp [small]
  | join wad => exact read?_amount .join rfl rfl (fits wad 256 rfl)
  | exit wad => exact read?_amount .exit rfl rfl (fits wad 256 rfl)
  | boom wad => exact read?_amount .boom rfl rfl (fits wad 256 rfl)
  | bust wad => exact read?_amount .bust rfl rfl (fits wad 256 rfl)

def tokenPart (token : Address) : Part := .static (address token)

def invocationPart : Address × Bytes → Part
  | (target, data) => .dynamic (tuple [.static (address target), .dynamic (bytes data)])

theorem headSize_tokenPart (token : Address) : (tokenPart token).headSize = Word.width :=
  length_address token

theorem headSize_invocationPart (invocation : Address × Bytes) :
    (invocationPart invocation).headSize = Word.width := rfl

theorem batchData_eq (tokens : List Address) (invocations : List (Address × Bytes)) :
    Call.batchData tokens invocations = Selector.execute ++ tuple [
      .dynamic (array (tokens.map tokenPart)),
      .dynamic (array (invocations.map invocationPart))] := rfl

/-- A token is read in its place among the others, whatever stands before and behind it. -/
theorem addressAt?_part (before after : List Address) (token : Address)
    (layout : tuple (before.map tokenPart ++ tokenPart token :: after.map tokenPart) <+: data) :
    addressAt? data before.length = some token := by
  have found := addressAt?_static _ (List.forall_mem_map.mpr fun x _ => headSize_tokenPart x) layout
  rwa [List.length_map] at found

/-- An invocation is read in its place among the others, whatever stands before and behind it. -/
theorem invocationAt?_part (before after : List (Address × Bytes)) (invocation : Address × Bytes)
    (layout : tuple (before.map invocationPart ++
      invocationPart invocation :: after.map invocationPart) <+: data)
    (small : data.length < 2 ^ 256) : invocationAt? data before.length = some invocation := by
  obtain ⟨target, content⟩ := invocation
  obtain ⟨found, here, inside, shorter⟩ := tailAt?_dynamic _
    (List.forall_mem_map.mpr fun x _ => headSize_invocationPart x) layout small
  rw [List.length_map] at here
  have first : addressAt? found 0 = some target := addressAt?_static [] nofun inside
  obtain ⟨string, there, behind, shortest⟩ := tailAt?_dynamic [tokenPart target]
    (List.forall_mem_singleton.mpr (headSize_tokenPart target)) inside shorter
  rw [List.length_singleton] at there
  have second : bytesOf? string = some content := bytesOf?_bytes behind shortest
  simp [invocationAt?, here, first, there, second]

/-- A batch is read back, tokens and invocations in their order, as long as its lengths and offsets
fit their words. -/
theorem read?_batch {tokens : List Address} {invocations : List (Address × Bytes)}
    (small : (Call.batchData tokens invocations).length < 2 ^ 256) :
    read? (Call.batchData tokens invocations) = some (batch tokens invocations) := by
  let first := Part.dynamic (array (tokens.map tokenPart))
  let second := Part.dynamic (array (invocations.map invocationPart))
  have data : Call.batchData tokens invocations = Selector.execute ++ tuple [first, second] :=
    batchData_eq ..
  rw [data, List.length_append] at small
  have fits : (tuple [first, second]).length < 2 ^ 256 := by omega
  obtain ⟨front, here, inside, short⟩ := tailAt?_dynamic [] nofun (List.prefix_refl _) fits
  obtain ⟨back, there, behind, shorter⟩ := tailAt?_dynamic [first]
    (List.forall_mem_singleton.mpr rfl) (List.prefix_refl _) fits
  change tailAt? (tuple [first, second]) 0 = some front at here
  change tailAt? (tuple [first, second]) 1 = some back at there
  have allTokens : arrayOf? addressAt? front = some tokens :=
    arrayOf?_array tokenPart headSize_tokenPart inside short
      fun _ before token after layout _ => addressAt?_part before after token layout
  have allInvocations : arrayOf? invocationAt? back = some invocations :=
    arrayOf?_array invocationPart headSize_invocationPart behind shorter
      fun _ before invocation after layout small =>
        invocationAt?_part before after invocation layout small
  rw [data, read?_append readBatch? rfl rfl]
  simp [readBatch?, here, allTokens, there, allInvocations]

end RoundTrip

end Contents

namespace Call

/-- The same call of another contract; a call and this one have the same data. -/
def aimedAt (target : Address) : Call → Call
  | single _ action => single target action
  | batch _ tokens invocations => batch target tokens invocations

@[simp] theorem aimedAt_target (call : Call) : call.aimedAt call.target = call := by
  cases call <;> rfl

/-- Read the data of a call of a contract, through batches at most `depth` deep. -/
def read? : (depth : Nat) → (target : Address) → Bytes → Option Call
  | 0, _, _ => none
  | depth + 1, target, data => do
    match ← Contents.read? data with
    | .single action => return single target action
    | .batch tokens encoded =>
      let invocations ← encoded.mapM fun (target, data) => read? depth target data
      return batch target tokens invocations

section RoundTrip

variable {executor target : Address} {tokens : List Address} {invocations : List Call}
  {data : Bytes}

theorem calldata_batch_eq_ok_iff : (batch executor tokens invocations).calldata = .ok data ↔
    ∃ encoded, invocationData invocations = .ok encoded ∧ data = batchData tokens encoded := by
  rw [calldata]
  cases invocationData invocations <;> simp [eq_comm]

/-- The data of an invocation is shorter than that of its batch. -/
theorem length_lt_batchData {encoded : List (Address × Bytes)} (member : (target, data) ∈ encoded) :
    data.length < (batchData tokens encoded).length := by
  let part := Contents.invocationPart (target, data)
  let parts := encoded.map Contents.invocationPart
  let first := Abi.Part.dynamic (Abi.array (tokens.map Contents.tokenPart))
  have second {x y : Abi.Part} : y ∈ [x, y] := List.mem_cons_of_mem _ (List.mem_singleton_self _)
  calc data.length
    _ < (Abi.bytes data).length := by
        simp only [Abi.bytes, List.length_append, Abi.length_word, Word.width]
        omega
    _ ≤ part.tail.length := Abi.length_tail_le (.dynamic (Abi.bytes data)) second
    _ ≤ (Abi.tuple parts).length := Abi.length_tail_le part (List.mem_map_of_mem member)
    _ ≤ (Abi.array parts).length := by
        rw [Abi.array, List.length_append]
        exact Nat.le_add_left ..
    _ ≤ (Abi.tuple [first, .dynamic (Abi.array parts)]).length :=
        Abi.length_tail_le (.dynamic (Abi.array parts)) second
    _ ≤ (batchData tokens encoded).length := by
        rw [Contents.batchData_eq, List.length_append]
        exact Nat.le_add_left ..

/-- What is read from related items one by one is read from all of them. -/
theorem mapM_eq_some_of_forall₂ {α β : Type} {R : β → α → Prop} {f : α → Option β} {xs : List α}
    {ys : List β} (related : List.Forall₂ R ys xs)
    (reads : ∀ y ∈ ys, ∀ x ∈ xs, R y x → f x = some y) : xs.mapM f = some ys := by
  induction related with
  | nil => rfl
  | @cons y x ys xs first _ ih =>
      have here : f x = some y := reads y (by simp) x (by simp) first
      have others := ih fun y inYs x inXs => reads y (by simp [inYs]) x (by simp [inXs])
      simp [here, others]

theorem length_pos_of_calldata {call : Call} (written : call.calldata = .ok data) :
    0 < data.length := by
  cases call with
  | single target action =>
      obtain ⟨_, rfl⟩ := Action.calldata_eq_ok_iff.mp written
      have method : action.selector.length = 4 := by cases action <;> rfl
      rw [List.length_append, method]
      omega
  | batch executor tokens invocations =>
      obtain ⟨encoded, _, rfl⟩ := calldata_batch_eq_ok_iff.mp written
      have method : Selector.execute.length = 4 := rfl
      rw [Contents.batchData_eq, List.length_append, method]
      omega

/-- A call is read back from its data, whatever contract it is read for. -/
theorem read?_of_calldata (call : Call) {depth : Nat} (target : Address)
    (written : call.calldata = .ok data) (small : data.length < 2 ^ 256)
    (deep : data.length ≤ depth) : read? depth target data = some (call.aimedAt target) := by
  induction call using Call.induction generalizing data depth target with
  | single contract action =>
      have used := length_pos_of_calldata written
      obtain ⟨fits, rfl⟩ := Action.calldata_eq_ok_iff.mp written
      obtain ⟨depth, rfl⟩ := Nat.exists_eq_add_one.mpr (Nat.lt_of_lt_of_le used deep)
      rw [read?, Contents.read?_single fits]
      rfl
  | batch executor tokens invocations ih =>
      have used := length_pos_of_calldata written
      obtain ⟨encoded, each, rfl⟩ := calldata_batch_eq_ok_iff.mp written
      obtain ⟨depth, rfl⟩ := Nat.exists_eq_add_one.mpr (Nat.lt_of_lt_of_le used deep)
      have all : encoded.mapM (fun (target, data) => read? depth target data) =
          some invocations := by
        refine mapM_eq_some_of_forall₂ (invocationData_eq_ok_iff.mp each) ?_
        rintro call inCalls ⟨target, data⟩ inEncoded ⟨rfl, written⟩
        have shorter : data.length < (batchData tokens encoded).length :=
          length_lt_batchData inEncoded
        have inner : read? depth call.target data = some (call.aimedAt call.target) :=
          ih call inCalls call.target written (by omega) (by omega)
        rwa [aimedAt_target] at inner
      rw [read?, Contents.read?_batch small]
      simp [all]
      rfl

end RoundTrip

/-- A call has data exactly if all amounts in it are in range, and as long as lengths and offsets
fit their words its data is faithful: the whole call can be read back from it, nested batches and
their order included, and no other call, sent to whatever contract, has the same data unless it
does the same. -/
theorem calldata_faithful (call : Call) :
    ((∃ data, call.calldata = .ok data) ↔ call.InRange) ∧
    ∀ data, call.calldata = .ok data → data.length < 2 ^ 256 →
      (∀ target, read? data.length target data = some (call.aimedAt target)) ∧
      ∀ other : Call, other.calldata = .ok data → other.aimedAt call.target = call := by
  refine ⟨call.encodable_iff, fun data written small => ⟨fun target => ?_, fun other same => ?_⟩⟩
  · exact call.read?_of_calldata target written small (Nat.le_refl _)
  · have mine := call.read?_of_calldata call.target written small (Nat.le_refl _)
    have its := other.read?_of_calldata call.target same small (Nat.le_refl _)
    rw [mine, aimedAt_target] at its
    exact (Option.some.inj its).symm

/-- A batch that starts with an approval and holds another batch, whose join is of the largest
amount there is room for. -/
def nested : Call :=
  batch (.repeated 1) [.repeated 2, .repeated 3] [
    approve (.repeated 2) (.repeated 4) Word.max,
    batch (.repeated 1) [.repeated 3] [
      single (.repeated 5) (.take ⟨7⟩ ⟨12⟩), single (.repeated 6) (.join ⟨2 ^ 256 - 1⟩)]]

def nestedData : Bytes :=
  let data (action : Action) := action.selector ++ action.arguments.flatMap Abi.word
  batchData [.repeated 2, .repeated 3] [
    (.repeated 2, data (.approve (.repeated 4) Word.max)),
    (.repeated 1, batchData [.repeated 3] [
      (.repeated 5, data (.take ⟨7⟩ ⟨12⟩)), (.repeated 6, data (.join ⟨2 ^ 256 - 1⟩))])]

theorem calldata_nested : nested.calldata = .ok nestedData := by
  have approved : (Action.approve (.repeated 4) Word.max).InRange := nofun
  have taken : (Action.take ⟨7⟩ ⟨12⟩).InRange := by
    rintro _ _ ⟨⟩
    decide
  have joined : (Action.join ⟨2 ^ 256 - 1⟩).InRange := by
    rintro _ _ ⟨⟩
    decide
  rw [nested, approve]
  simp only [calldata, invocationData, Action.calldata_of_inRange approved,
    Action.calldata_of_inRange taken, Action.calldata_of_inRange joined]
  rfl

/-- Everything in a nested batch comes back from its data. -/
theorem calldata_faithful_nested :
    nested.calldata = .ok nestedData ∧ nestedData.length = 1156 ∧
      read? nestedData.length nested.target nestedData = some nested ∧
      ∀ other : Call, other.calldata = .ok nestedData → other.aimedAt nested.target = nested := by
  have length : nestedData.length = 1156 := by decide +kernel
  have small : nestedData.length < 2 ^ 256 := by
    rw [length]
    decide
  obtain ⟨readBack, unique⟩ := (calldata_faithful nested).2 nestedData calldata_nested small
  exact ⟨calldata_nested, length, readBack nested.target, unique⟩

end Call

end Arbitrage
