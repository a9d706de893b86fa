import Arbitrage.Contract.Call
import Arbitrage.Proofs.Word
import Mathlib.Data.List.Forall2

/-!
# Calls whose amounts are in range

Every amount of a call goes into an on-chain integer: 256 bits for what is joined, exited, boomed or
busted, and 128 for the quantity of a take. A call has data exactly if all amounts in it are in
range, however deep they are nested (`Call.encodable_iff`), and otherwise the error is about an
amount that is not.
-/

namespace Arbitrage

namespace Action

/-- The amount that an action puts into an on-chain integer, and the bits of that integer. What is
approved is an on-chain integer from the start. -/
def sized? : Action → Option (Wad × Nat)
  | approve _ _ => none
  | join wad | exit wad | boom wad | bust wad => some (wad, 256)
  | take _ quantity => some (quantity, 128)

/-- The amount of an action, if it has one, fits its on-chain integer; an action without one is
always in range. -/
def InRange (action : Action) : Prop :=
  ∀ amount bits, action.sized? = some (amount, bits) → amount.raw < 2 ^ bits

def Overflows (action : Action) (amount : Wad) : Prop :=
  ∃ bits, action.sized? = some (amount, bits) ∧ 2 ^ bits ≤ amount.raw

/-- The method of an action, by the four bytes that choose it. -/
def selector : Action → Bytes
  | approve _ _ => Selector.approve
  | join _ => Selector.join
  | exit _ => Selector.exit
  | boom _ => Selector.boom
  | bust _ => Selector.bust
  | take _ _ => Selector.take

def arguments : Action → List Nat
  | approve spender amount => [spender.bits.toNat, amount.toNat]
  | join wad | exit wad | boom wad | bust wad => [wad.raw]
  | take id quantity => [id.word.toNat, quantity.raw]

/-- An amount that does not fit, as it is reported: in full, with what is wrong with it. -/
def overflow (amount : Wad) : SubmissionError :=
  .unencodable amount.text ConversionError.tooLarge.message

variable {action : Action} {wad quantity : Wad}

theorem inRange_or_overflows (action : Action) :
    action.InRange ∨ ∃ amount, action.Overflows amount := by
  cases sized : action.sized? with
  | none => exact .inl fun amount bits same => nomatch sized.symm.trans same
  | some x =>
      obtain ⟨amount, bits⟩ := x
      by_cases fits : amount.raw < 2 ^ bits
      · refine .inl fun amount' bits' same => ?_
        cases sized.symm.trans same
        exact fits
      · exact .inr ⟨amount, bits, sized, Nat.le_of_not_lt fits⟩

theorem InRange.not_overflows (fits : action.InRange) (amount : Wad) :
    ¬ action.Overflows amount := by
  rintro ⟨bits, same, large⟩
  have small := fits amount bits same
  omega

theorem not_inRange_iff : ¬ action.InRange ↔ ∃ amount, action.Overflows amount := by
  constructor
  · exact action.inRange_or_overflows.resolve_left
  · rintro ⟨amount, excess⟩ fits
    exact fits.not_overflows amount excess

section Encoding

theorem encodeWad_of_lt (fits : wad.raw < 2 ^ 256) :
    encodeWad wad = .ok (BitVec.ofNat 256 wad.raw) := by
  have word : wad.toWord? = .ok (BitVec.ofNat 256 wad.raw) := Word.ofNat?_eq_ok_iff.mpr ⟨fits, rfl⟩
  rw [encodeWad, word]

theorem encodeWad_of_le (large : 2 ^ 256 ≤ wad.raw) : encodeWad wad = .error (overflow wad) := by
  have none : wad.toWord? = .error .tooLarge := Word.ofNat?_eq_error_of_le large
  rw [encodeWad, none]
  rfl

theorem amountData_of_lt (method : Bytes) (fits : wad.raw < 2 ^ 256) :
    amountData method wad = .ok (method ++ Abi.word wad.raw) := by
  rw [amountData]
  rw [encodeWad_of_lt fits]
  simp [bind, Except.bind, pure, Except.pure, Abi.tuple, Abi.heads, Abi.Part.tail,
    Nat.mod_eq_of_lt fits]

theorem amountData_of_le (method : Bytes) (large : 2 ^ 256 ≤ wad.raw) :
    amountData method wad = .error (overflow wad) := by
  rw [amountData]
  rw [encodeWad_of_le large]
  rfl

theorem encodeQuantity_of_lt (fits : quantity.raw < 2 ^ 128) :
    encodeQuantity quantity = .ok (BitVec.ofNat 128 quantity.raw) := by
  have word : quantity.raw < 2 ^ 256 := Nat.lt_trans fits (by decide)
  have half : Word.toHalf? (BitVec.ofNat 256 quantity.raw) =
      .ok (BitVec.ofNat 128 quantity.raw) := by
    rw [Word.toHalf?]
    rw [BitVec.toNat_ofNat, Nat.mod_eq_of_lt word, if_pos fits]
    congr 1
    exact BitVec.setWidth_ofNat_of_le (by decide) _
  rw [encodeQuantity]
  rw [encodeWad_of_lt word]
  dsimp only [bind, Except.bind]
  rw [half]

theorem encodeQuantity_of_le (large : 2 ^ 128 ≤ quantity.raw) :
    encodeQuantity quantity = .error (overflow quantity) := by
  rw [encodeQuantity]
  by_cases word : quantity.raw < 2 ^ 256
  · have none : Word.toHalf? (BitVec.ofNat 256 quantity.raw) = .error .tooLarge := by
      rw [Word.toHalf?]
      rw [BitVec.toNat_ofNat, Nat.mod_eq_of_lt word, if_neg (Nat.not_lt.mpr large)]
    rw [encodeWad_of_lt word]
    dsimp only [bind, Except.bind]
    rw [none]
    rfl
  · rw [encodeWad_of_le (Nat.le_of_not_lt word)]
    rfl

theorem amountData_of_sized {bits : Nat} (method : Bytes) (fits : action.InRange)
    (sized : action.sized? = some (wad, bits)) (word : bits = 256) :
    amountData method wad = .ok (method ++ [wad.raw].flatMap Abi.word) := by
  subst word
  rw [amountData_of_lt method (fits wad 256 sized), List.flatMap_singleton]

/-- The data of an action is its method and then its arguments. -/
theorem calldata_of_inRange (fits : action.InRange) :
    action.calldata = .ok (action.selector ++ action.arguments.flatMap Abi.word) := by
  cases action with
  | approve spender amount =>
      simp [calldata, selector, arguments, Abi.tuple, Abi.heads, Abi.Part.tail, Abi.address]
  | join wad => exact amountData_of_sized _ fits rfl rfl
  | exit wad => exact amountData_of_sized _ fits rfl rfl
  | boom wad => exact amountData_of_sized _ fits rfl rfl
  | bust wad => exact amountData_of_sized _ fits rfl rfl
  | take id quantity =>
      have small := fits quantity 128 rfl
      rw [calldata]
      rw [encodeQuantity_of_lt small]
      simp [bind, Except.bind, pure, Except.pure, selector, arguments, Abi.tuple, Abi.heads,
        Abi.Part.tail, Nat.mod_eq_of_lt small]
      rfl

/-- An amount that does not fit is what the error is about. -/
theorem calldata_of_overflows {amount : Wad} (excess : action.Overflows amount) :
    action.calldata = .error (overflow amount) := by
  obtain ⟨bits, sized, large⟩ := excess
  cases action with
  | approve spender word => cases sized
  | take id quantity =>
      cases sized
      rw [calldata]
      rw [encodeQuantity_of_le large]
      rfl
  | join wad | exit wad | boom wad | bust wad =>
      cases sized
      exact amountData_of_le _ large

theorem calldata_eq_ok_iff {data : Bytes} : action.calldata = .ok data ↔
    action.InRange ∧ data = action.selector ++ action.arguments.flatMap Abi.word := by
  obtain fits | ⟨amount, excess⟩ := action.inRange_or_overflows
  · simp [calldata_of_inRange fits, fits, eq_comm]
  · have out : ¬ action.InRange := not_inRange_iff.mpr ⟨amount, excess⟩
    simp [calldata_of_overflows excess, out]

end Encoding

end Action

namespace Call

/-- A call has data, so that it can be sent. -/
def Encodable (call : Call) : Prop := ∃ data, call.calldata = .ok data

/-- All amounts of a call are in range, those of the calls inside a batch included. -/
inductive InRange : Call → Prop
  | single (target : Address) {action : Action} (fits : action.InRange) :
      InRange (.single target action)
  | batch (executor : Address) (tokens : List Address) {invocations : List Call}
      (fit : ∀ call ∈ invocations, InRange call) : InRange (.batch executor tokens invocations)

/-- What holds of every single call, and of a batch whenever it holds of the calls in it, holds of
every call. -/
@[elab_as_elim]
theorem induction {P : Call → Prop} (single : ∀ target action, P (.single target action))
    (batch : ∀ executor tokens invocations, (∀ call ∈ invocations, P call) →
      P (.batch executor tokens invocations)) (call : Call) : P call :=
  @Call.rec P (fun calls => ∀ call ∈ calls, P call) single batch nofun
    (fun _ _ first rest => List.forall_mem_cons.mpr ⟨first, rest⟩) call

variable {target executor : Address} {action : Action} {tokens : List Address} {calls : List Call}

@[simp] theorem inRange_single_iff : (single target action).InRange ↔ action.InRange := by
  constructor
  · rintro ⟨⟩
    assumption
  · exact .single target

@[simp] theorem inRange_batch_iff :
    (batch executor tokens calls).InRange ↔ ∀ call ∈ calls, call.InRange := by
  constructor
  · rintro ⟨⟩
    assumption
  · exact .batch executor tokens

theorem encodable_single_iff : (single target action).Encodable ↔ action.InRange := by
  simp [Encodable, calldata, Action.calldata_eq_ok_iff]

theorem invocationData_eq_ok_iff {encoded : List (Address × Bytes)} :
    invocationData calls = .ok encoded ↔
      List.Forall₂ (fun call x => call.target = x.1 ∧ call.calldata = .ok x.2) calls encoded := by
  induction calls generalizing encoded with
  | nil => simp [invocationData, eq_comm]
  | cons call calls ih =>
      rw [invocationData, List.forall₂_cons_left_iff]
      simp only [← ih]
      cases first : call.calldata with
      | error e => simp
      | ok data =>
          cases invocationData calls with
          | error e => simp
          | ok rest => simp [eq_comm]

theorem exists_invocationData_iff :
    (∃ encoded, invocationData calls = .ok encoded) ↔ ∀ call ∈ calls, call.Encodable := by
  induction calls with
  | nil => simp [invocationData]
  | cons call calls ih =>
      rw [List.forall_mem_cons, ← ih, invocationData, Encodable]
      cases call.calldata with
      | error e => simp
      | ok data => cases invocationData calls <;> simp

theorem encodable_batch_iff :
    (batch executor tokens calls).Encodable ↔ ∀ call ∈ calls, call.Encodable := by
  rw [← exists_invocationData_iff, Encodable, calldata]
  cases invocationData calls <;> simp

/-- A call has data exactly if all amounts in it are in range. -/
theorem encodable_iff (call : Call) : call.Encodable ↔ call.InRange := by
  induction call using Call.induction with
  | single target action => rw [encodable_single_iff, inRange_single_iff]
  | batch executor tokens calls ih =>
      rw [encodable_batch_iff, inRange_batch_iff]
      exact forall₂_congr ih

end Call

end Arbitrage
