import Arbitrage.Proofs.Node.Reading
import Mathlib.Data.List.Perm.Basic

/-!
# Reading the book, ten orders at a time

The orders of the book are read with up to ten requests under way, and each order comes in when the
read of it has ended. So they come in out of order, but not in every order: one can overtake only those
that are under way together with it (`Arrives`). A reading of the book is given by the order in which
they come in and by what the chain has of each of them when it is read (`sees_orders_iff`). On a chain
on which nothing changes in the meantime it is the book of the chain in another arrangement
(`exists_book_of_sees`).
-/

namespace Arbitrage.Client

open Node Process

section Arrival

variable {α : Type} {width : Nat} {waiting came : List α}

/-- How the elements of a list may come in, if always the first `width` of those that are still to come
are under way: the next one is any of these. -/
inductive Arrives (width : Nat) : List α → List α → Prop
  | nil : Arrives width [] []
  | next {waiting came : List α} (i : Fin waiting.length) (underWay : i < width)
      (later : Arrives width (waiting.eraseIdx i) came) :
      Arrives width waiting (waiting.get i :: came)

/-- Whatever comes in first, everything comes in once. -/
theorem Arrives.perm (arrives : Arrives width waiting came) : came.Perm waiting := by
  induction arrives with
  | nil => exact .nil
  | next i _ _ ih => exact (ih.cons _).trans (List.getElem_cons_eraseIdx_perm i.isLt)

end Arrival

variable {c : Client} {h : History} {window : Nat → Prop} {replies : Replies}

/-- An order is what the chain had under a number in some block of a window. -/
def Listed (c : Client) (h : History) (window : Nat → Prop) (number : Nat) (order : Order) : Prop :=
  SeenWithin h window (c.order (BitVec.ofNat 256 number)) order

/-- The book has as many orders as the chain had placed in some block of a window, and each of them is
what the chain had under its number in some block of the window. They stand as they have come in, ten
being under way at a time. -/
def BookPieces (c : Client) (h : History) (window : Nat → Prop) (orders : List Order) : Prop :=
  ∃ last came, SeenWithin h window (c.word c.contracts.otc Selector.lastOfferId) last ∧
    last.toNat < 2 ^ 64 ∧ Arrives width (List.range' 1 last.toNat) came ∧
    List.Forall₂ (c.Listed h window) came orders

theorem sees_collect_iff {count : Nat} {numbers : List Nat} {orders : List Order}
    (counted : numbers.length = count) :
    Sees h window (c.collect count numbers).run (.ok orders) ↔
      ∃ came, Arrives width numbers came ∧ List.Forall₂ (c.Listed h window) came orders := by
  induction count generalizing numbers orders with
  | zero =>
      obtain rfl := List.eq_nil_of_length_eq_zero counted
      refine Iff.trans sees_pure_iff ?_
      constructor
      · rintro rfl
        exact ⟨[], .nil, .nil⟩
      · rintro ⟨_, ⟨⟩ | ⟨i, _, _⟩, listed⟩
        · cases listed
          rfl
        · exact i.elim0
  | succ count ih =>
      obtain ⟨number, numbers, rfl⟩ := List.exists_cons_of_length_eq_add_one counted
      have left : ∀ i : Fin (number :: numbers).length,
          ((number :: numbers).eraseIdx i).length = count := by
        intro i
        rw [List.length_eraseIdx_of_lt i.isLt, counted]
        rfl
      simp only [collect, sees_attempt_iff, sees_order_iff, sees_pure_iff]
      constructor
      · rintro ⟨i, -, order, order_seen, rest, rest_seen, rfl⟩
        obtain ⟨came, later, listed⟩ := (ih (left (i.castLE _))).mp rest_seen
        refine ⟨_, .next _ ?_ later, .cons order_seen listed⟩
        exact Nat.lt_of_lt_of_le i.isLt (Nat.succ_le_succ (Nat.min_le_right ..))
      · rintro ⟨_, arrives, listed⟩
        cases arrives with
        | next i underWay later =>
            cases listed with
            | cons first others =>
                have among : i.val < numbers.length + 1 := i.isLt
                have place : i.val < min numbers.length (width - 1) + 1 := by omega
                exact ⟨⟨i, place⟩, sees_bind_iff.mpr ⟨_, sees_ended _, sees_done_iff.mpr rfl⟩, _,
                  first, _, (ih (left i)).mpr ⟨_, later, others⟩, rfl⟩

theorem sees_orders_iff {orders : List Order} :
    Sees h window c.orders.run (.ok orders) ↔ BookPieces c h window orders := by
  rw [Client.orders, sees_attempt_iff]
  refine exists_congr fun last => ?_
  have counted : (List.range' 1 last.toNat).length = last.toNat := List.length_range'
  by_cases few : last.toNat < 2 ^ 64
  · simp only [few, if_true, sees_attempt_iff, sees_collect_iff counted, sees_pure_iff,
      sees_word_iff, true_and]
    constructor
    · rintro ⟨last_seen, _, ⟨came, arrives, listed⟩, _, _, rfl⟩
      exact ⟨came, last_seen, arrives, listed⟩
    · rintro ⟨came, last_seen, arrives, listed⟩
      exact ⟨last_seen, orders, ⟨came, arrives, listed⟩, (), sees_report _, rfl⟩
  · simp only [few, if_false, false_and, and_false, exists_false, iff_false, sees_attempt_iff]
    rintro ⟨-, _, thrown, -⟩
    exact sees_throw thrown

section Quiet

variable {α : Type}

/-- What is seen of a chain that answers in one way is what it shows. -/
theorem seenIn_of_seenWithin {x : Node.Attempt α} {a : α}
    (quiet : ∀ block, window block → h block = replies) (seen : SeenWithin h window x a) :
    seenIn replies x.run = .ok a := by
  obtain ⟨block, within, shown⟩ := seen
  rw [← quiet block within]
  exact shown

/-- While a chain answers in one way, and reads end as they were started, the orders come in by
number. -/
theorem seenIn_collect {numbers : List Nat} {book : List Order}
    (shown : List.Forall₂ (fun number order =>
      seenIn replies (c.order (BitVec.ofNat 256 number)).run = .ok order) numbers book) :
    seenIn replies (c.collect numbers.length numbers).run = .ok book := by
  induction shown with
  | nil => rfl
  | cons first _ ih =>
      refine (@seenIn_attempt _ replies _ _ _ ⟨0, Nat.succ_pos _⟩ rfl).trans ?_
      refine (seenIn_attempt first).trans ?_
      exact seenIn_attempt ih

/-- A book that is read while the chain answers in one way is the book of the chain, but for the
arrangement. -/
theorem exists_book_of_sees {orders : List Order}
    (quiet : ∀ block, window block → h block = replies)
    (sees : Sees h window c.orders.run (.ok orders)) :
    ∃ book, seenIn replies c.orders.run = .ok book ∧ orders.Perm book := by
  obtain ⟨last, came, last_seen, few, arrives, listed⟩ := sees_orders_iff.mp sees
  obtain ⟨book, numbered, rearranged⟩ := List.perm_comp_forall₂ arrives.perm.symm listed
  have shown := seenIn_collect (numbered.imp fun _ _ seen => seenIn_of_seenWithin quiet seen)
  rw [List.length_range'] at shown
  refine ⟨book, ?_, rearranged.symm⟩
  refine (seenIn_attempt (seenIn_of_seenWithin quiet last_seen)).trans ?_
  rw [if_pos few]
  exact seenIn_attempt shown

end Quiet

end Arbitrage.Client
