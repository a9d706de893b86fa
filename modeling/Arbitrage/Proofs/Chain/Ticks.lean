import Arbitrage.Chain.BlockSource
import Arbitrage.Proofs.World.Delivery
import Mathlib.Data.List.ReduceOption

/-!
# Every block in a tick

A poller is told the number of the newest block again and again, and the numbers may repeat or
decrease. It is behind a number if that is newer than all it has been told before; then, and only
then, it tells of it, and counts the blocks between this number and the one that it told of last. So
from one tick to another no block is left out and none is counted twice (`Accounts`).

A look for news goes on until it finds some or has used up its polls (`Looks`), and asking the chain
makes no difference to the ticks: what a poller tells in the end is what it has to tell of the heads
that the chain answered, one after the other (`Looks.tells`).
-/

namespace Arbitrage

open World Process World.Dialogue

namespace Poller

variable {p : Poller} {head : Nat} {heads later : List Nat}

/-- The poller after it was told some heads, one after the other. -/
def noting (p : Poller) (heads : List Nat) : Poller :=
  heads.foldl (fun p head => (p.observe head).2) p

/-- What it tells of each of them: a tick if the head is news to it by then, and otherwise
nothing. -/
def told (p : Poller) : List Nat → List (Option Tick)
  | [] => []
  | head :: heads => (p.observe head).1 :: told (p.observe head).2 heads

/-- All that it tells of them, without a trace of the heads that it passes over. -/
def ticks (p : Poller) (heads : List Nat) : List Tick := (p.told heads).reduceOption

/-- A block is newer than the last one told of; before the first tick every block is. -/
def Behind (p : Poller) (head : Nat) : Prop := ∀ last ∈ p.last, last < head

/-- Ticks that leave out no block after the last one told of: each of them counts the blocks between
it and the one before. -/
def Gapless : (last : Option Nat) → List Tick → Prop
  | _, [] => True
  | last, tick :: ticks =>
    (∀ before ∈ last, before + 1 + tick.skipped = tick.block) ∧ (last = none → tick.skipped = 0) ∧
      Gapless (some tick.block) ticks

section Observing

theorem observe_of_behind (behind : p.Behind head) :
    ∃ skipped, p.observe head = (some ⟨head, skipped⟩, { p with last := some head }) ∧
      (∀ last ∈ p.last, last + 1 + skipped = head) ∧ (p.last = none → skipped = 0) := by
  rw [observe]
  cases told : p.last with
  | none => exact ⟨0, rfl, nofun, fun _ => rfl⟩
  | some last =>
      have newer : last < head := behind last told
      rw [tick?, if_neg (Nat.not_le_of_lt newer)]
      refine ⟨head - last - 1, rfl, ?_, nofun⟩
      rintro _ ⟨⟩
      omega

theorem observe_of_not_behind (known : ¬ p.Behind head) : p.observe head = (none, p) := by
  rw [observe]
  cases told : p.last with
  | none => exact absurd (by simp [Behind, told]) known
  | some last =>
      have old : head ≤ last := by simpa [Behind, told] using known
      rw [tick?, if_pos old]

theorem isSome_observe_iff : ((p.observe head).1.isSome = true) ↔ p.Behind head := by
  by_cases behind : p.Behind head
  · obtain ⟨skipped, observed, -⟩ := observe_of_behind behind
    simp [observed, behind]
  · simp [observe_of_not_behind behind, behind]

/-- Whether a block is news is decided by the heads alone, told of or not. -/
theorem behind_observe_iff {block : Nat} :
    (p.observe head).2.Behind block ↔ p.Behind block ∧ head < block := by
  by_cases behind : p.Behind head
  · obtain ⟨skipped, observed, -⟩ := observe_of_behind behind
    rw [observed]
    constructor
    · intro newer
      have above : head < block := newer head rfl
      exact ⟨fun last known => Nat.lt_trans (behind last known) above, above⟩
    · rintro ⟨-, above⟩ _ ⟨⟩
      exact above
  · rw [observe_of_not_behind behind]
    refine ⟨fun newer => ⟨newer, ?_⟩, And.left⟩
    obtain ⟨last, known, old⟩ : ∃ last ∈ p.last, head ≤ last := by simpa [Behind] using behind
    exact Nat.lt_of_le_of_lt old (newer last known)

theorem behind_noting_iff {block : Nat} :
    (p.noting heads).Behind block ↔ p.Behind block ∧ ∀ head ∈ heads, head < block := by
  induction heads generalizing p with
  | nil => simp [noting]
  | cons head heads ih =>
      rw [noting, List.foldl_cons, ← noting, ih, behind_observe_iff, and_assoc, List.forall_mem_cons]

end Observing

section Telling

theorem noting_append : p.noting (heads ++ later) = (p.noting heads).noting later :=
  List.foldl_append

theorem told_append : p.told (heads ++ later) = p.told heads ++ (p.noting heads).told later := by
  induction heads generalizing p with
  | nil => rfl
  | cons head heads ih => exact congrArg ((p.observe head).1 :: ·) ih

theorem ticks_append : p.ticks (heads ++ later) = p.ticks heads ++ (p.noting heads).ticks later := by
  rw [ticks, told_append, List.reduceOption_append, ticks, ticks]

theorem ticks_cons : p.ticks (head :: heads) =
    (p.observe head).1.toList ++ (p.observe head).2.ticks heads := by
  rw [ticks, told]
  cases (p.observe head).1 <;> rfl

theorem length_told : (p.told heads).length = heads.length := by
  induction heads generalizing p with
  | nil => rfl
  | cons head heads ih => exact congrArg (· + 1) ih

/-- What is told of a head depends on the heads before it. -/
theorem getElem?_told (i : Nat) : (p.told heads)[i]? =
    heads[i]?.map fun head => ((p.noting (heads.take i)).observe head).1 := by
  induction heads generalizing p i with
  | nil => rfl
  | cons head heads ih =>
      cases i with
      | zero => rfl
      | succ i => exact ih i

theorem exists_told_iff {i : Nat} (listed : heads[i]? = some head) :
    (∃ tick, (p.told heads)[i]? = some (some tick)) ↔
      p.Behind head ∧ ∀ earlier ∈ heads.take i, earlier < head := by
  rw [← behind_noting_iff, ← isSome_observe_iff, Option.isSome_iff_exists, getElem?_told, listed]
  simp

theorem last_noting : (p.noting heads).last =
    ((p.ticks heads).getLast?.map Tick.block).or p.last := by
  induction heads generalizing p with
  | nil => rfl
  | cons head heads ih =>
      rw [noting, List.foldl_cons, ← noting, ih, ticks_cons, List.getLast?_append]
      by_cases behind : p.Behind head
      · obtain ⟨skipped, observed, -⟩ := observe_of_behind behind
        rw [observed]
        cases ((⟨p.interval, some head⟩ : Poller).ticks heads).getLast? <;> rfl
      · rw [observe_of_not_behind behind]
        cases (p.ticks heads).getLast? <;> rfl

theorem gapless_ticks (p : Poller) (heads : List Nat) : Gapless p.last (p.ticks heads) := by
  induction heads generalizing p with
  | nil => trivial
  | cons head heads ih =>
      rw [ticks_cons]
      have rest := ih (p.observe head).2
      by_cases behind : p.Behind head
      · obtain ⟨skipped, observed, counted, first⟩ := observe_of_behind behind
        rw [observed] at rest ⊢
        exact ⟨counted, first, rest⟩
      · rw [observe_of_not_behind behind] at rest ⊢
        exact rest

end Telling

section Counting

variable {last : Option Nat} {ticks before between after : List Tick} {tick first final : Tick}

theorem Gapless.increasing (gapless : Gapless last ticks) :
    (last.toList ++ ticks.map Tick.block).Pairwise (· < ·) := by
  induction ticks generalizing last with
  | nil => cases last <;> simp
  | cons tick ticks ih =>
      obtain ⟨counted, -, rest⟩ := gapless
      have newer := ih rest
      cases last with
      | none => exact newer
      | some block =>
          have above : block < tick.block := by
            have exact := counted block rfl
            omega
          refine List.pairwise_cons.mpr ⟨?_, newer⟩
          rintro later listed
          rcases List.mem_cons.mp listed with rfl | among
          · exact above
          · exact Nat.lt_trans above ((List.pairwise_cons.mp newer).1 later among)

/-- Every block up to a tick is told of or passed over. -/
theorem Gapless.add_sum {block : Nat} (gapless : Gapless (some block) (between ++ final :: after)) :
    block + ((between ++ [final]).map (·.skipped + 1)).sum = final.block := by
  induction between generalizing block with
  | nil =>
      have exact := gapless.1 block rfl
      simp
      omega
  | cons tick between ih =>
      have exact := gapless.1 block rfl
      have rest := ih gapless.2.2
      rw [List.cons_append, List.map_cons, List.sum_cons]
      omega

theorem Gapless.rest (gapless : Gapless last (before ++ first :: after)) :
    Gapless (some first.block) after := by
  induction before generalizing last with
  | nil => exact gapless.2.2
  | cons tick before ih => exact ih gapless.2.2

end Counting

/-- How the ticks account for the blocks, whatever heads the poller is told. -/
structure Accounts (p : Poller) (heads : List Nat) : Prop where
  /-- There is one answer for each head. -/
  each : (p.told heads).length = heads.length
  /-- It is told of exactly if it is newer than every head before. -/
  told_iff : ∀ i head, heads[i]? = some head →
    ((∃ tick, (p.told heads)[i]? = some (some tick)) ↔ ∀ earlier ∈ heads.take i, earlier < head)
  /-- The tick names the head; and the blocks between it and the last one are counted without the
  difference ever being negative. -/
  exact : ∀ i tick, (p.told heads)[i]? = some (some tick) → heads[i]? = some tick.block ∧
    match (p.noting (heads.take i)).last with
    | none => tick.skipped = 0
    | some last => (tick.skipped : Int) = tick.block - last - 1
  increasing : ((p.ticks heads).map Tick.block).Pairwise (· < ·)
  /-- From one tick to another, the blocks told of and those passed over are all there are. -/
  complete : ∀ before first between final after,
    p.ticks heads = before ++ first :: (between ++ final :: after) →
    first.block + ((between ++ [final]).map (·.skipped + 1)).sum = final.block

/-- The ticks of a poller that has told of nothing yet account for every block. -/
theorem accounts (interval : Duration) (heads : List Nat) : Accounts ⟨interval, none⟩ heads := by
  have gapless := gapless_ticks ⟨interval, none⟩ heads
  refine ⟨length_told, ?_, ?_, gapless.increasing, ?_⟩
  · intro i head listed
    have fresh : (⟨interval, none⟩ : Poller).Behind head := nofun
    exact (exists_told_iff listed).trans (and_iff_right fresh)
  · intro i tick listed
    rw [getElem?_told, Option.map_eq_some_iff] at listed
    obtain ⟨head, named, observed⟩ := listed
    have behind : ((⟨interval, none⟩ : Poller).noting (heads.take i)).Behind head :=
      isSome_observe_iff.mp (by rw [observed]; rfl)
    obtain ⟨skipped, same, counted, first⟩ := observe_of_behind behind
    rw [same] at observed
    obtain rfl := Option.some.inj observed
    refine ⟨named, ?_⟩
    split
    · next none => exact first none
    · next last known =>
        have exact := counted last known
        dsimp only
        omega
  · intro before first between final after all
    rw [all] at gapless
    exact gapless.rest.add_sum

/-- Blocks 6 to 8 are passed over on the way from 5 to 9. -/
example : Poller.ticks ⟨.ofSeconds 1, none⟩ [5, 5, 4, 9] = [⟨5, 0⟩, ⟨9, 3⟩] := by decide

section Asking

variable {p p' : Poller} {d : Dialogue} {news : Option (Except Failure Tick)} {stale : List Nat}

def tickOf : Option (Except Failure Tick) → Option Tick
  | some (.ok tick) => some tick
  | _ => none

/-- A head that is no news, and the pause behind it. -/
def idle (p : Poller) (head : Nat) : Dialogue :=
  [⟨.blockNumber, (.ok head : Except Failure Nat)⟩, ⟨.sleep p.interval, ()⟩]

/-- The last poll of a look for news, which finds some: either the chain does not tell its newest
block, or it is one that the poller has not told of. Blocks that were passed over are reported. -/
inductive Finds (p : Poller) : Dialogue → Except Failure Tick → Poller → Prop
  | failed (e : Failure) :
      Finds p [⟨.blockNumber, (.error e : Except Failure Nat)⟩] (.error e) p
  | newer {head : Nat} {tick : Tick} {p' : Poller} (observed : p.observe head = (some tick, p')) :
      Finds p (⟨.blockNumber, (.ok head : Except Failure Nat)⟩ ::
        if 0 < tick.skipped then [⟨.record (.blocksSkipped tick.block tick.skipped), ()⟩] else [])
        (.ok tick) p'

/-- A look for news that may take some number of polls. Every poll but the last shows a head that is
no news and is followed by a pause. Nothing is found only if all polls have been made and all their
heads were no news. -/
inductive Looks (p : Poller) (polls : Nat) :
    Dialogue → Option (Except Failure Tick) → Poller → Prop
  | vain {stale : List Nat} (old : ∀ head ∈ stale, ¬ p.Behind head) (spent : stale.length = polls) :
      Looks p polls (stale.flatMap p.idle) none p
  | found {stale : List Nat} {last : Dialogue} {news : Except Failure Tick} {p' : Poller}
      (old : ∀ head ∈ stale, ¬ p.Behind head) (left : stale.length < polls)
      (finds : Finds p last news p') :
      Looks p polls (stale.flatMap p.idle ++ last) (some news) p'

/-- A poll is wasted on a head that is no news, or finds some. -/
theorem course_poll (course : (poll p).Course d (news, p')) :
    (∃ head, ¬ p.Behind head ∧ d = p.idle head ∧ news = none ∧ p' = p) ∨
      ∃ found, news = some found ∧ Finds p d found p' := by
  obtain ⟨answer, later, rfl, told⟩ := course_request_bind_iff.mp course
  cases answer with
  | error e =>
      obtain ⟨rfl, same⟩ := course_done_iff.mp told
      cases same
      exact .inr ⟨_, rfl, .failed e⟩
  | ok head =>
      dsimp only at told
      by_cases behind : p.Behind head
      · obtain ⟨skipped, observed, -⟩ := observe_of_behind behind
        have finds := Finds.newer observed
        rw [observed] at told
        dsimp only at told finds
        split at told
        · next gap =>
            rw [if_pos gap] at finds
            obtain ⟨_, _, rfl, ended⟩ := course_request_bind_iff.mp told
            obtain ⟨rfl, same⟩ := course_done_iff.mp ended
            cases same
            exact .inr ⟨_, rfl, finds⟩
        · next gap =>
            rw [if_neg gap] at finds
            obtain ⟨rfl, same⟩ := course_done_iff.mp told
            cases same
            exact .inr ⟨_, rfl, finds⟩
      · rw [observe_of_not_behind behind] at told
        obtain ⟨_, _, rfl, ended⟩ := course_request_bind_iff.mp told
        obtain ⟨rfl, same⟩ := course_done_iff.mp ended
        cases same
        exact .inl ⟨head, behind, rfl, rfl, rfl⟩

/-- However many polls it may take, this is how a look for news goes. -/
theorem looks_of_course {polls : Nat} (course : (next polls p).Course d (news, p')) :
    p.Looks polls d news p' := by
  induction polls generalizing d with
  | zero =>
      obtain ⟨rfl, same⟩ := course_done_iff.mp course
      cases same
      exact @Looks.vain p 0 [] (List.forall_mem_nil _) rfl
  | succ polls ih =>
      obtain ⟨_, ⟨first, q⟩, _, rfl, asked, rest⟩ := course_bind_iff.mp course
      rcases course_poll asked with ⟨head, old, rfl, rfl, rfl⟩ | ⟨found, rfl, finds⟩
      · cases ih rest with
        | vain others spent =>
            exact @Looks.vain _ _ (head :: _) (List.forall_mem_cons.mpr ⟨old, others⟩)
              (congrArg (· + 1) spent)
        | found others left finds =>
            rw [← List.append_assoc]
            exact @Looks.found _ _ (head :: _) _ _ _ (List.forall_mem_cons.mpr ⟨old, others⟩)
              (Nat.succ_lt_succ left) finds
      · obtain ⟨rfl, same⟩ := course_done_iff.mp rest
        cases same
        rw [List.append_nil]
        exact @Looks.found p _ [] _ _ _ (List.forall_mem_nil _) (Nat.zero_lt_succ polls) finds

/-- A dialogue leads a poller from one state to another and makes it tell what it should, given the
heads that it was shown on the way. -/
structure Tells (p : Poller) (d : Dialogue) (news : Option (Except Failure Tick)) (p' : Poller) :
    Prop where
  state_eq : p' = p.noting (d.heads)
  ticks_eq : p.ticks (d.heads) = (tickOf news).toList

theorem noting_of_old (old : ∀ head ∈ stale, ¬ p.Behind head) : p.noting stale = p := by
  induction stale with
  | nil => rfl
  | cons head stale ih =>
      obtain ⟨known, others⟩ := List.forall_mem_cons.mp old
      rw [noting, List.foldl_cons, observe_of_not_behind known]
      exact ih others

theorem ticks_of_old (old : ∀ head ∈ stale, ¬ p.Behind head) : p.ticks stale = [] := by
  induction stale with
  | nil => rfl
  | cons head stale ih =>
      obtain ⟨known, others⟩ := List.forall_mem_cons.mp old
      rw [ticks_cons, observe_of_not_behind known]
      exact ih others

theorem heads_idles (p : Poller) (stale : List Nat) :
    Dialogue.heads (stale.flatMap p.idle) = stale := by
  induction stale with
  | nil => rfl
  | cons head stale ih =>
      rw [List.flatMap_cons, Dialogue.heads_append, ih]
      rfl

theorem Finds.tells {found : Except Failure Tick} (finds : Finds p d found p') :
    p.Tells d (some found) p' := by
  cases finds with
  | failed e => exact ⟨rfl, rfl⟩
  | @newer head tick _ observed =>
      have single : Dialogue.heads (⟨.blockNumber, (.ok head : Except Failure Nat)⟩ ::
          if 0 < tick.skipped then [⟨.record (.blocksSkipped tick.block tick.skipped), ()⟩]
          else []) = [head] := by
        split <;> rfl
      constructor
      · rw [single]
        exact (congrArg Prod.snd observed).symm
      · rw [single, ticks_cons, observed]
        rfl

/-- What a look for news comes to is what the poller has to tell of the heads that it was shown. -/
theorem Looks.tells {polls : Nat} (looks : p.Looks polls d news p') : p.Tells d news p' := by
  cases looks with
  | vain old spent =>
      constructor
      · rw [heads_idles, noting_of_old old]
      · rw [heads_idles, ticks_of_old old]
        rfl
  | found old left finds =>
      obtain ⟨state, ticks⟩ := finds.tells
      constructor
      · rw [Dialogue.heads_append, heads_idles, noting_append, noting_of_old old]
        exact state
      · rw [Dialogue.heads_append, heads_idles, ticks_append, ticks_of_old old, noting_of_old old]
        exact ticks

end Asking

end Poller

end Arbitrage
