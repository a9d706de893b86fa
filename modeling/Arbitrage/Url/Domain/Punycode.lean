/-!
# Punycode

A label with characters beyond ASCII is written in ASCII: first its ASCII characters, then, behind a
dash, where the others go and which they are, in increasing order. Each step between two of them is
a number in 36 digits whose least digit comes first and which ends with a digit below its threshold;
the thresholds adapt to the steps before.
-/

namespace Arbitrage.Url.Punycode

/-- The digit for a number below 36: `a` to `z`, then `0` to `9`. -/
def digit (n : Nat) : Char := if n < 26 then Char.ofNat (97 + n) else Char.ofNat (22 + n)

def value? (c : Char) : Option Nat :=
  if 'a' ≤ c ∧ c ≤ 'z' then some (c.toNat - 97)
  else if c.isDigit then some (c.toNat - 22)
  else none

/-- The threshold of the digit in a place; places are counted in steps of 36. -/
def threshold (bias place : Nat) : Nat := min 26 (max 1 (place - bias))

theorem threshold_pos (bias place : Nat) : 0 < threshold bias place := by
  unfold threshold; omega

/-- How often a step has to be shortened, times 36, and what is left of it then. -/
def shorten (delta : Nat) : Nat × Nat :=
  if delta ≤ 455 then (0, delta)
  else
    let (shortened, rest) := shorten (delta / 35)
    (shortened + 36, rest)
termination_by delta
decreasing_by omega

/-- The bias after a step, when `count` characters are in place. -/
def adapt (delta count : Nat) (first : Bool) : Nat :=
  let delta := if first then delta / 700 else delta / 2
  let (shortened, rest) := shorten (delta + delta / count)
  shortened + 36 * rest / (rest + 38)

def writeStep (bias place delta : Nat) : List Char :=
  let t := threshold bias place
  if delta < t then [digit delta]
  else digit (t + (delta - t) % (36 - t)) :: writeStep bias (place + 36) ((delta - t) / (36 - t))
termination_by delta
decreasing_by
  have hpos : 0 < t := threshold_pos bias place
  calc (delta - t) / (36 - t) ≤ delta - t := Nat.div_le_self ..
    _ < delta := by omega

/-- Read a step: its value on top of `delta`, and what follows it. -/
def readStep (bias : Nat) : (place weight delta : Nat) → List Char → Option (Nat × List Char)
  | _, _, _, [] => none
  | place, weight, delta, c :: cs =>
    match value? c with
    | none => none
    | some n =>
      let t := threshold bias place
      if n < t then some (delta + n * weight, cs)
      else readStep bias (place + 36) (weight * (36 - t)) (delta + n * weight) cs

theorem length_of_readStep {bias place weight delta value : Nat} {cs rest : List Char}
    (h : readStep bias place weight delta cs = some (value, rest)) : rest.length < cs.length := by
  induction cs generalizing place weight delta with
  | nil => simp [readStep] at h
  | cons c cs ih =>
    rw [readStep] at h
    split at h
    · simp at h
    · simp only at h
      split at h
      · obtain ⟨-, rfl⟩ := Prod.mk.inj (Option.some.inj h)
        exact Nat.lt_succ_self _
      · exact Nat.lt_succ_of_lt (ih h)

def character? (n : Nat) : Option Char := if n.isValidChar then some (Char.ofNat n) else none

/-- Put the characters that the steps tell of between those in `done`. The last of them went to the
place before `place`, and the next has at least the number `least`. -/
def insertSteps (bias least place : Nat) (done : List Char) (steps : List Char) :
    Option (List Char) :=
  match steps with
  | [] => some done
  | c :: cs =>
    match _hstep : readStep bias 36 1 place (c :: cs) with
    | none => none
    | some (value, rest) =>
      let count := done.length + 1
      match character? (least + value / count) with
      | none => none
      | some char =>
        insertSteps (adapt (value - place) count (place == 0))
          (least + value / count) (value % count + 1) (done.insertIdx (value % count) char) rest
termination_by steps.length
decreasing_by exact length_of_readStep _hstep

def cutDash (cs : List Char) : List Char × List Char :=
  if cs.contains '-' then
    (((cs.reverse.dropWhile (· != '-')).drop 1).reverse, (cs.reverse.takeWhile (· != '-')).reverse)
  else ([], cs)

/-- Read a label, given without its marker, unless one of its steps leads to no character. -/
def decode? (cs : List Char) : Option (List Char) :=
  let (basic, steps) := cutDash cs
  insertSteps 72 128 0 basic steps

/-- What has been written, and where the writer is on its way through the characters, with the bias
of the next step. -/
structure Writer where
  written : List Char := []
  delta : Nat := 0
  bias : Nat := 72
  count : Nat
  fresh : Bool := true

/-- Take one character of the label into account while those with number `n` are written. -/
def Writer.pass (n : Nat) (w : Writer) (c : Char) : Writer :=
  if c.toNat < n then { w with delta := w.delta + 1 }
  else if c.toNat = n then
    { written := w.written ++ writeStep w.bias 36 w.delta
      delta := 0
      bias := adapt w.delta (w.count + 1) w.fresh
      count := w.count + 1
      fresh := false }
  else w

/-- Write the characters with the given numbers, `least` being the first number not yet passed. -/
def writeAll (label : List Char) : (least : Nat) → Writer → List Nat → Writer
  | _, w, [] => w
  | least, w, n :: ns =>
    let w := label.foldl (Writer.pass n) { w with delta := w.delta + (n - least) * (w.count + 1) }
    writeAll label (n + 1) { w with delta := w.delta + 1 } ns

/-- Write a label: what it has of ASCII, a dash, and then a step for each other character, the
smallest first. -/
def encode (label : List Char) : List Char :=
  let basic := label.filter (·.toNat < 128)
  let others := ((label.map Char.toNat).filter (128 ≤ ·)).eraseDups.mergeSort
  let dash := if basic.isEmpty then [] else ['-']
  basic ++ dash ++ (writeAll label 128 { count := basic.length } others).written

end Arbitrage.Url.Punycode
