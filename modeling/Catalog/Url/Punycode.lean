/-! # Punycode

A label with characters outside ASCII is written by its ASCII characters and a sequence of
numbers that say which other characters stand where, in ascending order of code points.
-/

namespace Catalog.Url.Punycode

def digit (d : Nat) : Char :=
  if d < 26 then Char.ofNat (0x61 + d) else Char.ofNat (0x30 + (d - 26))

def value? (c : Char) : Option Nat :=
  if 'a' ≤ c && c ≤ 'z' then some (c.toNat - 0x61)
  else if 'A' ≤ c && c ≤ 'Z' then some (c.toNat - 0x41)
  else if '0' ≤ c && c ≤ '9' then some (c.toNat - 0x30 + 26)
  else none

/-- The least digit at a place that does not end a number. -/
def threshold (place bias : Nat) : Nat :=
  if place ≤ bias then 1 else if bias + 26 ≤ place then 26 else place - bias

theorem threshold_pos (place bias : Nat) : 1 ≤ threshold place bias := by
  unfold threshold; split
  · omega
  · split <;> omega

/-- Divides by 35 down to at most 455, counting 36 for each division. -/
def shrink (delta count : Nat) : Nat × Nat :=
  if 455 < delta then shrink (delta / 35) (count + 36) else (delta, count)
termination_by delta
decreasing_by exact Nat.div_lt_self (by omega) (by omega)

/-- The bias after a number has been written, `length` characters being placed by then. -/
def adapt (delta length : Nat) (first : Bool) : Nat :=
  let delta := if first then delta / 700 else delta / 2
  let (delta, count) := shrink (delta + delta / length) 0
  count + 36 * delta / (delta + 38)

def writeNumber (bias place n : Nat) : List Char :=
  let t := threshold place bias
  if n < t then [digit n]
  else digit (t + (n - t) % (36 - t)) :: writeNumber bias (place + 36) ((n - t) / (36 - t))
termination_by n
decreasing_by
  have := threshold_pos place bias
  exact Nat.lt_of_le_of_lt (Nat.div_le_self _ _) (by omega)

structure Writing where
  written : List Char
  delta : Nat
  bias : Nat
  /-- How many characters have been placed. -/
  placed : Nat
  first : Bool

/-- Passes one character while the code point `n` is being placed. -/
def Writing.pass (n : Nat) (w : Writing) (c : Char) : Writing :=
  if c.toNat < n then { w with delta := w.delta + 1 }
  else if c.toNat = n then
    { written := w.written ++ writeNumber w.bias 36 w.delta, delta := 0,
      bias := adapt w.delta (w.placed + 1) w.first, placed := w.placed + 1, first := false }
  else w

/-- Places the characters of `s` with the given code points, which ascend from `n`. -/
def writeAll (s : List Char) : List Nat → Nat → Writing → List Char
  | [], _, w => w.written
  | m :: ms, n, w =>
    let w := s.foldl (Writing.pass m) { w with delta := w.delta + (m - n) * (w.placed + 1) }
    writeAll s ms (m + 1) { w with delta := w.delta + 1 }

def encode (s : List Char) : List Char :=
  let basic := s.filter fun c => c.toNat < 0x80
  let rest := ((s.map Char.toNat).filter fun n => 0x80 ≤ n).mergeSort.eraseDups
  let start := if basic.isEmpty then [] else basic ++ ['-']
  writeAll s rest 0x80 ⟨start, 0, 72, basic.length, true⟩

def readNumber? (bias : Nat) : Nat → Nat → Nat → List Char → Option (Nat × List Char)
  | _, _, _, [] => none
  | place, weight, sum, c :: r =>
    match value? c with
    | none => none
    | some d =>
      let t := threshold place bias
      let sum := sum + d * weight
      if d < t then some (sum, r) else readNumber? bias (place + 36) (weight * (36 - t)) sum r

theorem readNumber?_length {bias place weight sum n : Nat} {s r : List Char}
    (h : readNumber? bias place weight sum s = some (n, r)) : r.length < s.length := by
  induction s generalizing place weight sum with
  | nil => simp [readNumber?] at h
  | cons c t ih =>
    rw [readNumber?] at h
    split at h
    · simp at h
    · simp only at h
      split at h
      · simp at h; simp [h.2]
      · have := ih h; simp; omega

/-- Inserts the characters that the numbers name. A code point that is none ends the reading. -/
def readAll? (out : List Char) (n i bias : Nat) (s : List Char) : Option (List Char) :=
  if s.isEmpty then some out
  else
    match _h : readNumber? bias 36 1 i s with
    | none => none
    | some (j, r) =>
      let length := out.length + 1
      let m := n + j / length
      if m.isValidChar then
        let at_ := j % length
        readAll? (out.take at_ ++ Char.ofNat m :: out.drop at_) m (at_ + 1)
          (adapt (j - i) length (i == 0)) r
      else none
termination_by s.length
decreasing_by exact readNumber?_length _h

def decode? (s : List Char) : Option (List Char) :=
  let tail := (s.reverse.takeWhile (· != '-')).reverse
  if tail.length = s.length then readAll? [] 0x80 0 72 s
  else readAll? (s.take (s.length - tail.length - 1)) 0x80 0 72 tail

end Catalog.Url.Punycode
