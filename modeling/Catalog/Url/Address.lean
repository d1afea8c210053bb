import Catalog.Text.Split
import Catalog.Url.Percent

/-! # Numeric addresses

Host names that stand for a number of 32 bits, written in up to four parts, and addresses of eight
pieces of 16 bits.
-/

namespace Catalog.Url

open Text (splitAt)

def valueOf? (base : Nat) (s : List Char) : Option Nat :=
  s.foldlM (fun n c =>
    match hexValue? c with
    | some d => if d < base then some (base * n + d) else none
    | none => none) 0

/-- A part in base 16 behind `0x`, in base 8 behind `0`, or in base 10. -/
def part? : List Char → Option Nat
  | [] => none
  | '0' :: 'x' :: r => valueOf? 16 r
  | '0' :: 'X' :: r => valueOf? 16 r
  | '0' :: c :: r => valueOf? 8 (c :: r)
  | s => valueOf? 10 s

def nameParts (name : List Char) : List (List Char) :=
  let parts := splitAt '.' name
  if 1 < parts.length && parts.getLast? == some [] then parts.dropLast else parts

/-- Whether the last part of a name is a number, so that the name has to be an address. -/
def endsInNumber (name : List Char) : Bool :=
  match (nameParts name).getLast? with
  | none => false
  | some [] => false
  | some part => part.all Char.isDigit || (part? part).isSome

/-- The address that a name stands for: every part but the last is a byte, and the last one fills
the bytes that are left. -/
def ipv4? (name : List Char) : Option Nat := do
  let numbers ← (nameParts name).mapM part?
  let last ← numbers.getLast?
  let bytes := numbers.dropLast
  if bytes.length ≤ 3 && last < Nat.pow 256 (4 - bytes.length) && bytes.all (· < 256) then
    let high := bytes.foldl (fun (sum, place) b => (sum + b * Nat.pow 256 place, place - 1)) (0, 3)
    some (high.1 + last)
  else none

def renderIpv4 (n : Nat) : List Char :=
  let byte (place : Nat) : List Char := (toString (n / Nat.pow 256 place % 256)).toList
  byte 3 ++ '.' :: byte 2 ++ '.' :: byte 1 ++ '.' :: byte 0

/-- A byte in base 10 without leading zeros. -/
def decimalByte? (s : List Char) : Option Nat := do
  let n ← valueOf? 10 s
  if n < 256 && !s.isEmpty && (s.head? != some '0' || s.length = 1) then some n else none

/-- The pieces that one group stands for: one, or two if it is the last and has four parts. -/
def group? (last : Bool) (s : List Char) : Option (List Nat) :=
  if s.contains '.' then
    if last then do
      match ← (splitAt '.' s).mapM decimalByte? with
      | [a, b, c, d] => some [256 * a + b, 256 * c + d]
      | _ => none
    else none
  else if s.isEmpty || 4 < s.length then none
  else (valueOf? 16 s).map ([·])

def groups? (last : Bool) : List (List Char) → Option (List Nat)
  | [] => some []
  | [s] => group? last s
  | s :: rest => do return (← group? false s) ++ (← groups? last rest)

/-- The text before and after the first `::`. -/
def atGap? : List Char → Option (List Char × List Char)
  | ':' :: ':' :: r => some ([], r)
  | c :: r => (atGap? r).map fun (a, b) => (c :: a, b)
  | [] => none

/-- The eight pieces; one `::` stands for the zeros that are missing, at least one. -/
def ipv6? (s : List Char) : Option (List Nat) :=
  let side (last : Bool) (t : List Char) : Option (List Nat) :=
    if t.isEmpty then some [] else groups? last (splitAt ':' t)
  match atGap? s with
  | none => do
    let pieces ← side true s
    if pieces.length = 8 then some pieces else none
  | some (before, after) => do
    let front ← side false before
    let back ← side true after
    let n := front.length + back.length
    if n ≤ 7 then some (front ++ List.replicate (8 - n) 0 ++ back) else none

/-- Where the longest run of zeros starts, and its length; of equal ones the first. -/
def longestZeros (pieces : List Nat) : Nat × Nat :=
  let run (start : Nat) : Nat := ((pieces.drop start).takeWhile (· == 0)).length
  (List.range pieces.length).foldl
    (fun best start => if best.2 < run start then (start, run start) else best) (0, 0)

def renderPieces (pieces : List Nat) : List Char :=
  ((pieces.map fun p => Nat.toDigits 16 p).intersperse [':']).flatten

/-- The shortest form: the longest run of two zeros or more is left out. -/
def renderIpv6 (pieces : List Nat) : List Char :=
  let (start, length) := longestZeros pieces
  if length < 2 then renderPieces pieces
  else renderPieces (pieces.take start) ++ [':', ':'] ++ renderPieces (pieces.drop (start + length))

end Catalog.Url
