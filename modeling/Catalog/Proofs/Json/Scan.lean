import Catalog.Proofs.Json.Path
import Catalog.Proofs.Text.Slice

/-! # Reading paths byte by byte

A path is read from one byte to the next, and names and brackets are sliced out of it. Every round
ends behind the byte where it starts, and what is read is the path: no slice starts or ends inside a
character, whatever the text is.
-/

namespace Catalog.Json.Path

open Text
open String (utf8Len)

def nameAt? (text : String) (start : Nat) : Option (String × Nat) := do
  let tail ← slice? text start text.utf8ByteSize
  let stop := match offset? isStop tail.toList with
    | some n => start + n
    | none => text.utf8ByteSize
  return (← slice? text start stop, stop)

/-- One round at the byte `i`: the step that is read and the place behind it, or a fault. There is
no answer if something is sliced that is no part of the text. -/
def round? (text : String) (i : Nat) : Option (Except RuleFault (Segment × Nat)) :=
  let ahead := (bytes text).drop i
  if starts ['.', '.'] ahead then do
    let (name, next) ← nameAt? text (i + 2)
    return if name.isEmpty then .error .emptyDescendantKey else .ok (.descendant name, next)
  else if starts ['.', '*'] ahead then some (.ok (.wildcard, i + 2))
  else if starts ['.'] ahead then do
    let (name, next) ← nameAt? text (i + 1)
    return if name.isEmpty then .error .emptyKey else .ok (.key name, next)
  else if starts ['['] ahead then do
    let tail ← slice? text i text.utf8ByteSize
    match offset? (· == ']') tail.toList with
    | none => return .error .unclosedBracket
    | some n =>
      let inner ← slice? text (i + 1) (i + n)
      match bracket? (trim inner.toList) with
      | none => return .error .badBracket
      | some segment => return .ok (segment, i + n + 1)
  else if i = 0 then do
    let (name, next) ← nameAt? text 0
    return .ok (.key name, next)
  else some (.error .unexpectedCharacter)

variable {text name : String} {pre s t r mark inner rest : List Char} {c : Char} {i next : Nat}
  {segment : Segment}

theorem isEmpty_ofList (s : List Char) : (String.ofList s).isEmpty = s.isEmpty := by
  rw [Bool.eq_iff_iff, String.isEmpty_iff, List.isEmpty_iff, String.ofList_eq_empty_iff]

theorem nameAt?_append (pre : List Char) (ht : text = String.ofList (pre ++ s)) :
    nameAt? text (utf8Len pre) =
      some (String.ofList (s.takeWhile (!isStop ·)), utf8Len (pre ++ s.takeWhile (!isStop ·))) := by
  obtain ⟨name, rest, rfl, hn, hr⟩ := exists_name s
  have hs := slice?_append pre name rest
  rw [(span_name hn hr).1, ht, nameAt?, String.utf8ByteSize_ofList, slice?_drop]
  cases rest with
  | nil =>
    have hnone : offset? isStop (name ++ []) = none :=
      offset?_eq_none fun c hc => hn c (by simpa using hc)
    simp only [Option.bind_eq_bind, Option.bind_some, String.toList_ofList, hnone]
    rw [List.append_nil] at hs ⊢
    rw [String.utf8Len_append, hs]
    rfl
  | cons c rest =>
    have hsome : offset? isStop (name ++ c :: rest) = some (utf8Len name) :=
      offset?_append hn (hr c rfl)
    rw [← List.append_assoc]
    simp only [Option.bind_eq_bind, Option.bind_some, String.toList_ofList, hsome, hs]
    rw [String.utf8Len_append]
    rfl

theorem nameAt?_mark (mark : List Char) (ht : text = String.ofList (pre ++ (mark ++ t))) :
    nameAt? text (utf8Len pre + utf8Len mark) =
      some (String.ofList (t.takeWhile (!isStop ·)),
        utf8Len (pre ++ mark ++ t.takeWhile (!isStop ·))) := by
  rw [← List.append_assoc] at ht
  rw [← String.utf8Len_append]
  exact nameAt?_append (pre ++ mark) ht

theorem le_of_nameAt? (h : nameAt? text i = some (name, next)) :
    i ≤ next ∧ next ≤ text.utf8ByteSize := by
  simp only [nameAt?, Option.bind_eq_bind, Option.bind_eq_some_iff] at h
  obtain ⟨tail, -, part, hp, h⟩ := h
  cases h
  exact le_of_slice? hp

/-- Where a character starts, a round goes by the characters there. -/
theorem round?_append (pre : List Char) (ht : text = String.ofList (pre ++ s)) :
    round? text (utf8Len pre) =
    if ['.', '.'].isPrefixOf s then do
      let (name, next) ← nameAt? text (utf8Len pre + 2)
      return if name.isEmpty then .error .emptyDescendantKey else .ok (.descendant name, next)
    else if ['.', '*'].isPrefixOf s then some (.ok (.wildcard, utf8Len pre + 2))
    else if ['.'].isPrefixOf s then do
      let (name, next) ← nameAt? text (utf8Len pre + 1)
      return if name.isEmpty then .error .emptyKey else .ok (.key name, next)
    else if ['['].isPrefixOf s then
      match offset? (· == ']') s with
      | none => some (.error .unclosedBracket)
      | some n => do
        let inner ← slice? text (utf8Len pre + 1) (utf8Len pre + n)
        match bracket? (trim inner.toList) with
        | none => return .error .badBracket
        | some segment => return .ok (segment, utf8Len pre + n + 1)
    else if utf8Len pre = 0 then do
      let (name, next) ← nameAt? text 0
      return .ok (.key name, next)
    else some (.error .unexpectedCharacter) := by
  subst ht
  simp only [round?, bytes_ofList, drop_encode, starts_encode, String.utf8ByteSize_ofList,
    slice?_drop, Option.bind_eq_bind, Option.bind_some, String.toList_ofList]
  rfl

theorem round?_descendant (ht : text = String.ofList (pre ++ '.' :: '.' :: t)) :
    round? text (utf8Len pre) =
      some (if (t.takeWhile (!isStop ·)).isEmpty then .error .emptyDescendantKey
        else .ok (.descendant (String.ofList (t.takeWhile (!isStop ·))),
          utf8Len (pre ++ ['.', '.'] ++ t.takeWhile (!isStop ·)))) := by
  have hname : nameAt? text (utf8Len pre + 2) = _ := nameAt?_mark ['.', '.'] ht
  rw [round?_append pre ht, hname]
  simp only [List.isPrefixOf, beq_self_eq_true, Bool.and_true, if_true, Option.bind_eq_bind,
    Option.bind_some, isEmpty_ofList]
  rfl

theorem round?_parts (ht : text = String.ofList (pre ++ '.' :: '*' :: t)) :
    round? text (utf8Len pre) = some (.ok (.wildcard, utf8Len (pre ++ ['.', '*']))) := by
  rw [round?_append pre ht, String.utf8Len_append]
  rfl

theorem round?_member (ht : text = String.ofList (pre ++ '.' :: r)) (hd : r.head? ≠ some '.')
    (hw : r.head? ≠ some '*') :
    round? text (utf8Len pre) =
      some (if (r.takeWhile (!isStop ·)).isEmpty then .error .emptyKey
        else .ok (.key (String.ofList (r.takeWhile (!isStop ·))),
          utf8Len (pre ++ ['.'] ++ r.takeWhile (!isStop ·)))) := by
  have hname : nameAt? text (utf8Len pre + 1) = _ := nameAt?_mark ['.'] ht
  have hn {d : Char} (h : r.head? ≠ some d) : ¬['.', d].isPrefixOf ('.' :: r) := by
    rw [List.isPrefixOf_iff_prefix]
    rintro ⟨t, ht⟩
    cases ht
    exact h rfl
  rw [round?_append pre ht, if_neg (hn hd), if_neg (hn hw), hname]
  simp only [List.isPrefixOf, beq_self_eq_true, Bool.and_true, if_true, Option.bind_eq_bind,
    Option.bind_some, isEmpty_ofList]
  rfl

theorem round?_unclosed (ht : text = String.ofList (pre ++ '[' :: r)) (hr : ']' ∉ r) :
    round? text (utf8Len pre) = some (.error .unclosedBracket) := by
  have hc : offset? (· == ']') ('[' :: r) = none := offset?_eq_none fun c hc => by
    rcases List.mem_cons.mp hc with rfl | hc
    · rfl
    · exact beq_eq_false_iff_ne.mpr fun he => hr (he ▸ hc)
  simp [round?_append pre ht, List.isPrefixOf, hc]

theorem round?_bracket (ht : text = String.ofList (pre ++ '[' :: (inner ++ ']' :: rest)))
    (hi : ']' ∉ inner) :
    round? text (utf8Len pre) =
      some (match bracket? (trim inner) with
        | none => .error .badBracket
        | some segment => .ok (segment, utf8Len (pre ++ '[' :: (inner ++ [']'])))) := by
  have hc : offset? (· == ']') ('[' :: (inner ++ ']' :: rest)) = some (utf8Len inner + 1) :=
    offset?_append (t := '[' :: inner) (fun c hc => by
      rcases List.mem_cons.mp hc with rfl | hc
      · rfl
      · exact beq_eq_false_iff_ne.mpr fun he => hi (he ▸ hc)) rfl
  have hs : slice? text (utf8Len pre + 1) (utf8Len pre + (utf8Len inner + 1)) =
      some (String.ofList inner) := by
    have h := slice?_append (pre ++ ['[']) inner (']' :: rest)
    rw [String.utf8Len_append, Nat.add_right_comm, Nat.add_assoc (utf8Len pre), List.append_assoc,
      List.append_assoc] at h
    exact ht ▸ h
  have hl : utf8Len (pre ++ '[' :: (inner ++ [']'])) = utf8Len pre + (utf8Len inner + 1) + 1 := by
    rw [String.utf8Len_append, String.utf8Len_cons, String.utf8Len_append]
    rfl
  rw [round?_append pre ht]
  simp only [List.isPrefixOf, hc, hs, hl, Option.bind_eq_bind, Option.bind_some,
    String.toList_ofList]
  cases bracket? (trim inner) <;> rfl

theorem round?_bare (ht : text = String.ofList (c :: r)) (hc : isStop c = false) :
    round? text 0 = some (.ok (.key (String.ofList ((c :: r).takeWhile (!isStop ·))),
      utf8Len ((c :: r).takeWhile (!isStop ·)))) := by
  have hname : nameAt? text 0 = _ := nameAt?_append [] ht
  have hround : round? text 0 = _ := round?_append [] ht
  simp only [isStop, Bool.or_eq_false_iff, beq_eq_false_iff_ne] at hc
  have hn {d : Char} {mark : List Char} (h : c ≠ d) : ¬(d :: mark).isPrefixOf (c :: r) := by
    rw [List.isPrefixOf_iff_prefix]
    rintro ⟨t, ht⟩
    cases ht
    exact h rfl
  rw [hround, if_neg (hn hc.1), if_neg (hn hc.1), if_neg (hn hc.1), if_neg (hn hc.2),
    if_pos String.utf8Len_nil, hname]
  rfl

theorem round?_unexpected (ht : text = String.ofList (pre ++ c :: r)) (hc : isStop c = false)
    (hp : pre ≠ []) : round? text (utf8Len pre) = some (.error .unexpectedCharacter) := by
  simp only [isStop, Bool.or_eq_false_iff, beq_eq_false_iff_ne] at hc
  simp [round?_append pre ht, List.isPrefixOf, hc.1.symm, hc.2.symm, hp]

theorem pos_of_nameAt? (h : nameAt? text 0 = some (name, next)) (hs : 0 < text.utf8ByteSize)
    (hd : ¬starts ['.'] (bytes text)) (hb : ¬starts ['['] (bytes text)) : 0 < next := by
  obtain ⟨s, rfl⟩ : ∃ s, text = String.ofList s := ⟨_, String.ofList_toList.symm⟩
  cases s with
  | nil => exact absurd hs (Nat.lt_irrefl 0)
  | cons c r =>
    rw [bytes_ofList, starts_encode] at hd hb
    have hc : isStop c = false := by
      simp only [List.isPrefixOf, Bool.and_true, beq_iff_eq, ne_comm] at hd hb
      simp [isStop, hd, hb]
    have hname : nameAt? (String.ofList (c :: r)) 0 = _ := nameAt?_append [] rfl
    rw [hname, List.nil_append, List.takeWhile_cons_of_pos (by simp [hc]), String.utf8Len_cons] at h
    cases h
    exact Nat.lt_of_lt_of_le c.utf8Size_pos (Nat.le_add_left _ _)

theorem lt_of_round? (h : round? text i = some (.ok (segment, next)))
    (hi : i < text.utf8ByteSize) : i < next := by
  have hnamed {start : Nat} {fault : RuleFault} {f : String → Segment}
      (h : (do
        let (name, next) ← nameAt? text start
        return if name.isEmpty then .error fault else .ok (f name, next)) =
          some (Except.ok (segment, next))) : start ≤ next := by
    simp only [Option.bind_eq_bind, Option.bind_eq_some_iff] at h
    obtain ⟨⟨name, stop⟩, hname, h⟩ := h
    split at h <;> cases h
    exact (le_of_nameAt? hname).1
  unfold round? at h
  dsimp only at h
  split at h
  · have := hnamed h
    omega
  split at h
  · cases h
    omega
  split at h
  · exact hnamed h
  split at h
  · simp only [Option.bind_eq_bind, Option.bind_eq_some_iff] at h
    obtain ⟨tail, -, h⟩ := h
    split at h
    · cases h
    · obtain ⟨inner, -, h⟩ := Option.bind_eq_some_iff.mp h
      split at h <;> cases h
      omega
  split at h
  · next hd hb h0 =>
    subst h0
    simp only [Option.bind_eq_bind, Option.bind_eq_some_iff] at h
    obtain ⟨⟨name, stop⟩, hname, h⟩ := h
    cases h
    exact pos_of_nameAt? hname hi hd hb
  · cases h

/-- The steps from a byte on. -/
def stepsAt? (text : String) (i : Nat) : Option (Except RuleFault (List Segment)) :=
  if _hi : i < text.utf8ByteSize then
    match _h : round? text i with
    | none => none
    | some (.error fault) => some (.error fault)
    | some (.ok (segment, next)) =>
      (stepsAt? text next).map fun rest => do return segment :: (← rest)
  else some (.ok [])
termination_by text.utf8ByteSize - i
decreasing_by
  have := lt_of_round? _h _hi
  omega

theorem stepsAt?_of_ge (hi : text.utf8ByteSize ≤ i) : stepsAt? text i = some (.ok []) := by
  rw [stepsAt?, dif_neg (Nat.not_lt.mpr hi)]

theorem stepsAt?_of_ok {x : Except RuleFault (List Segment)} (hi : i < text.utf8ByteSize)
    (h : round? text i = some (.ok (segment, next))) (hx : stepsAt? text next = some x) :
    stepsAt? text i = some (do return segment :: (← x)) := by
  rw [stepsAt?, dif_pos hi]
  split
  · next he => rw [h] at he; cases he
  · next he => rw [h] at he; cases he
  · next he =>
    rw [h] at he
    cases he
    rw [hx]
    rfl

theorem stepsAt?_of_error {fault : RuleFault} (hi : i < text.utf8ByteSize)
    (h : round? text i = some (.error fault)) : stepsAt? text i = some (.error fault) := by
  rw [stepsAt?, dif_pos hi]
  split
  · next he => rw [h] at he; cases he
  · next he =>
    rw [h] at he
    cases he
    rfl
  · next he => rw [h] at he; cases he

theorem not_head {c : Char} (h : ∀ t, r = c :: t → False) : r.head? ≠ some c := fun hc =>
  let ⟨t, ht⟩ := List.head?_eq_some_iff.mp hc
  h t ht

theorem inner_of_dropWhile {d : Char} (h : r.dropWhile (· != ']') = d :: t) :
    r = r.takeWhile (· != ']') ++ ']' :: t ∧ ']' ∉ r.takeWhile (· != ']') := by
  have hd := List.head?_dropWhile_not (· != ']') r
  rw [h] at hd
  obtain rfl : d = ']' := by simpa using hd
  refine ⟨?_, fun hm => by simpa using List.mem_takeWhile_imp hm⟩
  rw [← h, List.takeWhile_append_dropWhile]

theorem stepsAt?_append {first : Bool} (pre : List Char) (ht : text = String.ofList (pre ++ s))
    (hf : first = pre.isEmpty) : stepsAt? text (utf8Len pre) = some (steps first s) := by
  have hlt {c : Char} {pre r : List Char} (ht : text = String.ofList (pre ++ c :: r)) :
      utf8Len pre < text.utf8ByteSize := by
    have := c.utf8Size_pos
    rw [ht, String.utf8ByteSize_ofList, String.utf8Len_append, String.utf8Len_cons]
    omega
  have hrest {pre r : List Char} (p : Char → Bool) (ht : text = String.ofList (pre ++ r)) :
      text = String.ofList (pre ++ r.takeWhile p ++ r.dropWhile p) := by
    rwa [List.append_assoc, List.takeWhile_append_dropWhile]
  have hmark {pre r : List Char} (mark : List Char)
      (ht : text = String.ofList (pre ++ (mark ++ r))) :
      text = String.ofList (pre ++ mark ++ r) := by rwa [List.append_assoc]
  -- each round starts at the end of `pre`, which holds the characters of the rounds before
  fun_induction steps first s generalizing pre with
  | case1 first =>
    refine stepsAt?_of_ge ?_
    rw [ht, List.append_nil, String.utf8ByteSize_ofList]
  | case2 first c hc t name =>
    rename_i he
    obtain rfl := eq_of_beq hc
    refine stepsAt?_of_error (hlt ht) ?_
    rw [round?_descendant ht, if_pos he]
  | case3 first c hc t name he =>
    rename_i ih
    obtain rfl := eq_of_beq hc
    have hr := hrest (!isStop ·) (hmark ['.', '.'] ht)
    refine stepsAt?_of_ok (hlt ht) ?_ (ih _ hr (by simp))
    rw [round?_descendant ht, if_neg he]
  | case4 first c hc t ih =>
    obtain rfl := eq_of_beq hc
    exact stepsAt?_of_ok (hlt ht) (round?_parts ht) (ih _ (hmark ['.', '*'] ht) (by simp))
  | case5 first c hc r hd hw name =>
    rename_i he
    obtain rfl := eq_of_beq hc
    refine stepsAt?_of_error (hlt ht) ?_
    rw [round?_member ht (not_head hd) (not_head hw), if_pos he]
  | case6 first c hc r hd hw name he =>
    rename_i ih
    obtain rfl := eq_of_beq hc
    have hr := hrest (!isStop ·) (hmark ['.'] ht)
    refine stepsAt?_of_ok (hlt ht) ?_ (ih _ hr (by simp))
    rw [round?_member ht (not_head hd) (not_head hw), if_neg he]
  | case7 first c r hd hc h =>
    obtain rfl := eq_of_beq hc
    refine stepsAt?_of_error (hlt ht) (round?_unclosed ht fun hm => ?_)
    simpa using List.dropWhile_eq_nil_iff.mp h _ hm
  | case8 first c r hd hc inner d t h =>
    rename_i hb
    obtain rfl := eq_of_beq hc
    obtain ⟨hr, hi⟩ := inner_of_dropWhile h
    refine stepsAt?_of_error (hlt ht) ?_
    rw [hr] at ht
    rw [round?_bracket ht hi, hb]
  | case9 first c r hd hc inner d t h segment hb =>
    rename_i ih
    obtain rfl := eq_of_beq hc
    obtain ⟨hr, hi⟩ := inner_of_dropWhile h
    have ht' := ht
    rw [hr] at ht'
    refine stepsAt?_of_ok (hlt ht) ((round?_bracket ht' hi).trans (by rw [hb])) (ih _ ?_ (by simp))
    simpa using ht'
  | case10 c r hd hb ih =>
    obtain rfl : pre = [] := by simpa using hf.symm
    have hc : isStop c = false := by simpa [isStop] using And.intro hd hb
    have hround := round?_bare ht hc
    rw [List.takeWhile_cons_of_pos (by simp [hc])] at hround
    have hr := hrest (!isStop ·) (hmark [c] ht)
    exact stepsAt?_of_ok (hlt ht) hround (ih _ hr (by simp))
  | case11 first c r hd hb hn =>
    have hc : isStop c = false := by simpa [isStop] using And.intro hd hb
    exact stepsAt?_of_error (hlt ht) (round?_unexpected ht hc (by simpa [hf] using hn))

def scan? (text : String) : Option (Except Error Path) :=
  let s := trim text.toList
  (stepsAt? (String.ofList (body s)) 0).map fun
    | .ok segments => .ok ⟨segments⟩
    | .error fault => .error (.invalidRule (String.ofList s) fault)

theorem scan?_eq (text : String) : scan? text = some (parse text) := by
  have h : stepsAt? (String.ofList (body (trim text.toList))) 0 = _ :=
    stepsAt?_append [] rfl rfl
  rw [scan?, h, parse_eq]
  rfl

end Catalog.Json.Path
