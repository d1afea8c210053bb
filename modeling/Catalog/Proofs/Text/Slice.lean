import Mathlib.Data.String.Basic
import Catalog.Proofs.Text.Cut

/-! # Texts by their bytes

A text that is scanned byte by byte is cut at places that are counted in bytes, and there is nothing
to cut at a place inside a character. The marks that are looked for are of ASCII, and all bytes of
any other character are above those of ASCII: where a mark starts, a character starts.
-/

namespace Catalog.Text

open String (utf8Len)

def bytes (text : String) : List UInt8 := text.toUTF8.data.toList

/-- The part of a text between two places that are counted in bytes. There is none unless they are
in order, within the text and at the borders of characters. -/
def slice? (text : String) (i j : Nat) : Option String :=
  if i ≤ j ∧ String.Pos.Raw.IsValid text ⟨i⟩ ∧ String.Pos.Raw.IsValid text ⟨j⟩ then
    some (String.Pos.Raw.extract text ⟨i⟩ ⟨j⟩)
  else none

def encode (s : List Char) : List UInt8 := s.flatMap String.utf8EncodeChar

def starts (mark : List Char) (bs : List UInt8) : Bool := (encode mark).isPrefixOf bs

def offset? (p : Char → Bool) : List Char → Option Nat
  | [] => none
  | c :: r => if p c then some 0 else (offset? p r).map (· + c.utf8Size)

/-- What stands behind a mark in letters of any case, if the text starts with it. There is no answer
if more is sliced than the text has, or a character is. -/
def dropMark? (mark text : String) : Option (Option String) :=
  match slice? text 0 mark.utf8ByteSize with
  | none => some none
  | some head =>
    if head.toList.map Char.toLower = mark.toList.map Char.toLower then
      (slice? text mark.utf8ByteSize text.utf8ByteSize).map some
    else some none

variable {s t a b mark rest : List Char} {text part : String} {c : Char} {i j : Nat}
  {p : Char → Bool}

theorem slice?_append (a t b : List Char) :
    slice? (String.ofList (a ++ t ++ b)) (utf8Len a) (utf8Len a + utf8Len t) =
      some (String.ofList t) := by
  have hv (x y : List Char) :
      String.Pos.Raw.IsValid (String.ofList (x ++ y)) ⟨utf8Len x⟩ := by
    refine String.Pos.Raw.isValid_iff_exists_append.mpr ⟨.ofList x, .ofList y, ?_, ?_⟩
    · rw [String.ofList_append]
    · rw [String.rawEndPos_ofList]
  have hi := hv a (t ++ b)
  have hj := hv (a ++ t) b
  rw [← List.append_assoc] at hi
  rw [String.utf8Len_append] at hj
  rw [slice?, if_pos ⟨Nat.le_add_right _ _, hi, hj⟩, String.extract_of_valid]

theorem exists_append_of_isValid (h : String.Pos.Raw.IsValid text ⟨i⟩) :
    ∃ a b, text = String.ofList (a ++ b) ∧ i = utf8Len a := by
  obtain ⟨a, b, rfl, hi⟩ := String.Pos.Raw.isValid_iff_exists_append.mp h
  refine ⟨a.toList, b.toList, ?_, ?_⟩
  · rw [String.ofList_append, String.ofList_toList, String.ofList_toList]
  · rw [String.utf8Len_toList]
    exact congrArg String.Pos.Raw.byteIdx hi

/-- A slice is a part of the text, from the place where it starts to the place where it ends. -/
theorem slice?_eq_some_iff : slice? text i j = some part ↔
    ∃ a b, text = String.ofList (a ++ part.toList ++ b) ∧ i = utf8Len a ∧
      j = utf8Len a + utf8Len part.toList := by
  constructor
  · intro h
    rw [slice?] at h
    split at h
    · next hv =>
      obtain ⟨hle, hi, hj⟩ := hv
      obtain ⟨a, rest, ha, rfl⟩ := exists_append_of_isValid hi
      obtain ⟨front, b, rfl, rfl⟩ := exists_append_of_isValid hj
      obtain ⟨t, rfl⟩ : ∃ t, front = a ++ t := by
        rcases List.append_eq_append_iff.mp (String.ofList_inj.mp ha) with ⟨t, hf, -⟩ | ⟨t, hf, -⟩
        · -- then nothing stands between the two places
          obtain rfl : t = [] := by
            rw [hf, String.utf8Len_append] at hle
            exact String.utf8Len_eq_zero.mp (by omega)
          exact ⟨[], by rw [hf, List.append_nil, List.append_nil]⟩
        · exact ⟨t, hf⟩
      rw [String.utf8Len_append, String.extract_of_valid] at h
      cases h
      refine ⟨a, b, by rw [String.toList_ofList], rfl, ?_⟩
      rw [String.toList_ofList, String.utf8Len_append]
    · cases h
  · rintro ⟨a, b, rfl, rfl, rfl⟩
    rw [slice?_append, String.ofList_toList]

theorem le_of_slice? (h : slice? text i j = some part) : i ≤ j ∧ j ≤ text.utf8ByteSize := by
  obtain ⟨a, b, rfl, rfl, rfl⟩ := slice?_eq_some_iff.mp h
  rw [String.utf8ByteSize_ofList, String.utf8Len_append, String.utf8Len_append]
  omega

theorem slice?_drop (a b : List Char) :
    slice? (String.ofList (a ++ b)) (utf8Len a) (utf8Len (a ++ b)) = some (String.ofList b) := by
  have h := slice?_append a b []
  rwa [List.append_nil, ← String.utf8Len_append] at h

theorem offset?_append (ht : ∀ d ∈ t, p d = false) (hc : p c = true) :
    offset? p (t ++ c :: b) = some (utf8Len t) := by
  induction t with
  | nil => rw [List.nil_append, offset?, if_pos hc]; rfl
  | cons d t ih =>
    obtain ⟨hd, ht⟩ := List.forall_mem_cons.mp ht
    rw [List.cons_append, offset?, if_neg (by simp [hd]), ih ht]
    rfl

theorem offset?_eq_none (h : ∀ d ∈ s, p d = false) : offset? p s = none := by
  induction s with
  | nil => rfl
  | cons d s ih =>
    obtain ⟨hd, hs⟩ := List.forall_mem_cons.mp h
    rw [offset?, if_neg (by simp [hd]), ih hs]
    rfl

theorem bytes_ofList (s : List Char) : bytes (String.ofList s) = encode s := by
  rw [bytes, String.toUTF8_eq_toByteArray, String.toByteArray_ofList, List.utf8Encode,
    List.data_toByteArray, encode]

theorem encode_append (s t : List Char) : encode (s ++ t) = encode s ++ encode t :=
  List.flatMap_append

theorem length_encode (s : List Char) : (encode s).length = utf8Len s := by
  induction s with
  | nil => rfl
  | cons c s ih =>
    rw [encode, List.flatMap_cons, List.length_append, String.length_utf8EncodeChar, ← encode, ih,
      String.utf8Len_cons, Nat.add_comm]

theorem length_bytes (text : String) : (bytes text).length = text.utf8ByteSize := by
  rw [← String.ofList_toList (s := text), bytes_ofList, length_encode, String.utf8ByteSize_ofList]

theorem drop_encode (a b : List Char) : (encode (a ++ b)).drop (utf8Len a) = encode b := by
  rw [encode_append, ← length_encode, List.drop_left]

theorem starts_encode (mark s : List Char) : starts mark (encode s) = mark.isPrefixOf s := by
  rw [Bool.eq_iff_iff, starts, List.isPrefixOf_iff_prefix, List.isPrefixOf_iff_prefix]
  constructor
  · rintro ⟨rest, h⟩
    refine List.isPrefix_of_utf8Encode_append_eq_utf8Encode rest.toByteArray ?_
    rw [List.utf8Encode, List.utf8Encode, ← List.toByteArray_append]
    exact congrArg List.toByteArray h
  · rintro ⟨rest, rfl⟩
    exact ⟨encode rest, (encode_append mark rest).symm⟩

theorem encode_cons_of_lt (h : c.toNat < 128) (s : List Char) :
    encode (c :: s) = UInt8.ofNat c.toNat :: encode s := by
  have hc : String.utf8EncodeChar c = [UInt8.ofNat c.toNat] := if_pos (Nat.le_of_lt_succ h)
  rw [encode, List.flatMap_cons, hc]
  rfl

/-- All bytes of a character that is not of ASCII are above those that are. -/
theorem utf8EncodeChar_ge (h : 128 ≤ c.toNat) {byte : UInt8} (hb : byte ∈ String.utf8EncodeChar c) :
    128 ≤ byte.toNat := by
  have hc : ¬c.val.toNat ≤ 0x7f := Nat.not_le.mpr h
  unfold String.utf8EncodeChar at hb
  simp only [hc, if_false] at hb
  split at hb
  · simp only [List.mem_cons, List.not_mem_nil, or_false] at hb
    rcases hb with rfl | rfl <;> simp <;> omega
  · split at hb
    · simp only [List.mem_cons, List.not_mem_nil, or_false] at hb
      rcases hb with rfl | rfl | rfl <;> simp <;> omega
    · simp only [List.mem_cons, List.not_mem_nil, or_false] at hb
      rcases hb with rfl | rfl | rfl | rfl <;> simp <;> omega

theorem starts_of_ge {byte : UInt8} (hb : 128 ≤ byte.toNat) (hc : c.toNat < 128)
    (bs : List UInt8) : starts (c :: mark) (byte :: bs) = false := by
  have hn : (UInt8.ofNat c.toNat == byte) = false := by
    refine beq_eq_false_iff_ne.mpr ?_
    rintro rfl
    rw [UInt8.toNat_ofNat'] at hb
    omega
  rw [starts, encode_cons_of_lt hc, List.isPrefixOf, hn, Bool.false_and]

theorem utf8Size_toLower (c : Char) : c.toLower.utf8Size = c.utf8Size := by
  unfold Char.toLower
  split
  · next h =>
    have hc : c.val ≤ 90 := h.2
    rw [Char.utf8Size_eq_one_iff.mpr, Char.utf8Size_eq_one_iff.mpr]
    · rw [UInt32.le_iff_toNat_le] at hc ⊢
      exact hc.trans (by decide)
    · rw [UInt32.le_iff_toNat_le] at hc ⊢
      simp only [UInt32.toNat_add] at hc ⊢
      simp at hc ⊢
      omega
  · rfl

theorem utf8Len_map_toLower (s : List Char) : utf8Len (s.map Char.toLower) = utf8Len s := by
  induction s with
  | nil => rfl
  | cons c s ih =>
    rw [List.map_cons, String.utf8Len_cons, String.utf8Len_cons, ih, utf8Size_toLower]

theorem exists_of_dropStartAnyCase? (h : dropStartAnyCase? mark s = some rest) :
    ∃ t, s = t ++ rest ∧ t.map Char.toLower = mark := by
  induction s generalizing mark with
  | nil =>
    cases mark with
    | nil => cases h; exact ⟨[], rfl, rfl⟩
    | cons m mark => cases h
  | cons c s ih =>
    cases mark with
    | nil => cases h; exact ⟨[], rfl, rfl⟩
    | cons m mark =>
      rw [dropStartAnyCase?] at h
      split at h
      · next hc =>
        obtain ⟨t, rfl, rfl⟩ := ih h
        exact ⟨c :: t, rfl, by rw [List.map_cons, eq_of_beq hc]⟩
      · cases h

theorem dropMark?_eq (mark text : String) : dropMark? mark text =
    some ((dropStartAnyCase? (mark.toList.map Char.toLower) text.toList).map String.ofList) := by
  cases hd : dropStartAnyCase? (mark.toList.map Char.toLower) text.toList with
  | some rest =>
    obtain ⟨t, ht, hm⟩ := exists_of_dropStartAnyCase? hd
    have hl : mark.utf8ByteSize = utf8Len t := by
      rw [← String.utf8Len_toList, ← utf8Len_map_toLower, ← hm, utf8Len_map_toLower]
    obtain rfl : text = String.ofList (t ++ rest) := by rw [← ht, String.ofList_toList]
    have hs := slice?_append [] t rest
    rw [List.nil_append, String.utf8Len_nil, Nat.zero_add] at hs
    simp only [dropMark?, hl, hs, String.toList_ofList, hm, if_true, String.utf8ByteSize_ofList,
      slice?_drop, Option.map_some]
  | none =>
    rw [dropMark?]
    split
    · rfl
    · next head hs =>
      obtain ⟨a, b, rfl, ha, -⟩ := slice?_eq_some_iff.mp hs
      obtain rfl := String.utf8Len_eq_zero.mp ha.symm
      rw [if_neg]
      · rfl
      · intro hm
        rw [String.toList_ofList, List.nil_append, dropStartAnyCase?_append hm] at hd
        cases hd

end Catalog.Text
