import Mathlib.Algebra.GroupWithZero.Nat
import Mathlib.Data.String.Basic
import Catalog.Json.Written
import Catalog.Proofs.Json.Place

/-! # Sizes of what is read

The strings that are read from a JSON text have no more bytes together than the text. An escape
takes at least as many bytes as what it stands for, and a tree has no strings but those of the
tokens that it is read from.
-/

namespace Catalog.Json

open String (utf8Len)

variable {s t rest : List Char}

theorem length_le_utf8Len (s : List Char) : s.length ≤ utf8Len s := by
  induction s with
  | nil => exact Nat.le_refl 0
  | cons c s ih => exact Nat.add_le_add ih c.utf8Size_pos

def textSize (s : Option (List Char)) : Nat := utf8Len (s.getD [])

/-- The most bytes that a step inside a string adds to its text. -/
def StringStep.size : StringStep → Nat
  | .close => 0
  | .plain c => c.utf8Size
  | .unit _ => 4

theorem utf8Size_of_shortEscape? {c d : Char} (h : shortEscape? c = some d) : d.utf8Size = 1 := by
  unfold shortEscape? at h
  split at h <;> cases h
  all_goals rfl

theorem stringStep_size {step : StringStep} (h : stringStep s = some (step, rest)) :
    step.size + utf8Len rest ≤ utf8Len s := by
  unfold stringStep at h
  split at h
  · cases h
    simp [StringStep.size]
  · next a b c d r =>
    obtain ⟨n, -, hn⟩ := Option.map_eq_some_iff.mp h
    cases hn
    have hl : (['\\', 'u', a, b, c, d]).length ≤ utf8Len ['\\', 'u', a, b, c, d] :=
      length_le_utf8Len _
    simp only [StringStep.size, String.utf8Len_cons, String.utf8Len_nil, List.length_cons,
      List.length_nil] at hl ⊢
    omega
  · next c r _ =>
    obtain ⟨d, hd, he⟩ := Option.map_eq_some_iff.mp h
    cases he
    have hs := utf8Size_of_shortEscape? hd
    have hc := c.utf8Size_pos
    simp only [StringStep.size, String.utf8Len_cons, hs]
    omega
  · split at h <;> cases h
    simp only [StringStep.size, String.utf8Len_cons]
    omega
  · cases h

namespace Quoted

def size (q : Quoted) : Nat := textSize q.text

theorem size_map_cons (text : Option (List Char)) (c : Char) (high : Option Nat) :
    size ⟨text.map (c :: ·), high⟩ ≤ textSize text + c.utf8Size := by
  cases text with
  | none => exact Nat.zero_le _
  | some s => simp [size, textSize]

theorem size_put (q : Quoted) (c : Char) : (q.put c).size ≤ q.size + c.utf8Size := by
  unfold put
  split
  · exact size_map_cons q.text c _
  · exact Nat.zero_le _

theorem size_putUnit (q : Quoted) (n : Nat) : (q.putUnit n).size ≤ q.size + 4 := by
  have hc (c : Char) : q.size + c.utf8Size ≤ q.size + 4 :=
    Nat.add_le_add_left c.utf8Size_le_four _
  unfold putUnit
  split
  · split
    · exact Nat.le_trans (size_map_cons q.text _ _) (hc _)
    · exact Nat.zero_le _
  · split
    · exact Nat.le_add_right _ _
    · split
      · exact Nat.zero_le _
      · exact Nat.le_trans (q.size_put _) (hc _)

theorem textSize_finish (q : Quoted) : textSize q.finish ≤ q.size := by
  unfold finish
  split
  · exact Nat.zero_le _
  · cases h : q.text with
    | none => exact Nat.zero_le _
    | some s => simp [size, textSize, h]

end Quoted

theorem scanString_size {n : Nat} {q : Quoted} {text : Option (List Char)}
    (h : scanString n q s = some (text, rest)) :
    textSize text + utf8Len rest ≤ q.size + utf8Len s := by
  induction n generalizing q s with
  | zero => cases h
  | succ n ih =>
    rw [scanString] at h
    split at h
    · cases h
    · next r hs =>
      cases h
      exact Nat.add_le_add q.textSize_finish (Nat.le_of_add_left_le (stringStep_size hs))
    · next c r hs =>
      have hq := q.size_put c
      have hr : c.utf8Size + utf8Len r ≤ utf8Len s := stringStep_size hs
      have := ih h
      omega
    · next u r hs =>
      have hq := q.size_putUnit u
      have hr : 4 + utf8Len r ≤ utf8Len s := stringStep_size hs
      have := ih h
      omega

namespace Numeral

theorem spanDigits_suffix (s : List Char) : (spanDigits s).2 <:+ s := by
  induction s with
  | nil => exact List.suffix_rfl
  | cons c r ih =>
    rw [spanDigits]
    split
    · exact ih.trans (List.suffix_cons c r)
    · exact List.suffix_rfl

theorem scan_suffix {n : Numeral} (h : scan s = some (n, rest)) : rest <:+ s := by
  unfold scan at h
  -- the sign, the digits before the point and those behind it
  split at h
  next _ unsigned hu =>
  have hs : unsigned <:+ s := by
    split at hu <;> cases hu
    · exact List.suffix_cons _ _
    · exact List.suffix_rfl
  refine List.IsSuffix.trans ?_ hs
  have hw := spanDigits_suffix unsigned
  split at h
  next whole behind he =>
  rw [he] at hw
  refine List.IsSuffix.trans ?_ hw
  split at h
  · cases h
  split at h
  next _ fraction tail hf =>
  have hp : tail <:+ behind := by
    split at hf
    · next r =>
      cases hf
      exact (spanDigits_suffix r).trans (List.suffix_cons _ _)
    · cases hf
      exact List.suffix_rfl
  refine List.IsSuffix.trans ?_ hp
  split at h
  · cases h
  -- the exponent
  split at h
  · next c r =>
    split at h
    · split at h
      next down digits hd =>
      have he : digits <:+ r := by
        split at hd <;> cases hd
        · exact List.suffix_cons _ _
        · exact List.suffix_cons _ _
        · exact List.suffix_rfl
      dsimp only at h
      split at h <;> cases h
      exact ((spanDigits_suffix digits).trans he).trans (List.suffix_cons c r)
    · cases h
      exact List.suffix_rfl
  · cases h
    exact List.suffix_rfl

end Numeral

def Token.size : Token → Nat
  | .string s => textSize s
  | _ => 0

theorem Token.scan_size {fuel : Nat} {token : Token} (h : Token.scan fuel s = some (token, rest)) :
    token.size + utf8Len rest ≤ utf8Len s := by
  unfold Token.scan at h
  split at h
  case h_7 r =>
    obtain ⟨⟨text, t⟩, hs, he⟩ := Option.map_eq_some_iff.mp h
    cases he
    have := scanString_size hs
    exact Nat.le_trans (Nat.zero_add (utf8Len r) ▸ this) (Nat.le_add_right _ _)
  case h_11 =>
    obtain ⟨⟨n, t⟩, hs, he⟩ := Option.map_eq_some_iff.mp h
    cases he
    simpa [Token.size] using String.utf8Len_le_of_suffix (Numeral.scan_suffix hs)
  all_goals
    cases h
    simp only [Token.size, String.utf8Len_cons]
    omega

mutual

def Written.size : Written → Nat
  | .string s => textSize s
  | .array items => sizeItems items
  | .object members => sizeMembers members
  | _ => 0

def sizeItems : List Written → Nat
  | [] => 0
  | v :: rest => v.size + sizeItems rest

def sizeMembers : List (Option (List Char) × Written) → Nat
  | [] => 0
  | (name, v) :: rest => textSize name + v.size + sizeMembers rest

end

theorem sizeItems_append (items more : List Written) :
    sizeItems (items ++ more) = sizeItems items + sizeItems more := by
  induction items with
  | nil => exact (Nat.zero_add _).symm
  | cons v items ih => simp only [List.cons_append, sizeItems, ih, Nat.add_assoc]

theorem sizeItems_reverse (items : List Written) : sizeItems items.reverse = sizeItems items := by
  induction items with
  | nil => rfl
  | cons v items ih =>
    simp only [List.reverse_cons, sizeItems_append, sizeItems, ih]
    omega

theorem sizeMembers_append (members more : List (Option (List Char) × Written)) :
    sizeMembers (members ++ more) = sizeMembers members + sizeMembers more := by
  induction members with
  | nil => exact (Nat.zero_add _).symm
  | cons m members ih => simp only [List.cons_append, sizeMembers, ih, Nat.add_assoc]

theorem sizeMembers_reverse (members : List (Option (List Char) × Written)) :
    sizeMembers members.reverse = sizeMembers members := by
  induction members with
  | nil => rfl
  | cons m members ih =>
    simp only [List.reverse_cons, sizeMembers_append, sizeMembers, ih]
    omega

def Container.size : Container → Nat
  | .array items => sizeItems items
  | .object members key => sizeMembers members + textSize key

def Expected.size : Expected → Nat
  | .value _ => 0
  | .name members _ => sizeMembers members
  | .colon members key => sizeMembers members + textSize key
  | .separator v => v.size

namespace Progress

def size (p : Progress) : Nat := (p.open_.map Container.size).sum + p.expected.size

theorem start_size {open_ : List Container} {t : Token} {q : Progress}
    (h : start open_ t = some q) : q.size = (open_.map Container.size).sum + t.size := by
  unfold start at h
  split at h <;> cases h
  all_goals simp [size, Expected.size, Container.size, Written.size, Token.size, sizeItems,
    sizeMembers]

theorem step_size {p q : Progress} {t : Token} (h : p.step t = some q) :
    q.size = p.size + t.size := by
  obtain ⟨open_, expected⟩ := p
  unfold step at h
  split at h
  case h_1 hv =>
    cases hv
    split at h
    · next ho =>
      cases ho
      split at h <;> cases h
      simp [size, Expected.size, Container.size, Written.size, Token.size, sizeItems]
    · exact start_size h
  case h_2 hn =>
    cases hn
    split at h
    · cases h
      simp [size, Expected.size, Token.size, Nat.add_assoc]
    · split at h <;> cases h
      simp [size, Expected.size, Written.size, Token.size, sizeMembers_reverse]
    · cases h
  case h_3 hc =>
    cases hc
    split at h <;> cases h
    simp [size, Expected.size, Container.size, Token.size, Nat.add_comm]
  case h_4 v hs =>
    cases hs
    split at h
    case h_5 => cases h
    all_goals
      next ho =>
      cases ho
      cases h
      simp only [size, Expected.size, Container.size, Written.size, Token.size, sizeItems,
        sizeMembers, sizeItems_reverse, sizeMembers_reverse, List.map_cons, List.sum_cons]
      omega

theorem size_of_finish {p : Progress} {w : Written} (h : p.finish = some w) : w.size = p.size := by
  obtain ⟨open_, expected⟩ := p
  unfold finish at h
  split at h
  · next ho he =>
    cases h
    cases ho
    cases he
    exact (Nat.zero_add _).symm
  · cases h

/-- What is read has no more bytes than what was read before and the text together. -/
theorem size_of_readTokens {fuel : Nat} {p : Progress} {w : Written}
    (h : readTokens fuel p s = some w) : w.size ≤ p.size + utf8Len s := by
  induction fuel generalizing p s with
  | zero => cases h
  | succ fuel ih =>
    have hs : utf8Len (s.dropWhile isSpace) ≤ utf8Len s :=
      String.utf8Len_le_of_suffix (List.dropWhile_suffix isSpace)
    rw [readTokens] at h
    split at h
    · exact size_of_finish h ▸ Nat.le_add_right _ _
    · next c r he =>
      rw [he] at hs
      split at h
      · cases h
      · next t rest ht =>
        split at h
        · cases h
        · next q hq =>
          have := ih h
          have := Token.scan_size ht
          have := step_size hq
          omega

end Progress

theorem Written.size_of_parse? {w : Written} (h : Written.parse? s = some w) :
    w.size ≤ utf8Len s := by
  have := Progress.size_of_readTokens h
  rwa [show (({} : Progress)).size = 0 from rfl, Nat.zero_add] at this

theorem Written.size_of_value? {w : Written} {value : String}
    (h : w.value? = some (.string value)) : value.utf8ByteSize = w.size := by
  cases w with
  | null | bool => cases h
  | number | array | object =>
    rw [value?, Option.map_eq_some_iff] at h
    obtain ⟨_, -, h⟩ := h
    cases h
  | string s =>
    rw [value?, Option.map_eq_some_iff] at h
    obtain ⟨s, rfl, h⟩ := h
    cases h
    exact String.utf8ByteSize_ofList s

theorem size_of_mem_memberValues? {members : List (Option (List Char) × Written)}
    {values : List (String × Value)} (h : Written.memberValues? members = some values)
    {name value : String} (hm : (name, .string value) ∈ values) :
    value.utf8ByteSize ≤ sizeMembers members := by
  induction members generalizing values with
  | nil =>
    cases h
    cases hm
  | cons m members ih =>
    obtain ⟨text, w⟩ := m
    unfold Written.memberValues? at h
    split at h
    · next hv hr =>
      cases h
      rw [sizeMembers]
      rcases List.mem_cons.mp hm with he | hm
      · cases he
        have := Written.size_of_value? hv
        omega
      · have := ih hr hm
        omega
    · cases h

/-- A text in an object has no more bytes than the text that the object is read from. -/
theorem Value.size_of_parse? {members : List (String × Value)}
    (h : Value.parse? s = some (.object members)) {name value : String}
    (hm : (name, .string value) ∈ members) : value.utf8ByteSize ≤ utf8Len s := by
  obtain ⟨w, hw, hv⟩ := Option.bind_eq_some_iff.mp h
  refine Nat.le_trans ?_ (Written.size_of_parse? hw)
  unfold Written.toValue? at hv
  split at hv
  · cases hv
  · cases w with
    | null | bool => cases hv
    | number | array | string =>
      rw [Written.value?, Option.map_eq_some_iff] at hv
      obtain ⟨_, -, hv⟩ := hv
      cases hv
    | object written =>
      rw [Written.value?, Option.map_eq_some_iff] at hv
      obtain ⟨values, hvs, he⟩ := hv
      cases he
      exact size_of_mem_memberValues? hvs (mem_of_mem_sortMembers hm)

end Catalog.Json
