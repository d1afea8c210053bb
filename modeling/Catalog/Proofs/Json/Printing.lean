import Catalog.Json.Printer
import Catalog.Proofs.Json.Grammar

/-! # Reading printed values back

A printed value is a text of the grammar, and the tree that it is has the same shape. So it is read
back as that tree.
-/

namespace Catalog.Json

variable {rest : List Char}

namespace Quoted

/-- A text of which nothing is lost and that waits for nothing. -/
def whole (s : List Char) : Quoted := ⟨some s.reverse, none⟩

theorem put_whole (s : List Char) (c : Char) : (whole s).put c = whole (s ++ [c]) := by
  simp [whole, put]

theorem putUnit_whole (s : List Char) {n : Nat} (h : n < 0x20) :
    (whole s).putUnit n = whole (s ++ [Char.ofNat n]) := by
  have hh : isHighUnit n = false := by
    simp only [isHighUnit, Bool.and_eq_false_iff, decide_eq_false_iff_not]
    omega
  have hl : isLowUnit n = false := by
    simp only [isLowUnit, Bool.and_eq_false_iff, decide_eq_false_iff_not]
    omega
  rw [← put_whole]
  simp [putUnit, whole, hh, hl]

theorem finish_whole (s : List Char) : (whole s).finish = some s := by
  simp [whole, finish]

end Quoted

theorem hexDigit?_hexDigit : ∀ n < 16, hexDigit? (hexDigit n) = some n := by decide

theorem unit?_hexDigit {n : Nat} (h : n < 0x100) :
    unit? '0' '0' (hexDigit (n / 16)) (hexDigit (n % 16)) = some n := by
  have h₁ := hexDigit?_hexDigit (n / 16) (by omega)
  have h₂ := hexDigit?_hexDigit (n % 16) (by omega)
  have h₀ : hexDigit? '0' = some 0 := rfl
  simp only [unit?, h₀, h₁, h₂, Option.bind_eq_bind, Option.bind_some, Option.some.injEq]
  omega

def shortEscaped : List Char := ['"', '\\', '\x08', '\t', '\n', '\x0c', '\r']

/-- A printed character is a single step, the character itself or a control character by number. -/
theorem stringStep_escapeChar (c : Char) :
    stringStep (escapeChar c ++ rest) = some (.plain c, rest) ∨
      c.toNat < 0x20 ∧ stringStep (escapeChar c ++ rest) = some (.unit c.toNat, rest) := by
  by_cases hs : c ∈ shortEscaped
  · left
    simp only [shortEscaped, List.mem_cons, List.not_mem_nil, or_false] at hs
    rcases hs with rfl | rfl | rfl | rfl | rfl | rfl | rfl <;> rfl
  · simp only [shortEscaped, List.mem_cons, List.not_mem_nil, or_false, not_or] at hs
    simp only [escapeChar, beq_iff_eq, hs, if_false]
    by_cases hc : c.toNat < 0x20
    · right
      refine ⟨hc, ?_⟩
      rw [if_pos hc]
      change (unit? '0' '0' (hexDigit (c.toNat / 16)) (hexDigit (c.toNat % 16))).map _ = _
      rw [unit?_hexDigit (by omega)]
      rfl
    · left
      rw [if_neg hc]
      exact stringStep_plain hs.1 hs.2.1 hc

theorem scanString_escapeChar (n : Nat) (s : List Char) (c : Char) :
    scanString (n + 1) (.whole s) (escapeChar c ++ rest) =
      scanString n (.whole (s ++ [c])) rest := by
  rw [scanString]
  rcases stringStep_escapeChar c with h | ⟨hc, h⟩ <;> rw [h]
  · simp only [Quoted.put_whole]
  · simp only [Quoted.putUnit_whole s hc, Char.ofNat_toNat]

theorem scanString_unclosed {c : Char} (hq : c ≠ '"') (hb : c ≠ '\\') (hc : ¬c.toNat < 0x20)
    (n : Nat) (s t : List Char) :
    scanString n (.whole s) (t.flatMap escapeChar ++ [c]) = none := by
  induction t generalizing n s with
  | nil =>
    have hs : stringStep [c] = some (.plain c, []) := stringStep_plain hq hb hc
    cases n with
    | zero => rfl
    | succ n =>
      rw [List.flatMap_nil, List.nil_append, scanString, hs]
      cases n <;> rfl
  | cons d t ih =>
    cases n with
    | zero => rfl
    | succ n => rw [List.flatMap_cons, List.append_assoc, scanString_escapeChar, ih]

theorem Quoted.Spells.of_escapeChar {done t : List Char} {c : Char} {s : Option (List Char)}
    (h : (whole (done ++ [c])).Spells t s) : (whole done).Spells (escapeChar c ++ t) s := by
  rcases @stringStep_escapeChar t c with hs | ⟨hc, hs⟩
  · exact .of_plain hs (put_whole done c ▸ h)
  · refine .of_unit hs ?_
    rwa [putUnit_whole done hc, Char.ofNat_toNat]

theorem Quoted.spells_quote (done t : List Char) :
    (whole done).Spells (t.flatMap escapeChar ++ ['"']) (some (done ++ t)) := by
  induction t generalizing done with
  | nil =>
    have h := Spells.close (whole done)
    rw [finish_whole] at h
    rwa [List.append_nil]
  | cons c t ih =>
    have h := ih (done ++ [c])
    rw [List.append_assoc, List.singleton_append] at h
    rw [List.flatMap_cons, List.append_assoc]
    exact .of_escapeChar h

def Numeral.ofInt (n : Int) : Numeral := ⟨decide (n < 0), digitsOf n.natAbs, [], none⟩

theorem isDigit_of_mem_digitsOf {n : Nat} {c : Char} (h : c ∈ digitsOf n) : c.isDigit = true :=
  Nat.isDigit_of_mem_toDigits (by decide) (by decide) h

theorem head?_digitsOf {n : Nat} (h : (digitsOf n).head? = some '0') : digitsOf n = ['0'] := by
  unfold digitsOf at h ⊢
  induction n using Nat.strongRecOn with
  | ind n ih =>
    rw [Nat.toDigits_eq_if (by decide)] at h ⊢
    split at h
    · rename_i hn
      rw [if_pos hn]
      simpa using h
    · rename_i hn
      rw [List.head?_append_of_ne_nil _ Nat.toDigits_ne_nil] at h
      have hz := ih (n / 10) (by omega) h
      have hv := congrArg (Nat.ofDigitChars 10 · 0) hz
      simp only [Nat.ofDigitChars_toDigits (by decide : 1 < 10) (Nat.le_refl 10)] at hv
      have : Nat.ofDigitChars 10 ['0'] 0 = 0 := rfl
      omega

namespace Numeral

theorem spells_renderInt (n : Int) : (ofInt n).Spells (renderInt n) where
  whole := ⟨Nat.toDigits_ne_nil, fun _ h => isDigit_of_mem_digitsOf h⟩
  zero := head?_digitsOf
  fraction _ h := nomatch h
  exponent := by
    refine ⟨[], .none, ?_⟩
    unfold renderInt mantissa ofInt
    by_cases hn : n < 0 <;> simp [hn]

theorem absorb_eq {word : Nat} {ds : List Char}
    (h : Nat.ofDigitChars 10 ds word < 0x10000000000000000) :
    absorb word ds = (Nat.ofDigitChars 10 ds word, []) := by
  induction ds generalizing word with
  | nil => rfl
  | cons c ds ih =>
    rw [Nat.ofDigitChars_cons] at h ⊢
    have hw : 10 * word + digitValue c < 0x10000000000000000 := by
      refine Nat.lt_of_le_of_lt ?_ h
      rw [Nat.ofDigitChars_eq_ofDigitChars_zero]
      exact Nat.le_add_right_of_le (Nat.le_mul_of_pos_left _ (Nat.pow_pos (by decide)))
    simp only [absorb, if_pos hw]
    exact ih h

theorem toNumber?_ofInt {n : Int} (h : -0x8000000000000000 ≤ n) (h' : n < 0x10000000000000000) :
    (ofInt n).toNumber? = some (.int n) := by
  have hw : absorb 0 (digitsOf n.natAbs) = (n.natAbs, []) := by
    have hd : Nat.ofDigitChars 10 (digitsOf n.natAbs) 0 = n.natAbs := Nat.ofDigitChars_ten_toDigits
    rw [absorb_eq (by omega), hd]
  unfold toNumber? ofInt
  simp only [hw]
  by_cases hn : n < 0
  · have hz : n.natAbs ≠ 0 := by omega
    have hl : n.natAbs ≤ 0x8000000000000000 := by omega
    have ha : -(n.natAbs : Int) = n := by omega
    simp only [hn, hz, hl, ha, decide_true, List.isEmpty_nil, Option.isNone_none, Bool.and_self,
      Bool.not_true, beq_iff_eq, Bool.false_eq_true, if_true, if_false]
  · have ha : (n.natAbs : Int) = n := by omega
    simp only [hn, ha, decide_false, List.isEmpty_nil, Option.isNone_none, Bool.and_self,
      Bool.not_false, if_true]

end Numeral

mutual

def Value.Whole : Value → Prop
  | .number (.float _) => False
  | .array items => WholeItems items
  | .object members => WholeMembers members
  | _ => True

def WholeItems : List Value → Prop
  | [] => True
  | v :: rest => v.Whole ∧ WholeItems rest

def WholeMembers : List (String × Value) → Prop
  | [] => True
  | m :: rest => m.2.Whole ∧ WholeMembers rest

end

mutual

/-- The tree that a value is printed as, if its numbers are integers. -/
def Value.written : Value → Written
  | .null => .null
  | .bool b => .bool b
  | .number (.int n) => .number (.ofInt n)
  | .number (.float _) => .null
  | .string s => .string (some s.toList)
  | .array items => .array (writtenItems items)
  | .object members => .object (writtenMembers members)

def writtenItems : List Value → List Written
  | [] => []
  | v :: rest => v.written :: writtenItems rest

def writtenMembers : List (String × Value) → List (Option (List Char) × Written)
  | [] => []
  | m :: rest => (some m.1.toList, m.2.written) :: writtenMembers rest

end

theorem wholeItems_iff {items : List Value} : WholeItems items ↔ ∀ v ∈ items, v.Whole := by
  induction items with
  | nil => simp [WholeItems]
  | cons v rest ih => simp [WholeItems, ih]

theorem wholeMembers_iff {members : List (String × Value)} :
    WholeMembers members ↔ ∀ m ∈ members, m.2.Whole := by
  induction members with
  | nil => simp [WholeMembers]
  | cons m rest ih => rw [WholeMembers, ih, List.forall_mem_cons]

theorem writtenItems_eq_map (items : List Value) :
    writtenItems items = items.map Value.written := by
  induction items with
  | nil => rfl
  | cons v rest ih => rw [writtenItems, ih, List.map_cons]

theorem writtenMembers_eq_map (members : List (String × Value)) :
    writtenMembers members = members.map fun m => (some m.1.toList, m.2.written) := by
  induction members with
  | nil => rfl
  | cons m rest ih => rw [writtenMembers, ih, List.map_cons]

theorem SpellsMember.printed (name : String) {v : Written} {t : List Char}
    (h : SpellsPadded v t) : SpellsMember (some name.toList) v (quote name ++ ':' :: t) := by
  have hm := SpellsMember.mk blank_nil (Quoted.spells_quote [] name.toList) blank_nil h
  simpa [quote] using hm

mutual

theorem Value.spells_render (v : Value) (hv : v.Whole) : Spells v.written v.render := by
  match v with
  | .null => exact .null
  | .bool true => exact .true
  | .bool false => exact .false
  | .number (.int n) => exact .number (Numeral.spells_renderInt n)
  | .number (.float _) => exact hv.elim
  | .string s => exact .string (Quoted.spells_quote [] s.toList)
  | .array [] => exact .emptyArray blank_nil
  | .array (u :: items) => exact .array (spells_renderItems (u :: items) hv nofun)
  | .object [] => exact .emptyObject blank_nil
  | .object (m :: members) => exact .object (spells_renderMembers (m :: members) hv nofun)

theorem spells_renderItems (items : List Value) (hi : WholeItems items) (hn : items ≠ []) :
    SpellsItems (writtenItems items) (renderItems items) := by
  match items with
  | [v] => exact .last (.bare (v.spells_render hi.1))
  | v :: u :: items =>
    exact .cons (.bare (v.spells_render hi.1)) (spells_renderItems (u :: items) hi.2 nofun)

theorem spells_renderMembers (members : List (String × Value)) (hm : WholeMembers members)
    (hn : members ≠ []) : SpellsMembers (writtenMembers members) (renderMembers members) := by
  match members with
  | [(name, v)] =>
    exact .last (.printed name (.bare (v.spells_render hm.1)))
  | (name, v) :: m :: members =>
    have h := SpellsMembers.cons (.printed name (.bare (v.spells_render hm.1)))
      (spells_renderMembers (m :: members) hm.2 nofun)
    rw [writtenMembers, renderMembers, List.append_assoc]
    · simpa using h
    · nofun

end

theorem Value.spells_toText {v : Value} (h : v.Whole) :
    SpellsPadded v.written v.toText.toList := by
  rw [toText, String.toList_ofList]
  exact .bare (v.spells_render h)

/-- A printed value is read as its tree. -/
theorem Written.parse?_toText {v : Value} (h : v.Whole) :
    Written.parse? v.toText.toList = some v.written := (v.spells_toText h).parse?

namespace Scans

theorem quote (s : String) : Scans (quote s ++ rest) (.string (some s.toList)) rest := by
  have h : Scans ('"' :: ((s.toList.flatMap escapeChar ++ ['"']) ++ rest)) _ rest :=
    .string (Quoted.spells_quote [] s.toList)
  exact h

end Scans

namespace Progress

variable {p : Progress} {s : List Char} {w : Written} {open_ : List Container} {mayClose : Bool}

theorem Goes.of_name (name : String) (done : List (Option (List Char) × Written)) :
    Goes ⟨open_, .name done mayClose⟩ (quote name ++ ':' :: s)
      ⟨.object done (some name.toList) :: open_, .value false⟩ s :=
  .trans (.of_scans (.quote name) rfl) (.of_sign rfl rfl)

theorem Stuck.of_unclosed {c : Char} (hq : c ≠ '"') (hb : c ≠ '\\') (hc : ¬c.toNat < 0x20)
    (t : List Char) : p.Stuck ('"' :: (t.flatMap escapeChar ++ [c])) := by
  intro n _
  cases n with
  | zero => rfl
  | succ n =>
    have hn : Token.scan n ('"' :: (t.flatMap escapeChar ++ [c])) = none := by
      change (scanString n (.whole []) _).map _ = none
      rw [scanString_unclosed hq hb hc, Option.map_none]
    have hs : isSpace '"' = false := by decide
    rw [readTokens]
    simp only [List.dropWhile_cons, hs, Bool.false_eq_true, if_false, hn]

end Progress

end Catalog.Json
