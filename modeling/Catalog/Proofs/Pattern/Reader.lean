import Mathlib.Data.List.Infix
import Mathlib.Data.List.TakeWhile
import Catalog.Pattern.Parser

/-! # What readers of patterns take

Most readers of the pattern language do not look behind what they take, and some look at the
character that stops them. So what they take is the same whatever comes behind.
-/

namespace Catalog.Pattern

open Text

variable {fl : Flags} {s r : List Char} {c : Char}

/-- A reader that does not look behind what it takes. -/
def Firm {α : Type} (read : List Char → Option (α × List Char)) : Prop :=
  ∀ ⦃s x r⦄, read s = some (x, r) → ∃ u, s = u ++ r ∧ ∀ r', read (u ++ r') = some (x, r')

/-- A reader that does not look behind the character that stops it. -/
def Stops {α : Type} (read : List Char → Option (α × List Char)) : Prop :=
  ∀ ⦃s x c r⦄, read s = some (x, c :: r) →
    ∃ u, s = u ++ c :: r ∧ ∀ r', read (u ++ c :: r') = some (x, c :: r')

section Combinators

variable {α β : Type} {read : List Char → Option (α × List Char)}
  {next : α → List Char → Option (β × List Char)}

theorem Firm.exists_cons (h : Firm read) (h0 : read [] = none) {x : α} (hs : read s = some (x, r)) :
    ∃ c u, s = c :: (u ++ r) ∧ ∀ r', read (c :: (u ++ r')) = some (x, r') := by
  obtain ⟨u, rfl, hu⟩ := h hs
  cases u with
  | nil => cases h0.symm.trans (hu [])
  | cons c u => exact ⟨c, u, rfl, hu⟩

theorem Firm.stops (h : Firm read) : Stops read := fun _ _ c r hs => by
  obtain ⟨u, rfl, hu⟩ := h hs
  exact ⟨u, rfl, fun r' => hu (c :: r')⟩

theorem Firm.bind (hr : Firm read) (hn : ∀ x, Firm (next x)) :
    Firm fun s => (read s).bind fun y => next y.1 y.2 := by
  intro s x r h
  obtain ⟨⟨y, m⟩, hy, hx⟩ := Option.bind_eq_some_iff.mp h
  obtain ⟨u, rfl, hu⟩ := hr hy
  obtain ⟨v, rfl, hv⟩ := hn y hx
  refine ⟨u ++ v, (List.append_assoc u v r).symm, fun r' => ?_⟩
  simp only [List.append_assoc, hu, Option.bind_some, hv]

theorem Firm.map (hr : Firm read) (f : α → β) :
    Firm fun s => (read s).map fun y => (f y.1, y.2) := by
  intro s x r h
  obtain ⟨⟨y, m⟩, hy, hx⟩ := Option.map_eq_some_iff.mp h
  cases hx
  obtain ⟨u, rfl, hu⟩ := hr hy
  exact ⟨u, rfl, fun r' => by simp only [hu, Option.map_some]⟩

theorem Stops.map (hr : Stops read) (f : α → β) :
    Stops fun s => (read s).map fun y => (f y.1, y.2) := by
  intro s x c r h
  obtain ⟨⟨y, m⟩, hy, hx⟩ := Option.map_eq_some_iff.mp h
  cases hx
  obtain ⟨u, rfl, hu⟩ := hr hy
  exact ⟨u, rfl, fun r' => by simp only [hu, Option.map_some]⟩

/-- The first character says what is read: something behind it, or something else. -/
theorem Firm.branch {other : List Char → Option (α × List Char)} (c : Char) (hr : Firm read)
    (ho : Firm other) (h0 : other [] = none) :
    Firm fun s => if s.head? = some c then read s.tail else other s := by
  intro s x r h
  dsimp only at h
  split at h
  · next hc =>
    obtain ⟨t, rfl⟩ := List.head?_eq_some_iff.mp hc
    obtain ⟨u, rfl, hu⟩ := hr h
    exact ⟨c :: u, rfl, fun r' => (if_pos rfl).trans (hu r')⟩
  · next hc =>
    obtain ⟨d, u, rfl, hu⟩ := ho.exists_cons h0 h
    exact ⟨d :: u, rfl, fun r' => (if_neg hc).trans (hu r')⟩

theorem firm_pure (x : α) : Firm fun s => some (x, s) := by
  intro s _ r h
  cases h
  exact ⟨[], rfl, fun r' => rfl⟩

theorem firm_none : Firm fun _ => (none : Option (α × List Char)) := nofun

theorem Stops.firm (hr : Stops read) (hn : ∀ x, Firm (next x)) (h0 : ∀ x, next x [] = none) :
    Firm fun s => (read s).bind fun y => next y.1 y.2 := by
  intro s x r h
  obtain ⟨⟨y, m⟩, hy, hx⟩ := Option.bind_eq_some_iff.mp h
  obtain ⟨c, v, rfl, hv⟩ := (hn y).exists_cons (h0 y) hx
  obtain ⟨u, rfl, hu⟩ := hr hy
  refine ⟨u ++ c :: v, by simp, fun r' => ?_⟩
  simp only [List.append_assoc, List.cons_append, hu, Option.bind_some, hv]

theorem Stops.bind (hr : Stops read) (hn : ∀ x, Stops (next x)) :
    Stops fun s => (read s).bind fun y => next y.1 y.2 := by
  intro s x c r h
  obtain ⟨⟨y, m⟩, hy, hx⟩ := Option.bind_eq_some_iff.mp h
  obtain ⟨v, rfl, hv⟩ := hn y hx
  cases v with
  | nil =>
    obtain ⟨u, rfl, hu⟩ := hr hy
    exact ⟨u, rfl, fun r' => by simp only [hu, Option.bind_some]; exact hv r'⟩
  | cons d v =>
    obtain ⟨u, rfl, hu⟩ := hr hy
    refine ⟨u ++ d :: v, by simp, fun r' => ?_⟩
    simp only [List.append_assoc, List.cons_append, hu, Option.bind_some]
    exact hv r'

end Combinators

theorem dropVerbose_cons {comment : Bool} (h : dropVerbose comment s = c :: r) :
    ∃ u, s = u ++ c :: r ∧ dropVerbose comment u = [] ∧
      ∀ r', dropVerbose comment (u ++ c :: r') = c :: r' := by
  induction s generalizing comment with
  | nil => cases h
  | cons d s ih =>
    rw [dropVerbose] at h
    split at h
    · next hc =>
      obtain ⟨u, rfl, hu, hr⟩ := ih h
      exact ⟨d :: u, rfl, by simp [dropVerbose, hc, hu], fun r' => by simp [dropVerbose, hc, hr]⟩
    · next hc =>
      split at h
      · next hb =>
        obtain ⟨u, rfl, hu, hr⟩ := ih h
        exact ⟨d :: u, rfl, by simp [dropVerbose, hc, hb, hu],
          fun r' => by simp [dropVerbose, hc, hb, hr]⟩
      · next hb =>
        split at h
        · next hd =>
          obtain ⟨u, rfl, hu, hr⟩ := ih h
          exact ⟨d :: u, rfl, by simp [dropVerbose, hc, hb, hd, hu],
            fun r' => by simp [dropVerbose, hc, hb, hd, hr]⟩
        · next hd =>
          cases h
          exact ⟨[], rfl, by simp [dropVerbose], fun r' => by simp [dropVerbose, hc, hb, hd]⟩

theorem dropVerbose_nil {comment : Bool} (h : dropVerbose comment s = []) :
    ∃ isOpen, ∀ r, dropVerbose comment (s ++ r) = dropVerbose isOpen r := by
  induction s generalizing comment with
  | nil => exact ⟨comment, fun _ => rfl⟩
  | cons d s ih =>
    rw [dropVerbose] at h
    split at h
    · next hc =>
      obtain ⟨b, hb⟩ := ih h
      exact ⟨b, fun r => by simp [dropVerbose, hc, hb]⟩
    · next hc =>
      split at h
      · next hd =>
        obtain ⟨b, hb⟩ := ih h
        exact ⟨b, fun r => by simp [dropVerbose, hc, hd, hb]⟩
      · next hd =>
        split at h
        · next hm =>
          obtain ⟨b, hb⟩ := ih h
          exact ⟨b, fun r => by simp [dropVerbose, hc, hd, hm, hb]⟩
        · cases h

theorem dropVerbose_dropVerbose (comment : Bool) (s : List Char) :
    dropVerbose false (dropVerbose comment s) = dropVerbose comment s := by
  induction s generalizing comment with
  | nil => rfl
  | cons c s ih =>
    rw [dropVerbose]
    split
    · exact ih _
    · split
      · exact ih _
      · next hb =>
        split
        · exact ih _
        · next hc => rw [dropVerbose, if_neg Bool.false_ne_true, if_neg hb, if_neg hc]

namespace Flags

theorem skip_nil (fl : Flags) : fl.skip [] = [] := by
  unfold skip
  split <;> rfl

theorem skip_visible (fl : Flags) (hb : isBlank c = false) (hc : c ≠ '#') (r : List Char) :
    fl.skip (c :: r) = c :: r := by
  unfold skip
  split
  · simp [dropVerbose, hb, hc]
  · rfl

theorem skip_cons (h : fl.skip s = c :: r) :
    ∃ u, s = u ++ c :: r ∧ fl.skip u = [] ∧ ∀ r', fl.skip (u ++ c :: r') = c :: r' := by
  unfold skip at h ⊢
  split at h
  · next hv => simpa only [hv, if_true] using dropVerbose_cons h
  · next hv =>
    rw [h]
    exact ⟨[], rfl, by simp [hv], fun r' => by simp [hv]⟩

theorem skip_append (h : fl.skip s = c :: r) (t : List Char) :
    fl.skip (s ++ t) = c :: (r ++ t) := by
  obtain ⟨u, rfl, -, hu⟩ := skip_cons h
  rw [List.append_assoc, List.cons_append, hu]

theorem skip_append_of_nil (h : fl.skip s = []) :
    (∀ r, fl.skip (s ++ r) = fl.skip r) ∨ ∀ r, fl.skip (s ++ r) = dropVerbose true r := by
  unfold skip at h ⊢
  split at h
  · next hv =>
    obtain ⟨isOpen, ho⟩ := dropVerbose_nil h
    cases isOpen
    · exact .inl fun r => by simp only [hv, if_true, ho]
    · exact .inr fun r => by simp only [hv, if_true, ho]
  · next hv =>
    rw [h]
    exact .inl fun r => rfl

theorem stops_skip (fl : Flags) : Stops fun s => some ((), fl.skip s) := by
  intro s x c r h
  obtain ⟨u, hs, -, hu⟩ := skip_cons (congrArg Prod.snd (Option.some.inj h))
  exact ⟨u, hs, fun r' => by simp only [hu]⟩

theorem skip_skip (fl : Flags) (s : List Char) : fl.skip (fl.skip s) = fl.skip s := by
  unfold skip
  split
  · exact dropVerbose_dropVerbose false s
  · rfl

theorem length_skip_le (fl : Flags) (s : List Char) : (fl.skip s).length ≤ s.length := by
  cases hs : fl.skip s with
  | nil => exact Nat.zero_le _
  | cons c r =>
    obtain ⟨u, rfl, -, -⟩ := skip_cons hs
    simp

end Flags

theorem stops_trimStart : Stops fun s => some ((), trimStart s) := by
  intro s x c r h
  have h : s.dropWhile isBlank = c :: r := congrArg Prod.snd (Option.some.inj h)
  have hc : isBlank c = false := by
    have hd := List.head?_dropWhile_not isBlank s
    rw [h] at hd
    simpa using hd
  have hb : ∀ d ∈ s.takeWhile isBlank, isBlank d = true := fun d => List.mem_takeWhile_imp
  refine ⟨s.takeWhile isBlank, by rw [← h, List.takeWhile_append_dropWhile], fun r' => ?_⟩
  simp only [trimStart, List.dropWhile_append_of_pos hb, List.dropWhile_cons, hc,
    Bool.false_eq_true, if_false]

/-- What stands before the mark has no part in what follows it. -/
theorem cutAt?_eq_some {mark a : List Char} (h : cutAt? mark s = some (a, r)) :
    s = a ++ mark ++ r ∧ ∀ r', cutAt? mark (a ++ mark ++ r') = some (a, r') := by
  induction s generalizing a r with
  | nil =>
    rw [cutAt?] at h
    split at h
    · next hm =>
      cases h
      rw [List.isEmpty_iff.mp hm]
      exact ⟨rfl, fun r' => by cases r' <;> simp [cutAt?, List.isPrefixOf?]⟩
    · cases h
  | cons c s ih =>
    rw [cutAt?] at h
    split at h
    · next t ht =>
      cases h
      have he := List.isPrefixOf?_eq_some_iff_append_eq.mp ht
      refine ⟨he.symm, fun r' => ?_⟩
      cases mark with
      | nil => cases r' <;> simp [cutAt?, List.isPrefixOf?]
      | cons m mark =>
        have hp : (m :: mark).isPrefixOf? (m :: (mark ++ r')) = some r' :=
          List.isPrefixOf?_eq_some_iff_append_eq.mpr rfl
        simp only [List.nil_append, List.cons_append, cutAt?, hp]
    · next hn =>
      obtain ⟨⟨a, r⟩, ha, h⟩ := Option.map_eq_some_iff.mp h
      cases h
      obtain ⟨rfl, hr⟩ := ih ha
      refine ⟨rfl, fun r' => ?_⟩
      -- a mark that starts here ends before `r'`, so it would start here in front of `r` as well
      have hp : mark.isPrefixOf? (c :: (a ++ mark ++ r')) = none := by
        rw [Option.eq_none_iff_forall_ne_some]
        intro t ht
        have he := List.isPrefixOf?_eq_some_iff_append_eq.mp ht
        have hmark : mark <+: c :: (a ++ mark ++ r') := ⟨t, he⟩
        have hpre : mark <+: c :: (a ++ mark) :=
          List.prefix_of_prefix_length_le hmark (List.prefix_append (c :: (a ++ mark)) r')
            (by simp; omega)
        obtain ⟨t', ht'⟩ := hpre
        have : mark.isPrefixOf? (c :: (a ++ mark ++ r)) = some (t' ++ r) := by
          rw [List.isPrefixOf?_eq_some_iff_append_eq, ← List.append_assoc, ht']
          rfl
        rw [this] at hn
        cases hn
      simp only [List.cons_append, cutAt?, hp, hr, Option.map_some]

theorem firm_cutAt? (mark : List Char) : Firm (cutAt? mark) := fun _ a _ h =>
  ⟨a ++ mark, cutAt?_eq_some h⟩

theorem firm_groupName : Firm groupName := by
  intro s x r h
  obtain ⟨⟨name, m⟩, hc, hx⟩ := Option.bind_eq_some_iff.mp h
  obtain ⟨u, rfl, hu⟩ := firm_cutAt? _ hc
  have hm : m = r := by
    dsimp only at hx
    split at hx
    · cases hx
    · split at hx
      · cases hx
        rfl
      · cases hx
  subst hm
  refine ⟨u, rfl, fun r' => ?_⟩
  rw [groupName, hu, Option.bind_eq_bind, Option.bind_some]
  dsimp only at hx ⊢
  split at hx
  · cases hx
  · split at hx
    · next hn =>
      cases hx
      exact if_pos hn
    · cases hx

theorem flagLetters_eq_some {seen : List Char} {fl' : Flags} {any : Bool}
    (h : flagLetters fl seen s = some (fl', any, r)) :
    ∃ u c r₀, r = c :: r₀ ∧ s = u ++ c :: r₀ ∧
      ∀ r', flagLetters fl seen (u ++ c :: r') = some (fl', any, c :: r') := by
  induction s generalizing fl seen with
  | nil => cases h
  | cons d s ih =>
    rw [flagLetters] at h
    split at h
    · next hd =>
      split at h
      · cases h
      · next hs =>
        cases h
        exact ⟨[], d, s, rfl, rfl, fun r' => by simp [flagLetters, hd, hs]⟩
    · next hd =>
      split at h
      · cases h
      · next hs =>
        split at h
        · next hm =>
          obtain ⟨u, c, r₀, hr, rfl, hu⟩ := ih h
          exact ⟨d :: u, c, r₀, hr, rfl, fun r' => by
            rw [List.cons_append, flagLetters, if_neg hd, if_neg hs, if_pos hm, hu]⟩
        · next hm =>
          split at h
          · next hp =>
            obtain ⟨u, c, r₀, hr, rfl, hu⟩ := ih h
            exact ⟨d :: u, c, r₀, hr, rfl, fun r' => by
              rw [List.cons_append, flagLetters, if_neg hd, if_neg hs, if_neg hm, hp]
              exact hu r'⟩
          · cases h

theorem stops_digits (fl : Flags) : Stops fun s => some (decimal.digits fl s) := by
  intro s
  induction s with
  | nil => intro x c r h; cases h
  | cons d s ih =>
    intro x c r h
    have h := Option.some.inj h
    rw [decimal.digits] at h
    split at h
    · next hd =>
      obtain ⟨rfl, hr⟩ := Prod.mk.inj h
      obtain ⟨u, rfl, hu⟩ := ih (congrArg some (Prod.ext rfl hr))
      refine ⟨d :: u, rfl, fun r' => ?_⟩
      simp only [List.cons_append, decimal.digits, hd, if_true, Option.some.inj (hu r')]
    · next hd =>
      split at h
      · next hb =>
        obtain ⟨u, rfl, hu⟩ := ih (congrArg some h)
        refine ⟨d :: u, rfl, fun r' => ?_⟩
        simp only [List.cons_append, decimal.digits, if_neg hd, if_pos hb, Option.some.inj (hu r')]
      · next hb =>
        cases h
        refine ⟨[], rfl, fun r' => ?_⟩
        simp only [List.nil_append, decimal.digits, if_neg hd, if_neg hb]

theorem stops_decimal (fl : Flags) : Stops (decimal fl) := by
  intro s x c r h
  unfold decimal at h
  dsimp only at h
  split at h
  · cases h
  · next hd =>
    obtain ⟨rfl, hr⟩ := Prod.mk.inj (Option.some.inj h)
    have hs := (stops_trimStart.bind fun _ => stops_digits fl).bind fun ds =>
      stops_trimStart.map fun _ => ds
    obtain ⟨u, rfl, hu⟩ := @hs s _ c r (congrArg (fun r => some (_, r)) hr)
    refine ⟨u, rfl, fun r' => ?_⟩
    have h' := Prod.mk.inj (Option.some.inj (hu r'))
    unfold decimal
    dsimp only [Option.bind_some] at h' ⊢
    rw [h'.1, h'.2, if_neg hd]

def closeBounds (lo hi : Nat) (s : List Char) : Option ((Nat × Option Nat) × List Char) :=
  if s.head? = some '\x7d' then if lo ≤ hi then some ((lo, some hi), s.tail) else none else none

def readUpper (fl : Flags) (lo : Nat) (s : List Char) : Option ((Nat × Option Nat) × List Char) :=
  (decimal fl s).bind fun y => closeBounds lo y.1 y.2

def readOpen (fl : Flags) (lo : Nat) (s : List Char) : Option ((Nat × Option Nat) × List Char) :=
  if s.head? = some '\x7d' then some ((lo, none), s.tail) else readUpper fl lo s

def readRest (fl : Flags) (lo : Nat) (s : List Char) : Option ((Nat × Option Nat) × List Char) :=
  if s.head? = some '\x7d' then some ((lo, some lo), s.tail)
  else if s.head? = some ',' then readOpen fl lo (fl.skip s.tail)
  else none

def readBounds (fl : Flags) (s : List Char) : Option ((Nat × Option Nat) × List Char) :=
  (decimal fl (fl.skip s)).bind fun y => readRest fl y.1 y.2

theorem firm_closeBounds (lo hi : Nat) : Firm (closeBounds lo hi) := by
  unfold closeBounds
  by_cases h : lo ≤ hi
  · simpa only [if_pos h] using (firm_pure (lo, some hi)).branch '\x7d' firm_none rfl
  · simpa only [if_neg h] using firm_none.branch '\x7d' firm_none rfl

theorem firm_readUpper (fl : Flags) (lo : Nat) : Firm (readUpper fl lo) :=
  (stops_decimal fl).firm (firm_closeBounds lo) fun _ => rfl

theorem firm_readOpen (fl : Flags) (lo : Nat) : Firm (readOpen fl lo) :=
  (firm_pure (lo, none)).branch '\x7d' (firm_readUpper fl lo) rfl

theorem firm_readRest (fl : Flags) (lo : Nat) : Firm (readRest fl lo) := by
  have ho := (Flags.stops_skip fl).firm (fun _ => firm_readOpen fl lo) fun _ => rfl
  exact (firm_pure (lo, some lo)).branch '\x7d' (ho.branch ',' firm_none rfl) rfl

theorem firm_readBounds (fl : Flags) : Firm (readBounds fl) :=
  ((Flags.stops_skip fl).bind fun _ => stops_decimal fl).firm (firm_readRest fl) fun _ => rfl

theorem head?_ne (h : ∀ t, s = c :: t → False) : s.head? ≠ some c := fun hc => by
  obtain ⟨t, ht⟩ := List.head?_eq_some_iff.mp hc
  exact h t ht

theorem counted_eq (st : Reading) (s : List Char) :
    counted st s = (readBounds st.flags s).bind fun y => repeatLast st y.1.1 y.1.2 y.2 true := by
  unfold counted readBounds
  simp only [Option.bind_eq_bind, Option.bind_assoc]
  refine congrArg _ (funext fun ⟨lo, r⟩ => ?_)
  unfold readRest
  dsimp only
  split
  · rfl
  · next t =>
    rw [if_neg (by simp), if_pos List.head?_cons, List.tail_cons, readOpen]
    split
    · next ht => simp [ht]
    · next hn =>
      simp only [if_neg (head?_ne hn), readUpper, closeBounds, Option.bind_assoc]
      refine congrArg _ (funext fun ⟨hi, r⟩ => ?_)
      dsimp only
      split
      · simp only [List.head?_cons, if_true, List.tail_cons]
        split <;> rfl
      · next hn => simp only [if_neg (head?_ne hn), Option.bind_none]
  · next hb hc => simp only [if_neg (head?_ne hb), if_neg (head?_ne hc), Option.bind_none]

theorem hexDigits_take (fl : Flags) (n : Nat) : Firm (hexDigits fl n) := by
  induction n with
  | zero => exact firm_pure []
  | succ n ih =>
    intro s x r h
    rw [hexDigits] at h
    split at h
    · next c t hs =>
      split at h
      · next hc =>
        obtain ⟨⟨ds, m⟩, hd, hx⟩ := Option.map_eq_some_iff.mp h
        cases hx
        obtain ⟨u, rfl, -, hu⟩ := Flags.skip_cons hs
        obtain ⟨v, rfl, hv⟩ := ih hd
        refine ⟨u ++ c :: v, by simp, fun r' => ?_⟩
        rw [hexDigits, List.append_assoc, List.cons_append, hu]
        simp only [hc, if_true, hv, Option.map_some]
      · cases h
    · cases h

theorem firm_braced (fl : Flags) : Firm (braced fl) := by
  intro s
  induction s with
  | nil => intro x r h; cases h
  | cons c s ih =>
    intro x r h
    rw [braced] at h
    split at h
    · next hc =>
      cases h
      exact ⟨[c], rfl, fun r' => by simp [braced, hc]⟩
    · next hc =>
      split at h
      · next hb =>
        obtain ⟨u, rfl, hu⟩ := ih h
        refine ⟨c :: u, rfl, fun r' => ?_⟩
        rw [List.cons_append, braced, if_neg hc, if_pos hb, hu]
      · next hb =>
        obtain ⟨⟨cs, m⟩, hm, hx⟩ := Option.map_eq_some_iff.mp h
        cases hx
        obtain ⟨u, rfl, hu⟩ := ih hm
        refine ⟨c :: u, rfl, fun r' => ?_⟩
        rw [List.cons_append, braced, if_neg hc, if_neg hb, hu]
        rfl

def bracedLiteral (digits : List Char) : Option Atom :=
  if digits.isEmpty || !digits.all isHexDigit then none else hexLiteral digits

def bracedHex (fl : Flags) (s : List Char) : Option (Atom × List Char) :=
  (braced fl s).bind fun y => (bracedLiteral y.1).map fun a => (a, y.2)

def plainHex (fl : Flags) (count : Nat) (s : List Char) : Option (Atom × List Char) :=
  (hexDigits fl count s).bind fun y => (hexLiteral y.1).map fun a => (a, y.2)

theorem firm_map_some {α β : Type} (o : Option β) (f : β → α) :
    Firm fun s => o.map fun a => (f a, s) := by
  cases o with
  | none => exact firm_none
  | some a => exact firm_pure (f a)

theorem firm_bracedHex (fl : Flags) : Firm (bracedHex fl) := by
  have hd (ds : List Char) : Firm fun s => (bracedLiteral ds).map fun a => (a, s) :=
    firm_map_some _ id
  exact (firm_braced fl).bind hd

theorem firm_plainHex (fl : Flags) (count : Nat) : Firm (plainHex fl count) := by
  have hd (ds : List Char) : Firm fun s => (hexLiteral ds).map fun a => (a, s) :=
    firm_map_some _ id
  exact (hexDigits_take fl count).bind hd

theorem hexEscape_eq (fl : Flags) (count : Nat) (s : List Char) :
    hexEscape fl count s = (some ((), fl.skip s)).bind fun y =>
      if y.2.head? = some '\x7b' then bracedHex fl y.2.tail else plainHex fl count y.2 := by
  unfold hexEscape
  rw [Option.bind_some]
  split
  · next hs =>
    simp only [hs, List.head?_cons, if_true, List.tail_cons]
    refine congrArg _ (funext fun ⟨ds, t⟩ => ?_)
    dsimp only [bracedLiteral]
    split <;> rfl
  · next hn => simp only [if_neg (head?_ne hn)]; rfl

theorem firm_hexEscape (fl : Flags) {count : Nat} (hc : 0 < count) : Firm (hexEscape fl count) := by
  have h0 : plainHex fl count [] = none := by
    obtain ⟨n, rfl⟩ := Nat.exists_eq_succ_of_ne_zero (Nat.ne_of_gt hc)
    rw [plainHex, hexDigits, Flags.skip_nil]
    rfl
  rw [funext (hexEscape_eq fl count)]
  have hb := (firm_bracedHex fl).branch '\x7b' (firm_plainHex fl count) h0
  exact (Flags.stops_skip fl).firm (fun _ => hb) fun _ => h0

def setAtom (fl : Flags) (negated : Bool) (o : Option (CodeSet × Bool)) : Option Atom :=
  o.bind fun y => (fl.finish (negated != y.2) y.1).map Atom.set

def letterProperty (fl : Flags) (negated : Bool) : List Char → Option (Atom × List Char)
  | [] => none
  | c :: r =>
    if c == '\\' then none
    else (setAtom fl negated ((Property.named? [c]).map (·, false))).map fun a => (a, r)

theorem propertyEscape_eq (fl : Flags) (negated : Bool) (s : List Char) :
    propertyEscape fl negated s = if !fl.unicode then none else
      (some ((), fl.skip s)).bind fun y =>
        if y.2.head? = some '\x7b' then
          (braced fl y.2.tail).bind fun z =>
            (setAtom fl negated (propertySet? z.1)).map fun a => (a, z.2)
        else letterProperty fl negated y.2 := by
  unfold propertyEscape
  rw [Option.bind_some]
  split
  · rfl
  · split
    · next hs =>
      simp only [hs, List.head?_cons, if_true, List.tail_cons]
      refine congrArg _ (funext fun ⟨name, t⟩ => ?_)
      simp only [setAtom, Option.map_bind, Option.bind_eq_bind]
      refine congrArg _ (funext fun ⟨set, turned⟩ => ?_)
      simp only [Function.comp_apply]
      cases fl.finish (negated != turned) set <;> rfl
    · next c r hn hs =>
      have hh : (c :: r).head? ≠ some '\x7b' := by simpa using hn
      simp only [hs, if_neg hh, letterProperty, setAtom]
      refine ite_congr rfl (fun _ => rfl) fun _ => ?_
      cases Property.named? [c] with
      | none => rfl
      | some set =>
        simp only [Option.map_some, Option.bind_some, Bool.bne_false, Option.bind_eq_bind]
        cases fl.finish negated set <;> rfl
    · next hs => simp [hs, letterProperty]

theorem firm_letterProperty (fl : Flags) (negated : Bool) : Firm (letterProperty fl negated) := by
  intro s x r h
  cases s with
  | nil => cases h
  | cons c s =>
    rw [letterProperty] at h
    split at h
    · cases h
    · next hc =>
      obtain ⟨a, ha, hx⟩ := Option.map_eq_some_iff.mp h
      cases hx
      exact ⟨[c], rfl, fun r' => by simp [letterProperty, hc, ha]⟩

theorem firm_propertyEscape (fl : Flags) (negated : Bool) : Firm (propertyEscape fl negated) := by
  rw [funext (propertyEscape_eq fl negated)]
  by_cases hu : (!fl.unicode) = true
  · simpa only [if_pos hu] using firm_none
  · simp only [if_neg hu]
    have hname (name : List Char) :
        Firm fun s => (setAtom fl negated (propertySet? name)).map fun a => (a, s) :=
      firm_map_some _ id
    have hb := (firm_braced fl).bind hname
    exact (Flags.stops_skip fl).firm
      (fun _ => hb.branch '\x7b' (firm_letterProperty fl negated) rfl) fun _ => rfl

theorem braced_cons {t ds : List Char} {d : Char} (hd : d ≠ '#')
    (h : braced fl t = some (d :: ds, r)) :
    ∃ w, t = w ++ r ∧ ∀ r', braced fl (w ++ r') = some (d :: ds, r') ∧
      ∃ v, fl.skip (w ++ r') = d :: v := by
  induction t with
  | nil => cases h
  | cons c t ih =>
    have hs := h
    rw [braced] at hs
    split at hs
    · cases hs
    · next hc =>
      split at hs
      · next hb =>
        obtain ⟨w, rfl, hw⟩ := ih hs
        refine ⟨c :: w, rfl, fun r' => ?_⟩
        obtain ⟨hr, v, hv⟩ := hw r'
        rw [Bool.and_eq_true] at hb
        refine ⟨by rw [List.cons_append, braced, if_neg hc, if_pos (by simp [hb]), hr], v, ?_⟩
        rw [← hv]
        simp [Flags.skip, dropVerbose, hb]
      · next hb =>
        obtain ⟨⟨cs, m⟩, hm, hx⟩ := Option.map_eq_some_iff.mp hs
        cases hx
        obtain ⟨w, rfl, hw⟩ := firm_braced fl hm
        refine ⟨d :: w, rfl, fun r' => ⟨?_, w ++ r', ?_⟩⟩
        · rw [List.cons_append, braced, if_neg hc, if_neg hb, hw]
          rfl
        · cases hv : fl.verbose
          · simp [Flags.skip, hv]
          · simp only [hv, Bool.true_and] at hb
            simp [Flags.skip, hv, dropVerbose, hb, hd]

/-- No name of a word place stands here. -/
def Bare (fl : Flags) (s : List Char) : Prop :=
  ∀ t, s = '\x7b' :: t → ∃ c r, fl.skip t = c :: r ∧ (c.isAlpha || c == '-') = false

theorem wordPlace_of_bare (h : Bare fl s) : wordPlace fl s = some (.boundary (!fl.unicode), s) := by
  unfold wordPlace
  split
  · next t =>
    obtain ⟨c, r, hs, hc⟩ := h t rfl
    simp [hs, hc]
  · rfl

theorem wordPlace_eq_some {a : Anchor} (h : wordPlace fl s = some (a, r)) :
    (∃ u, s = u ++ r ∧ u ≠ [] ∧ ∀ r', wordPlace fl (u ++ r') = some (a, r')) ∨
      a = .boundary (!fl.unicode) ∧ s = r ∧ Bare fl r := by
  have hs := h
  unfold wordPlace at hs
  split at hs
  · next t =>
    split at hs
    · cases hs
    · next c r₀ hsk =>
      split at hs
      · next hc =>
        cases hs
        refine .inr ⟨rfl, rfl, fun t' ht => ?_⟩
        cases ht
        exact ⟨c, r₀, hsk, by simpa using hc⟩
      · next hc =>
        obtain ⟨⟨name, m⟩, hb, hx⟩ := Option.bind_eq_some_iff.mp hs
        left
        have hname : ∃ d ds, name = d :: ds ∧ d ≠ '#' ∧ d.isAlpha = true ∧ m = r := by
          dsimp only at hx
          split at hx <;> cases hx
          all_goals
            next hn =>
            rw [← String.toList_inj, String.toList_ofList] at hn
            exact ⟨_, _, hn, by decide, by decide, rfl⟩
        obtain ⟨d, ds, rfl, hd, ha, rfl⟩ := hname
        obtain ⟨w, rfl, hw⟩ := braced_cons hd hb
        refine ⟨'\x7b' :: w, rfl, List.cons_ne_nil _ _, fun r' => ?_⟩
        obtain ⟨hr, v, hv⟩ := hw r'
        simp only [List.cons_append, wordPlace, hv, ha, Bool.true_or, Bool.not_true,
          Bool.false_eq_true, if_false, hr, Option.bind_eq_bind, Option.bind_some]
        dsimp only at hx ⊢
        split at hx <;> cases hx <;> rfl
  · next hn =>
    cases hs
    exact .inr ⟨rfl, rfl, fun t ht => (hn t ht).elim⟩

theorem firm_escape (fl : Flags) (hc : c ≠ 'b') : Firm fun s => escape fl (c :: s) := by
  unfold escape
  dsimp only
  split
  · exact firm_map_some _ Atom.set
  · split
    · exact firm_pure _
    · split
      all_goals first
        | exact firm_pure _
        | exact firm_none
        | exact absurd rfl hc
        | exact firm_hexEscape fl (by decide)
        | exact firm_propertyEscape fl _

theorem escape_b (fl : Flags) (s : List Char) :
    escape fl ('b' :: s) = (wordPlace fl s).map fun y => (.anchor y.1, y.2) := rfl

theorem escape_eq_some {a : Atom} (h : escape fl s = some (a, r)) :
    (∃ u, s = u ++ r ∧ u ≠ [] ∧ ∀ r', escape fl (u ++ r') = some (a, r')) ∨
      a = .anchor (.boundary (!fl.unicode)) ∧ s = 'b' :: r ∧ Bare fl r := by
  cases s with
  | nil => cases h
  | cons c s =>
    by_cases hc : c = 'b'
    · subst hc
      rw [escape_b] at h
      obtain ⟨⟨p, m⟩, hp, hx⟩ := Option.map_eq_some_iff.mp h
      cases hx
      rcases wordPlace_eq_some hp with ⟨u, rfl, -, hu⟩ | ⟨rfl, rfl, hb⟩
      · refine .inl ⟨'b' :: u, rfl, List.cons_ne_nil _ _, fun r' => ?_⟩
        rw [List.cons_append, escape_b, hu]
        rfl
      · exact .inr ⟨rfl, rfl, hb⟩
    · obtain ⟨u, rfl, hu⟩ := firm_escape fl hc h
      exact .inl ⟨c :: u, rfl, List.cons_ne_nil _ _, hu⟩

theorem escape_of_bare (h : Bare fl r) :
    escape fl ('b' :: r) = some (.anchor (.boundary (!fl.unicode)), r) := by
  rw [escape_b, wordPlace_of_bare h]
  rfl

end Catalog.Pattern
