import Mathlib.Data.List.Infix
import Mathlib.Data.List.TakeWhile
import Catalog.Text.Blank
import Catalog.Text.Cut

/-! # Cutting what was put together

Trimming, cutting at a mark and dropping a mark undo what put the blanks or the mark there, as long
as the mark does not stand anywhere else.
-/

namespace Catalog.Text

variable {s t rest mark : List Char}

def Trimmed (s : List Char) : Prop :=
  (∀ c, s.head? = some c → isBlank c = false) ∧ ∀ c, s.getLast? = some c → isBlank c = false

theorem trimStart_of_head (h : ∀ c, s.head? = some c → isBlank c = false) : trimStart s = s := by
  cases s with
  | nil => rfl
  | cons c r => exact List.dropWhile_cons_of_neg (by simp [h c rfl])

theorem trimEnd_of_getLast (h : ∀ c, s.getLast? = some c → isBlank c = false) : trimEnd s = s := by
  have hr : trimStart s.reverse = s.reverse := by
    refine trimStart_of_head fun c hc => h c ?_
    rwa [List.head?_reverse] at hc
  rw [trimEnd, ← trimStart, hr, List.reverse_reverse]

theorem head_trimStart {c : Char} (h : (trimStart s).head? = some c) : isBlank c = false := by
  have hd := List.head?_dropWhile_not isBlank s
  rw [← trimStart, h] at hd
  simpa using hd

theorem getLast_trimEnd {c : Char} (h : (trimEnd s).getLast? = some c) : isBlank c = false := by
  rw [trimEnd, List.getLast?_reverse] at h
  exact head_trimStart h

theorem trimEnd_prefix (s : List Char) : trimEnd s <+: s := by
  rw [trimEnd, ← List.reverse_suffix, List.reverse_reverse]
  exact List.dropWhile_suffix _

theorem trim_sublist (s : List Char) : (trim s).Sublist s := by
  have hp : trim s <+: trimStart s := trimEnd_prefix (trimStart s)
  exact hp.sublist.trans (List.dropWhile_suffix isBlank).sublist

theorem trimmed_trim (s : List Char) : Trimmed (trim s) := by
  refine ⟨fun c hc => ?_, fun c hc => getLast_trimEnd hc⟩
  obtain ⟨blanks, hb⟩ := trimEnd_prefix (trimStart s)
  refine head_trimStart (s := s) ?_
  rw [← hb, List.head?_append, ← trim, hc, Option.some_or]

theorem trimmed_iff : Trimmed s ↔ trim s = s := by
  constructor
  · rintro ⟨hf, hl⟩
    rw [trim, trimStart_of_head hf, trimEnd_of_getLast hl]
  · intro h
    exact h ▸ trimmed_trim s

theorem trim_trim (s : List Char) : trim (trim s) = trim s := trimmed_iff.mp (trimmed_trim s)

theorem trimEnd_append_of_blank (h : ∀ c ∈ t, isBlank c = true) : trimEnd (s ++ t) = trimEnd s := by
  rw [trimEnd, List.reverse_append, List.dropWhile_append_of_pos (by simpa using h), trimEnd]

theorem trimEnd_append (h : ∀ c, s.getLast? = some c → isBlank c = false) :
    trimEnd (s ++ t) = s ++ trimEnd t := by
  have hs := trimEnd_of_getLast h
  simp only [trimEnd, List.reverse_append, List.dropWhile_append] at hs ⊢
  split
  · next he => rw [hs, List.isEmpty_iff.mp he, List.reverse_nil, List.append_nil]
  · rw [List.reverse_append, List.reverse_reverse]

theorem Trimmed.trim_append (h : Trimmed s) (hn : s ≠ []) (t : List Char) :
    trim (s ++ t) = s ++ trimEnd t := by
  rw [trim, trimStart_of_head, trimEnd_append h.2]
  intro c hc
  rw [List.head?_append_of_ne_nil _ hn] at hc
  exact h.1 c hc

theorem trim_append (hs : ∀ c, s.getLast? = some c → isBlank c = false)
    (ht : ∀ c, t.head? = some c → isBlank c = false) : trim (s ++ t) = trimStart s ++ trimEnd t := by
  have hstart : trimStart (s ++ t) = trimStart s ++ t := by
    simp only [trimStart, List.dropWhile_append]
    split
    · next he =>
      rw [List.isEmpty_iff.mp he]
      exact trimStart_of_head ht
    · rfl
  rw [trim, hstart, trimEnd_append]
  intro c hc
  obtain ⟨u, hu⟩ := List.dropWhile_suffix (l := s) isBlank
  refine hs c ?_
  rw [← hu, ← trimStart, List.getLast?_append, hc, Option.some_or]

theorem trim_append_of_blank (h : ∀ c ∈ t, isBlank c = true) : trim (s ++ t) = trim s := by
  rw [trim, trimStart, List.dropWhile_append]
  split
  · next he =>
    rw [List.dropWhile_eq_nil_iff.mpr h, trim, trimStart, List.isEmpty_iff.mp he]
  · rw [trimEnd_append_of_blank h, trim, trimStart]

theorem trim_trimEnd (s : List Char) : trim (trimEnd s) = trim s := by
  have hs : trimEnd s ++ (s.reverse.takeWhile isBlank).reverse = s := by
    rw [trimEnd, ← List.reverse_append, List.takeWhile_append_dropWhile, List.reverse_reverse]
  conv_rhs => rw [← hs]
  refine (trim_append_of_blank fun c hc => ?_).symm
  exact List.mem_takeWhile_imp (List.mem_reverse.mp hc)

theorem mem_trimStart {c : Char} (h : c ∈ s) (hc : isBlank c = false) : c ∈ trimStart s := by
  rw [← List.takeWhile_append_dropWhile (p := isBlank) (l := s), List.mem_append] at h
  rcases h with h | h
  · rw [List.mem_takeWhile_imp h] at hc
    cases hc
  · exact h

theorem mem_trim {c : Char} (h : c ∈ s) (hc : isBlank c = false) : c ∈ trim s := by
  rw [trim, trimEnd, List.mem_reverse]
  exact mem_trimStart (List.mem_reverse.mpr (mem_trimStart h hc)) hc

theorem head_append (hs : ∀ c, s.head? = some c → isBlank c = false)
    (ht : ∀ c, t.head? = some c → isBlank c = false) (c : Char) (h : (s ++ t).head? = some c) :
    isBlank c = false := by
  cases s with
  | nil => exact ht c h
  | cons d s => exact hs c h

theorem getLast_append (hs : ∀ c, s.getLast? = some c → isBlank c = false)
    (ht : ∀ c, t.getLast? = some c → isBlank c = false) (c : Char)
    (h : (s ++ t).getLast? = some c) : isBlank c = false := by
  rw [List.getLast?_append] at h
  cases hl : t.getLast? with
  | none => exact hs c (by rwa [hl] at h)
  | some d => exact ht c (by rwa [hl] at h ⊢)

theorem eq_of_toLower {c d : Char} (h : c.toLower = d) (hd : d.isLower = false) : c = d := by
  unfold Char.toLower at h
  split at h
  · next hu =>
    have hl : d.isLower = true := by
      change (decide (d.val ≥ 'a'.val) && decide (d.val ≤ 'z'.val)) = true
      simp only [← h, Char.isValue, Char.reduceVal, UInt32.le_iff_toNat_le, UInt32.toNat_add,
        UInt32.reduceSub, UInt32.reduceToNat, ge_iff_le, Bool.and_eq_true,
        decide_eq_true_eq] at hu ⊢
      omega
    rw [hl] at hd
    cases hd
  · exact h

/-- A mark that starts a text does so before what is appended to the text, unless the mark goes on
from the last character of the text to the first behind it. -/
theorem prefix_of_prefix_append (h : mark <+: s ++ rest) (hs : s ≠ [])
    (hr : ∀ d c, s.getLast? = some d → rest.head? = some c → ¬[d, c] <:+: mark) : mark <+: s := by
  obtain ⟨t, ht⟩ := h
  rcases List.append_eq_append_iff.mp ht with ⟨u, hu, -⟩ | ⟨u, hu, hv⟩
  · exact ⟨u, hu.symm⟩
  · cases u with
    | nil => exact ⟨[], by simpa using hu⟩
    | cons c u =>
      obtain ⟨s, d, rfl⟩ := (List.eq_nil_or_concat' s).resolve_left hs
      refine absurd ?_ (hr d c List.getLast?_concat (by rw [hv]; rfl))
      exact ⟨s, u, by simp [hu]⟩

theorem mem_tail_of_pair {c d : Char} (h : [d, c] <:+: mark) : c ∈ mark.tail := by
  obtain ⟨u, v, rfl⟩ := h
  cases u <;> simp

theorem infix_of_append_left {c : Char} (h : c :: mark <:+: s ++ t) (hc : c ∉ s) :
    c :: mark <:+: t := by
  rcases List.infix_append_iff.mp h with h | h | ⟨u, v, hu, hs, ht⟩
  · exact absurd (h.subset List.mem_cons_self) hc
  · exact h
  · cases u with
    | nil => exact hu ▸ ht.isInfix
    | cons d u =>
      cases hu
      exact absurd (hs.subset List.mem_cons_self) hc

theorem infix_of_append_right {c : Char} (h : mark ++ [c] <:+: s ++ t) (hc : c ∉ t) :
    mark ++ [c] <:+: s := by
  rw [← List.reverse_infix, List.reverse_append, List.reverse_singleton] at h ⊢
  rw [List.reverse_append] at h
  exact infix_of_append_left h (by simpa using hc)

theorem prefix_of_append_cons {c : Char} (h : mark <+: s ++ c :: t) (hc : c ∉ mark) :
    mark <+: s := by
  obtain ⟨r, hr⟩ := h
  rcases List.append_eq_append_iff.mp hr with ⟨u, hu, -⟩ | ⟨u, hu, hv⟩
  · exact ⟨u, hu.symm⟩
  · cases u with
    | nil => exact ⟨[], by simpa using hu⟩
    | cons d u =>
      cases hv
      exact absurd (by simp [hu]) hc

theorem suffix_of_append_cons {c : Char} (h : mark <:+ s ++ c :: t) (hc : c ∉ mark) :
    mark <:+ t := by
  rw [← List.reverse_prefix] at h ⊢
  rw [List.reverse_append, List.reverse_cons, List.append_assoc] at h
  exact prefix_of_append_cons h (by simpa using hc)

/-- What does not hold a character does not reach over it. -/
theorem infix_of_append_cons {c : Char} (h : mark <:+: s ++ c :: t) (hc : c ∉ mark) :
    mark <:+: s ∨ mark <:+: t := by
  rcases List.infix_append_iff.mp h with h | h | ⟨u, v, hu, hs, hv⟩
  · exact .inl h
  · rcases List.infix_cons_iff.mp h with hp | hi
    · cases mark with
      | nil => exact .inl (List.nil_infix)
      | cons d mark =>
        obtain ⟨rest, hr⟩ := hp
        cases hr
        exact absurd List.mem_cons_self hc
    · exact .inr hi
  · cases v with
    | nil =>
      rw [List.append_nil] at hu
      exact .inl (hu ▸ hs.isInfix)
    | cons d v =>
      obtain ⟨rest, hr⟩ := hv
      cases hr
      exact absurd (by simp [hu]) hc

theorem dropStartAnyCase?_append (h : s.map Char.toLower = mark) :
    dropStartAnyCase? mark (s ++ rest) = some rest := by
  induction s generalizing mark with
  | nil => rw [← h]; rfl
  | cons c s ih =>
    rw [← h, List.map_cons, List.cons_append, dropStartAnyCase?, beq_self_eq_true, if_pos rfl]
    exact ih rfl

theorem dropStartAnyCase?_append_eq_none (h : dropStartAnyCase? mark s = none)
    (hr : ∀ c, rest.head? = some c → c.toLower ∉ mark) :
    dropStartAnyCase? mark (s ++ rest) = none := by
  induction s generalizing mark with
  | nil =>
    cases mark with
    | nil => cases h
    | cons m ms =>
      cases rest with
      | nil => rfl
      | cons c rest =>
        have hc : c.toLower ≠ m := fun e => hr c rfl (e ▸ List.mem_cons_self)
        simp [dropStartAnyCase?, hc]
  | cons c s ih =>
    cases mark with
    | nil => cases h
    | cons m ms =>
      simp only [dropStartAnyCase?, List.cons_append] at h ⊢
      split
      · rename_i hc
        rw [if_pos hc] at h
        exact ih h fun d hd hm => hr d hd (List.mem_cons_of_mem m hm)
      · rfl

theorem dropStartAnyCase?_cons_append_eq_none {m : Char}
    (h : dropStartAnyCase? (m :: mark) s = none) (hs : s ≠ [])
    (hr : ∀ c, rest.head? = some c → c.toLower ∉ mark) :
    dropStartAnyCase? (m :: mark) (s ++ rest) = none := by
  cases s with
  | nil => exact absurd rfl hs
  | cons c s =>
    rw [dropStartAnyCase?] at h
    rw [List.cons_append, dropStartAnyCase?]
    split
    · next hc =>
      rw [if_pos hc] at h
      exact dropStartAnyCase?_append_eq_none h hr
    · rfl

theorem suffix_of_dropStartAnyCase? (h : dropStartAnyCase? mark s = some rest) : rest <:+ s := by
  induction s generalizing mark with
  | nil =>
    cases mark with
    | nil => cases h; exact List.suffix_rfl
    | cons m mark => cases h
  | cons c s ih =>
    cases mark with
    | nil => cases h; exact List.suffix_rfl
    | cons m mark =>
      rw [dropStartAnyCase?] at h
      split at h
      · exact (ih h).trans (List.suffix_cons c s)
      · cases h

theorem cutAt?_eq_none (hm : mark ≠ []) (h : ¬mark <:+: s) : cutAt? mark s = none := by
  induction s with
  | nil => simp [cutAt?, hm]
  | cons c r ih =>
    rw [List.infix_cons_iff, not_or] at h
    have hp : mark.isPrefixOf? (c :: r) = none := by
      rw [Option.eq_none_iff_forall_ne_some]
      intro t ht
      exact h.1 ⟨t, List.isPrefixOf?_eq_some_iff_append_eq.mp ht⟩
    simp only [cutAt?, hp, ih h.2, Option.map_none]

theorem cutAt?_append {m : Char} (h : ¬[m, m] <:+: s) (hl : s.getLast? ≠ some m) :
    cutAt? [m, m] (s ++ m :: m :: rest) = some (s, rest) := by
  induction s with
  | nil => simp [cutAt?, List.isPrefixOf?]
  | cons c r ih =>
    rw [List.infix_cons_iff, not_or] at h
    have hp : [m, m].isPrefixOf? (c :: (r ++ m :: m :: rest)) = none := by
      rw [Option.eq_none_iff_forall_ne_some]
      intro t ht
      rw [List.isPrefixOf?_eq_some_iff_append_eq] at ht
      cases r with
      | nil =>
        cases ht
        exact hl rfl
      | cons d r =>
        cases ht
        exact h.1 ⟨r, rfl⟩
    have hl : r.getLast? ≠ some m := by
      cases r with
      | nil => simp
      | cons d r => rwa [List.getLast?_cons_cons] at hl
    simp only [List.cons_append, cutAt?, hp, ih h.2 hl, Option.map_some]

theorem cutAt?_append_of_notMem {m : Char} (h : m ∉ s) :
    cutAt? (m :: mark) (s ++ rest) = (cutAt? (m :: mark) rest).map fun (t, u) => (s ++ t, u) := by
  induction s with
  | nil => simp
  | cons c s ih =>
    rw [List.mem_cons, not_or] at h
    have hp : (m :: mark).isPrefixOf? (c :: (s ++ rest)) = none := by
      simp [List.isPrefixOf?, h.1]
    rw [List.cons_append, cutAt?]
    simp only [hp, ih h.2, Option.map_map]
    rfl

theorem cutLast?_eq_none {c : Char} (h : c ∉ s) : cutLast? c s = none := by
  induction s with
  | nil => rfl
  | cons d s ih =>
    rw [List.mem_cons, not_or] at h
    simp [cutLast?, ih h.2, Ne.symm h.1]

theorem cutLast?_append {c : Char} (h : c ∉ rest) :
    cutLast? c (s ++ c :: rest) = some (s, rest) := by
  induction s with
  | nil => simp [cutLast?, cutLast?_eq_none h]
  | cons d s ih => simp [cutLast?, ih]

theorem dropEnd?_append (mark s : List Char) : dropEnd? mark (s ++ mark) = some s := by
  have hp : mark.reverse.isPrefixOf? (s ++ mark).reverse = some s.reverse := by
    rw [List.isPrefixOf?_eq_some_iff_append_eq, List.reverse_append]
  rw [dropEnd?, hp, Option.map_some, List.reverse_reverse]

theorem dropEnd?_eq_none (h : ¬mark <:+ s) : dropEnd? mark s = none := by
  rw [dropEnd?, Option.map_eq_none_iff, Option.eq_none_iff_forall_ne_some]
  intro t ht
  rw [List.isPrefixOf?_eq_some_iff_append_eq] at ht
  exact h (List.reverse_prefix.mp ⟨t, ht⟩)

end Catalog.Text
