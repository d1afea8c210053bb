import Catalog.Proofs.Text.Cut
import Catalog.Rule.Printer

/-! # Splitting what was joined

A piece is clear in front of a text if it is read up to its end without a cut. Clear pieces that are
joined by separators are split again.
-/

namespace Catalog.Rule

open Text

variable {s t rest : List Char}

theorem eq_append_of_isPrefixOf {mark : List Char} (h : mark.isPrefixOf s = true) :
    s = mark ++ s.drop mark.length :=
  (List.prefix_iff_eq_append.mp (List.isPrefixOf_iff_prefix.mp h)).symm

theorem marks_open (depth : Nat) (s : List Char) :
    marks depth false (scriptOpen ++ s) = scriptOpen.map .char ++ marks depth true s := by
  change marks depth false ('<' :: 'j' :: 's' :: '>' :: s) = _
  rw [marks]
  simp [scriptOpen]

theorem marks_close (depth : Nat) (s : List Char) :
    marks depth true (scriptClose ++ s) = scriptClose.map .char ++ marks depth false s := by
  change marks depth true ('<' :: '/' :: 'j' :: 's' :: '>' :: s) = _
  rw [marks]
  simp [scriptClose]

theorem marks_inside {c : Char} {depth : Nat} (h : ¬scriptClose <+: c :: s) :
    marks depth true (c :: s) = .char c :: marks depth true s := by
  rw [← List.isPrefixOf_iff_prefix] at h
  rw [marks]
  simp only [h, if_true, Bool.false_eq_true, if_false]

theorem marks_char {c : Char} {depth : Nat} (ho : ¬scriptOpen <+: c :: s)
    (hm : ¬(depth = 0 ∧ scriptMark <+: c :: s))
    (hs : braceDepth depth c = 0 → separator? (c :: s) = none) :
    marks depth false (c :: s) = .char c :: marks (braceDepth depth c) false s := by
  rw [← List.isPrefixOf_iff_prefix] at ho hm
  rw [marks]
  by_cases hd : braceDepth depth c = 0
  · simp only [ho, hm, hd, hs hd, if_true, if_false, Bool.false_eq_true]
  · simp only [ho, hm, hd, if_false, Bool.false_eq_true]

theorem marks_cut {c : Char} {depth : Nat} {link : Link} (ho : ¬scriptOpen <+: c :: s)
    (hm : ¬(depth = 0 ∧ scriptMark <+: c :: s)) (hd : braceDepth depth c = 0)
    (hs : separator? (c :: s) = some link) :
    marks depth false (c :: s) = .cut link :: marks 0 false (s.drop 1) := by
  rw [← List.isPrefixOf_iff_prefix] at ho hm
  rw [marks]
  simp only [ho, hm, hd, hs, if_true, if_false, Bool.false_eq_true]

/-- All marks of a text are characters, and nothing is open behind it. -/
def Clear (s rest : List Char) : Prop :=
  marks 0 false (s ++ rest) = s.map .char ++ marks 0 false rest

theorem Clear.nil : Clear [] rest := rfl

theorem Clear.append (hs : Clear s (t ++ rest)) (ht : Clear t rest) : Clear (s ++ t) rest := by
  rw [Clear, List.append_assoc, hs, ht, List.map_append, List.append_assoc]

theorem Clear.cons {c : Char} (ho : c ≠ '\x7b') (hc : c ≠ '\x7d')
    (hb : ¬scriptOpen <+: c :: (s ++ rest)) (hm : ¬scriptMark <+: c :: (s ++ rest))
    (hs : separator? (c :: (s ++ rest)) = none) (h : Clear s rest) : Clear (c :: s) rest := by
  have hd : braceDepth 0 c = 0 := by simp [braceDepth, ho, hc]
  rw [Clear, List.cons_append, marks_char hb (fun h => hm h.2) fun _ => hs, hd, h]
  rfl

theorem separator?_eq_none_iff :
    separator? s = none ↔ ¬['|', '|'] <+: s ∧ ¬['&', '&'] <+: s := by
  constructor
  · intro h
    constructor <;> rintro ⟨r, rfl⟩ <;> cases h
  · rintro ⟨ho, ha⟩
    unfold separator?
    split
    · next r => exact absurd ⟨r, rfl⟩ ho
    · next r => exact absurd ⟨r, rfl⟩ ha
    · rfl

def heads : List Char := ['\x7b', '\x7d', '<', '@', '|', '&']

theorem Clear.cons_of_notMem {c : Char} (hc : c ∉ heads) (h : Clear s rest) :
    Clear (c :: s) rest := by
  simp only [heads, List.mem_cons, List.not_mem_nil, or_false, not_or] at hc
  obtain ⟨ho, hc, hb, hm, hor, hand⟩ := hc
  refine .cons ho hc ?_ ?_ (separator?_eq_none_iff.mpr ⟨?_, ?_⟩) h
  · exact fun hp => hb (List.cons_prefix_cons.mp hp).1.symm
  · exact fun hp => hm (List.cons_prefix_cons.mp hp).1.symm
  · exact fun hp => hor (List.cons_prefix_cons.mp hp).1.symm
  · exact fun hp => hand (List.cons_prefix_cons.mp hp).1.symm

theorem Plain.of_infix (h : Plain s) (hi : t <:+: s) : Plain t where
  or := fun hm => h.or (hm.trans hi)
  and := fun hm => h.and (hm.trans hi)
  opening := fun hm => h.opening (hi.subset hm)
  closing := fun hm => h.closing (hi.subset hm)
  mark := fun hm => h.mark (hm.trans hi)
  block := fun hm => h.block (hm.trans hi)

/-- At these a text is not read on character by character. -/
def stops : List (List Char) := [['|', '|'], ['&', '&'], scriptOpen, scriptMark]

/-- None of the stops goes on from a text to what follows it. -/
def Parts (s rest : List Char) : Prop :=
  ∀ d c, s.getLast? = some d → rest.head? = some c → ∀ mark ∈ stops, ¬[d, c] <:+: mark

theorem Parts.not_prefix (h : Parts s rest) (hs : s ≠ []) {mark : List Char} (hm : mark ∈ stops)
    (hn : ¬mark <+: s) : ¬mark <+: s ++ rest :=
  fun hp => hn (prefix_of_prefix_append hp hs fun d c hd hc => h d c hd hc mark hm)

theorem Parts.of_append (h : Parts (s ++ t) rest) : Parts t rest := by
  intro d c hd hc
  refine h d c ?_ hc
  rw [List.getLast?_append, hd, Option.some_or]

theorem Plain.clear (h : Plain s) (hp : Parts s rest) : Clear s rest := by
  induction s with
  | nil => exact .nil
  | cons c r ih =>
    have hr : Parts r rest := Parts.of_append (s := [c]) hp
    have hn : ∀ mark ∈ stops, ¬mark <:+: c :: r → ¬mark <+: c :: (r ++ rest) :=
      fun mark hm hi => hp.not_prefix (List.cons_ne_nil c r) hm fun hq => hi hq.isInfix
    refine .cons ?_ ?_ (hn _ (by simp [stops]) h.block) (hn _ (by simp [stops]) h.mark) ?_
      (ih (h.of_infix (List.suffix_cons c r).isInfix) hr)
    · exact fun e => h.opening (e ▸ List.mem_cons_self)
    · exact fun e => h.closing (e ▸ List.mem_cons_self)
    · exact separator?_eq_none_iff.mpr
        ⟨hn _ (by simp [stops]) h.or, hn _ (by simp [stops]) h.and⟩

namespace Parts

theorem nil : Parts s [] := fun _ _ _ h => by cases h

theorem hash : Parts s ('#' :: rest) := by
  rintro d _ - ⟨⟩ mark hm hi
  have hc : '#' ∈ mark := hi.subset (by simp)
  simp only [stops, List.mem_cons, List.not_mem_nil, or_false] at hm
  rcases hm with rfl | rfl | rfl | rfl <;> exact absurd hc (by decide)

theorem separator {link : Link} (hn : link ≠ .first)
    (hl : ∀ c, s.getLast? = some c → link.spell.head? ≠ some c) :
    Parts s (link.spell ++ rest) := by
  intro d c hd hc mark hm hi
  have hl := hl d hd
  simp only [stops, List.mem_cons, List.not_mem_nil, or_false] at hm
  cases link with
  | first => exact hn rfl
  | or =>
    cases hc
    have hb : '|' ∈ mark := hi.subset (by simp)
    rcases hm with rfl | rfl | rfl | rfl
    · obtain rfl : d = '|' := by simpa using hi.subset List.mem_cons_self
      exact hl rfl
    all_goals exact absurd hb (by decide)
  | and =>
    cases hc
    have hb : '&' ∈ mark := hi.subset (by simp)
    rcases hm with rfl | rfl | rfl | rfl
    · exact absurd hb (by decide)
    · obtain rfl : d = '&' := by simpa using hi.subset List.mem_cons_self
      exact hl rfl
    all_goals exact absurd hb (by decide)

end Parts

theorem marks_script (h : ¬scriptClose <:+: s) :
    marks 0 true (s ++ (scriptClose ++ rest)) =
      s.map .char ++ (scriptClose.map .char ++ marks 0 false rest) := by
  induction s with
  | nil => exact marks_close 0 rest
  | cons c r ih =>
    rw [List.infix_cons_iff, not_or] at h
    have hp : ¬scriptClose <+: c :: (r ++ (scriptClose ++ rest)) := by
      intro hq
      refine h.1 (prefix_of_prefix_append hq (List.cons_ne_nil c r) ?_)
      rintro d _ - ⟨⟩ hi
      simp [scriptClose, List.infix_cons_iff] at hi
    rw [List.cons_append, marks_inside hp, ih h.2]
    rfl

theorem clear_script (h : ¬scriptClose <:+: s) : Clear (scriptOpen ++ (s ++ scriptClose)) rest := by
  rw [Clear, List.append_assoc, List.append_assoc, marks_open, marks_script h]
  simp only [List.map_append, List.append_assoc]

theorem clear_dialect {d : Dialect} (h : d ≠ .script) : Clear d.spell rest := by
  cases d with
  | script => exact absurd rfl h
  | default => exact .nil
  | _ =>
    repeat refine .cons (by decide) (by decide) (by simp [scriptOpen]) (by simp [scriptMark]) rfl ?_
    exact .nil

theorem clear_hashes : Clear ['#', '#'] rest := by
  repeat refine .cons (by decide) (by decide) (by simp [scriptOpen]) (by simp [scriptMark]) rfl ?_
  exact .nil

theorem clear_replacement {r : Replacement} (hs : Plain r.pattern.source.toList)
    (ht : Plain r.text.toList) (hp : Parts r.spell rest) : Clear r.spell rest := by
  refine .append clear_hashes ?_
  refine .append (hs.clear .hash) ?_
  refine .append clear_hashes ?_
  rcases hf : r.firstOnly with _ | _
  · simp only [Bool.false_eq_true, if_false, List.append_nil]
    refine ht.clear ?_
    simp only [Replacement.spell, hf, Bool.false_eq_true, if_false, List.append_nil] at hp
    exact hp.of_append.of_append.of_append
  · simp only [if_true]
    exact .append (ht.clear .hash) (.cons (by decide) (by decide) (by simp [scriptOpen])
      (by simp [scriptMark]) rfl clear_hashes)

/-- A fragment that can be read again is clear in front of whatever it does not go on to. -/
theorem clear_fragment {f : Fragment} (h : f.Printable) (hp : Parts f.spell rest) :
    Clear f.spell rest := by
  by_cases hd : f.dialect = .script
  · obtain ⟨ht, -⟩ := h.script hd
    simp only [Fragment.spell, Fragment.spellEnd, hd, if_true]
    exact clear_script ht.close
  · have ht := h.query hd
    unfold Fragment.spell at hp ⊢
    refine .append (clear_dialect hd) ?_
    simp only [Fragment.spellEnd, hd, if_false] at hp ⊢
    cases hr : f.replacement with
    | none =>
      simp only [hr, Option.elim_none, List.append_nil] at hp ⊢
      exact ht.clear hp.of_append
    | some r =>
      simp only [hr, Option.elim_some] at hp ⊢
      have hrep := h.replacement r hr
      exact .append (ht.clear .hash)
        (clear_replacement hrep.pattern hrep.text hp.of_append.of_append)

theorem marks_separator {link : Link} (h : link ≠ .first) (s : List Char) :
    marks 0 false (link.spell ++ s) = .cut link :: marks 0 false s := by
  cases link with
  | first => exact absurd rfl h
  | or =>
    change marks 0 false ('|' :: '|' :: s) = _
    rw [marks]
    simp [scriptOpen, scriptMark, braceDepth, separator?]
  | and =>
    change marks 0 false ('&' :: '&' :: s) = _
    rw [marks]
    simp [scriptOpen, scriptMark, braceDepth, separator?]

theorem pieces_chars (link : Link) (s : List Char) : pieces link (s.map .char) = [(link, s)] := by
  induction s with
  | nil => rfl
  | cons c r ih => simp only [List.map_cons, pieces, ih]

theorem pieces_cut (link next : Link) (s : List Char) (ms : List Mark) :
    pieces link (s.map .char ++ .cut next :: ms) = (link, s) :: pieces next ms := by
  induction s with
  | nil => rfl
  | cons c r ih => simp only [List.map_cons, List.cons_append, pieces, ih]

theorem last_spell {f : Fragment} (h : f.Printable) (link : Link) (c : Char)
    (hc : f.spell.getLast? = some c) : link.spell.head? ≠ some c := by
  intro hl
  cases link <;> cases hl
  · exact h.bar hc
  · exact h.ampersand hc

/-- Fragments that are joined are split again. -/
theorem pieces_marks {f : Fragment} {rest : List Fragment} (link : Link) (hf : f.Printable)
    (hr : ∀ g ∈ rest, g.Printable) (hl : ∀ g ∈ rest, g.link ≠ .first) :
    pieces link (marks 0 false (f.spell ++ rest.flatMap fun g => g.link.spell ++ g.spell)) =
      (link, f.spell) :: rest.map fun g => (g.link, g.spell) := by
  induction rest generalizing f link with
  | nil =>
    have hc := clear_fragment hf .nil
    rw [List.flatMap_nil, hc, marks, List.append_nil, pieces_chars]
    rfl
  | cons g rest ih =>
    have hg : g.link ≠ .first := hl g List.mem_cons_self
    rw [List.flatMap_cons, List.append_assoc,
      clear_fragment hf (.separator hg (last_spell hf g.link)), marks_separator hg, pieces_cut,
      ih g.link (hr g List.mem_cons_self) (fun g' h => hr g' (List.mem_cons_of_mem g h))
        (fun g' h => hl g' (List.mem_cons_of_mem g h))]
    rfl

end Catalog.Rule
