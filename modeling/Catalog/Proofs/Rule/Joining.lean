import Catalog.Proofs.Rule.Grouping
import Catalog.Proofs.Rule.Split

/-! # Joining what was split

The pieces of a rule, joined by their separators, are the rule, and the rule has no other pieces:
a list of pieces is that of its joined text exactly if no piece can be cut and every piece but the
last closes what it opens and does not begin the separator behind it.
-/

namespace Catalog.Rule

variable {s t rest : List Char} {depth : Nat} {script : Bool} {link next : Link} {ps : List Piece}

def join (ps : List Piece) : List Char := ps.flatMap fun p => p.1.spell ++ p.2

/-- How many braces, and whether a script block, are open at the end of a text. There is no answer
if `@js:` stands outside of both, as nothing is open or closed behind it. -/
def openAtEnd? (depth : Nat) (script : Bool) (s : List Char) : Option (Nat × Bool) :=
  match s with
  | [] => some (depth, script)
  | c :: r =>
    if script then
      if scriptClose.isPrefixOf (c :: r) then openAtEnd? depth false (r.drop 4)
      else openAtEnd? depth true r
    else if scriptOpen.isPrefixOf (c :: r) then openAtEnd? depth true (r.drop 3)
    else if depth = 0 ∧ scriptMark.isPrefixOf (c :: r) then none
    else openAtEnd? (braceDepth depth c) false r
termination_by s.length
decreasing_by all_goals (simp only [List.length_cons, List.length_drop]; omega)

/-- A piece that closes what it opens, without `@js:` outside of braces and script blocks, and does
not end in half of the separator behind it. -/
structure Closes (s : List Char) (next : Link) : Prop where
  openAtEnd : openAtEnd? 0 false s = some (0, false)
  last : ∀ c, s.getLast? = some c → next.spell.head? ≠ some c

/-- Pieces that cannot be cut; all but the last are closed, and behind each of these is a
separator. -/
inductive Separated : Link → List Piece → Prop where
  | last {link : Link} {s : List Char} (h : split s = [(.first, s)]) : Separated link [(link, s)]
  | cons {link next : Link} {s : List Char} {ps : List Piece} (h : split s = [(.first, s)])
      (hc : Closes s next) (hn : next ≠ .first) (hs : Separated next ps) :
      Separated link ((link, s) :: ps)

/-- A text that is read character by character in front of `rest` and closes what it opens. -/
inductive Closed (rest : List Char) : Nat → Bool → List Char → Prop where
  | nil : Closed rest 0 false []
  | close {depth : Nat} {s : List Char} (h : Closed rest depth false s) :
      Closed rest depth true (scriptClose ++ s)
  | inside {depth : Nat} {c : Char} {s : List Char} (hc : ¬scriptClose <+: c :: (s ++ rest))
      (h : Closed rest depth true s) : Closed rest depth true (c :: s)
  | opening {depth : Nat} {s : List Char} (h : Closed rest depth true s) :
      Closed rest depth false (scriptOpen ++ s)
  | char {depth : Nat} {c : Char} {s : List Char} (ho : ¬scriptOpen <+: c :: (s ++ rest))
      (hm : ¬(depth = 0 ∧ scriptMark <+: c :: (s ++ rest)))
      (hs : braceDepth depth c = 0 → separator? (c :: (s ++ rest)) = none)
      (h : Closed rest (braceDepth depth c) false s) : Closed rest depth false (c :: s)

namespace Closed

theorem marks_append (h : Closed rest depth script s) :
    marks depth script (s ++ rest) = s.map .char ++ marks 0 false rest := by
  induction h with
  | nil => rfl
  | close _ ih => rw [List.append_assoc, marks_close, ih, List.map_append, List.append_assoc]
  | inside hc _ ih => rw [List.cons_append, marks_inside hc, ih]; rfl
  | opening _ ih => rw [List.append_assoc, marks_open, ih, List.map_append, List.append_assoc]
  | char ho hm hs _ ih => rw [List.cons_append, marks_char ho hm hs, ih]; rfl

theorem alone (h : Closed rest depth script s) : Closed [] depth script s := by
  have hp {mark : List Char} {c : Char} {s : List Char} (hn : ¬mark <+: c :: (s ++ rest)) :
      ¬mark <+: c :: (s ++ []) := by
    rw [List.append_nil]
    exact fun hm => hn (hm.trans (List.prefix_append (c :: s) rest))
  induction h with
  | nil => exact .nil
  | close _ ih => exact .close ih
  | inside hc _ ih => exact .inside (hp hc) ih
  | opening _ ih => exact .opening ih
  | char ho hm hs _ ih =>
    refine .char (hp ho) (fun h => hm ⟨h.1, by_contra fun hn => hp hn h.2⟩) (fun hd => ?_) ih
    obtain ⟨hor, hand⟩ := separator?_eq_none_iff.mp (hs hd)
    exact separator?_eq_none_iff.mpr ⟨hp hor, hp hand⟩

theorem extend (h : Closed [] depth script s) (hp : Parts s rest)
    (hr : ∀ c, rest.head? = some c → c ∉ scriptClose) : Closed rest depth script s := by
  induction h with
  | nil => exact .nil
  | close _ ih => exact .close (ih hp.of_append)
  | @inside depth c s hc _ ih =>
    rw [List.append_nil] at hc
    refine .inside (fun hm => hc ?_) (ih (Parts.of_append hp (s := [c])))
    refine Text.prefix_of_prefix_append hm (List.cons_ne_nil c s) fun d e _ he hi => ?_
    exact hr e he (hi.subset (by simp))
  | opening _ ih => exact .opening (ih hp.of_append)
  | @char depth c s ho hm hs _ ih =>
    rw [List.append_nil] at ho hm hs
    have hn {mark : List Char} (hm : mark ∈ stops) :
        ¬mark <+: c :: s → ¬mark <+: c :: (s ++ rest) :=
      hp.not_prefix (List.cons_ne_nil c s) hm
    refine .char (hn (by simp [stops]) ho) (fun h => ?_) (fun hd => ?_)
      (ih (Parts.of_append hp (s := [c])))
    · exact hn (by simp [stops]) (fun hp => hm ⟨h.1, hp⟩) h.2
    · obtain ⟨hor, hand⟩ := separator?_eq_none_iff.mp (hs hd)
      exact separator?_eq_none_iff.mpr ⟨hn (by simp [stops]) hor, hn (by simp [stops]) hand⟩

theorem openAtEnd (h : Closed [] depth script s) : openAtEnd? depth script s = some (0, false) := by
  induction h with
  | nil => rw [openAtEnd?]
  | @close depth s _ ih =>
    rw [← ih]
    change openAtEnd? depth true ('<' :: '/' :: 'j' :: 's' :: '>' :: s) = _
    rw [openAtEnd?]
    simp [scriptClose]
  | @inside depth c s hc _ ih =>
    rw [List.append_nil, ← List.isPrefixOf_iff_prefix] at hc
    rw [openAtEnd?]
    simpa only [hc, if_true, if_false, Bool.false_eq_true] using ih
  | @opening depth s _ ih =>
    rw [← ih]
    change openAtEnd? depth false ('<' :: 'j' :: 's' :: '>' :: s) = _
    rw [openAtEnd?]
    simp [scriptOpen]
  | @char depth c s ho hm _ _ ih =>
    rw [List.append_nil, ← List.isPrefixOf_iff_prefix] at ho hm
    rw [openAtEnd?]
    simpa only [ho, hm, if_false, Bool.false_eq_true] using ih

theorem depth_eq_zero (h : Closed rest depth false []) : depth = 0 := by
  generalize hs : ([] : List Char) = s at h
  cases h with
  | nil => rfl
  | opening => cases hs
  | char => cases hs

theorem last (h : Closed (next.spell ++ rest) depth script s) (c : Char)
    (hc : s.getLast? = some c) : next.spell.head? ≠ some c := by
  have hne : ∀ c, c ∈ scriptOpen ++ scriptClose → next.spell.head? ≠ some c := by
    intro c hm hn
    cases next <;> cases hn <;> exact absurd hm (by decide)
  induction h with
  | nil => cases hc
  | close _ ih =>
    rw [List.getLast?_append] at hc
    rcases Option.or_eq_some_iff.mp hc with hc | ⟨-, hc⟩
    · exact ih hc
    · exact hne c (List.mem_append_right _ (List.mem_of_getLast? hc))
  | opening _ ih =>
    rw [List.getLast?_append] at hc
    rcases Option.or_eq_some_iff.mp hc with hc | ⟨-, hc⟩
    · exact ih hc
    · exact hne c (List.mem_append_left _ (List.mem_of_getLast? hc))
  | @inside depth d s _ h ih =>
    cases s with
    | nil => cases h
    | cons e s => exact ih (by rwa [List.getLast?_cons_cons] at hc)
  | @char depth d s _ _ hs h ih =>
    cases s with
    | cons e s => exact ih (by rwa [List.getLast?_cons_cons] at hc)
    | nil =>
      obtain rfl : d = c := by simpa using hc
      have hd : braceDepth depth d = 0 := h.depth_eq_zero
      obtain ⟨hor, hand⟩ := separator?_eq_none_iff.mp (hs hd)
      intro hn
      cases next <;> cases hn
      · exact hor ⟨'|' :: rest, rfl⟩
      · exact hand ⟨'&' :: rest, rfl⟩

end Closed

theorem closed_of_openAtEnd (h : openAtEnd? depth script s = some (0, false))
    (hm : marks depth script s = s.map .char) : Closed [] depth script s := by
  fun_induction openAtEnd? depth script s with
  | case1 => cases h; exact .nil
  | case2 depth c r hp ih =>
    rw [eq_append_of_isPrefixOf hp] at hm ⊢
    rw [marks_close, List.map_append] at hm
    exact .close (ih h (List.append_cancel_left hm))
  | case3 depth c r hp ih =>
    rw [List.isPrefixOf_iff_prefix] at hp
    rw [marks_inside hp] at hm
    exact .inside (by rwa [List.append_nil]) (ih h (List.cons.inj hm).2)
  | case4 depth script c r hs hp ih =>
    obtain rfl : script = false := by simpa using hs
    rw [eq_append_of_isPrefixOf hp] at hm ⊢
    rw [marks_open, List.map_append] at hm
    exact .opening (ih h (List.append_cancel_left hm))
  | case5 => cases h
  | case6 depth script c r hs ho hp ih =>
    obtain rfl : script = false := by simpa using hs
    rw [List.isPrefixOf_iff_prefix] at ho hp
    have hsep : braceDepth depth c = 0 → separator? (c :: r) = none := by
      intro hd
      cases hsep : separator? (c :: r) with
      | none => rfl
      | some link =>
        rw [marks_cut ho hp hd hsep] at hm
        cases hm
    rw [marks_char ho hp hsep] at hm
    refine .char ?_ ?_ ?_ (ih h (List.cons.inj hm).2) <;> rwa [List.append_nil]

theorem separator?_eq_some {c : Char} (h : separator? (c :: s) = some link) :
    link ≠ .first ∧ c :: s = link.spell ++ s.drop 1 ∧ ∀ depth, braceDepth depth c = depth := by
  unfold separator? at h
  split at h
  · next r hr => cases hr; cases h; exact ⟨nofun, rfl, fun _ => rfl⟩
  · next r hr => cases hr; cases h; exact ⟨nofun, rfl, fun _ => rfl⟩
  · cases h

/-- A text has no cut, or it is closed in front of the first one. -/
theorem marks_cases (depth : Nat) (script : Bool) (s : List Char) :
    marks depth script s = s.map .char ∨
      ∃ (t : List Char) (next : Link) (rest : List Char), next ≠ .first ∧
        s = t ++ (next.spell ++ rest) ∧ Closed (next.spell ++ rest) depth script t := by
  -- what is opened and closed on the way to the cut is a part of the text in front of it
  fun_induction marks depth script s with
  | case1 => exact .inl rfl
  | case2 depth c r hp ih =>
    rw [eq_append_of_isPrefixOf hp]
    rcases ih with ih | ⟨t, next, rest, hn, hr, hc⟩
    · exact .inl (by simp [ih, scriptClose])
    · exact .inr ⟨scriptClose ++ t, next, rest, hn, by simp [hr, scriptClose], .close hc⟩
  | case3 depth c r hp ih =>
    rcases ih with ih | ⟨t, next, rest, hn, rfl, hc⟩
    · exact .inl (by rw [ih]; rfl)
    · rw [List.isPrefixOf_iff_prefix] at hp
      exact .inr ⟨c :: t, next, rest, hn, rfl, .inside hp hc⟩
  | case4 depth script c r hs hp ih =>
    obtain rfl : script = false := by simpa using hs
    rw [eq_append_of_isPrefixOf hp]
    rcases ih with ih | ⟨t, next, rest, hn, hr, hc⟩
    · exact .inl (by simp [ih, scriptOpen])
    · exact .inr ⟨scriptOpen ++ t, next, rest, hn, by simp [hr, scriptOpen], .opening hc⟩
  | case5 => exact .inl rfl
  | case6 depth script c r hs ho hm hd link hl ih =>
    obtain rfl : script = false := by simpa using hs
    obtain ⟨hn, hr, hb⟩ := separator?_eq_some hl
    obtain rfl : depth = 0 := (hb depth).symm.trans hd
    exact .inr ⟨[], link, r.drop 1, hn, hr, .nil⟩
  | case7 depth script c r hs ho hm hd hl ih =>
    obtain rfl : script = false := by simpa using hs
    rw [List.isPrefixOf_iff_prefix] at ho hm
    rcases ih with ih | ⟨t, next, rest, hn, rfl, hc⟩
    · exact .inl (by rw [ih]; rfl)
    · exact .inr ⟨c :: t, next, rest, hn, rfl, .char ho hm (fun _ => hl) (by rwa [hd])⟩
  | case8 depth script c r hs ho hm hd ih =>
    obtain rfl : script = false := by simpa using hs
    rw [List.isPrefixOf_iff_prefix] at ho hm
    rcases ih with ih | ⟨t, next, rest, hn, rfl, hc⟩
    · exact .inl (by rw [ih]; rfl)
    · exact .inr ⟨c :: t, next, rest, hn, rfl, .char ho hm (fun h => absurd h hd) hc⟩

theorem pieces_closed (h : Closed (next.spell ++ rest) 0 false s) (hn : next ≠ .first)
    (link : Link) :
    pieces link (marks 0 false (s ++ (next.spell ++ rest))) =
      (link, s) :: pieces next (marks 0 false rest) := by
  rw [h.marks_append, marks_separator hn, pieces_cut]

theorem pieces_eq_singleton_iff :
    pieces link (marks 0 false s) = [(link, s)] ↔ marks 0 false s = s.map .char := by
  constructor
  · intro h
    rcases marks_cases 0 false s with hm | ⟨t, next, rest, hn, rfl, hc⟩
    · exact hm
    · obtain ⟨text, others, hp, -⟩ := pieces_links (marks_cut_ne_first 0 false rest) next
      rw [pieces_closed hc hn, hp] at h
      simp at h
  · intro h
    rw [h, pieces_chars]

theorem split_eq_singleton_iff : split s = [(.first, s)] ↔ marks 0 false s = s.map .char :=
  pieces_eq_singleton_iff

namespace Separated

theorem exists_join (h : Separated link ps) : ∃ rest, join ps = link.spell ++ rest := by
  cases h with
  | last => exact ⟨_, List.append_nil _⟩
  | cons => exact ⟨_, List.append_assoc _ _ _⟩

/-- Pieces of which each can stand in front of the next are found again in their joined text. -/
theorem pieces_join (h : Separated link ps) (hj : join ps = link.spell ++ s) :
    pieces link (marks 0 false s) = ps := by
  induction h generalizing s with
  | @last link t h =>
    obtain rfl : t = s := by simpa [join] using hj
    rw [split_eq_singleton_iff.mp h, pieces_chars]
  | @cons link next t ps h hc hn hs ih =>
    obtain ⟨rest, hr⟩ := hs.exists_join
    obtain rfl : t ++ (next.spell ++ rest) = s := by simpa [join, ← hr] using hj
    have ht : Closed [] 0 false t := closed_of_openAtEnd hc.openAtEnd (split_eq_singleton_iff.mp h)
    have hx : Closed (next.spell ++ rest) 0 false t := by
      refine ht.extend (.separator hn hc.last) fun c hc => ?_
      cases next with
      | first => exact absurd rfl hn
      | or => cases hc; decide
      | and => cases hc; decide
    rw [pieces_closed hx hn, ih hr]

end Separated

/-- The pieces that are found can each stand in front of the next, and make up the rule. -/
theorem separated_pieces (link : Link) (s : List Char) :
    Separated link (pieces link (marks 0 false s)) ∧
      join (pieces link (marks 0 false s)) = link.spell ++ s := by
  induction hl : s.length using Nat.strongRecOn generalizing link s with
  | ind n ih =>
    rcases marks_cases 0 false s with hm | ⟨t, next, rest, hn, rfl, hc⟩
    · rw [hm, pieces_chars]
      exact ⟨.last (split_eq_singleton_iff.mpr hm), by simp [join]⟩
    · have hlt : rest.length < n := by
        cases next <;> simp [Link.spell] at hl hn ⊢ <;> omega
      obtain ⟨hs, hj⟩ := ih rest.length hlt next rest rfl
      rw [pieces_closed hc hn]
      have hm := hc.alone.marks_append
      rw [List.append_nil, marks, List.append_nil] at hm
      exact ⟨.cons (split_eq_singleton_iff.mpr hm) ⟨hc.alone.openAtEnd, hc.last⟩ hn hs,
        by simpa [join] using hj⟩

/-- Splitting and joining undo each other. A rule is split into pieces exactly if these make up the
rule, none can be cut further, and each can stand in front of the next. -/
theorem split_eq_iff : split s = ps ↔ Separated .first ps ∧ join ps = s := by
  constructor
  · rintro rfl
    exact separated_pieces .first s
  · rintro ⟨h, rfl⟩
    exact h.pieces_join rfl

end Catalog.Rule
