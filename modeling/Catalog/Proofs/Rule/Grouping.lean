import Mathlib.Tactic.ByContra
import Catalog.Rule.Resolve

/-! # Alternatives of a rule

The alternatives of a rule are what stands between its `||`, once the pieces that say nothing are
left out. They are left out first: a blank piece behind `||` takes its separator along, so that what
is behind it may be joined to what is before it.
-/

namespace Catalog

def Fragment.unlinked (f : Fragment) : Fragment := { f with link := .first }

namespace Rule

section

variable {α : Type} {pieces rest gap : List (Link × Option α)} {link next : Link} {a b : α}

/-- What stands before the first `||`, and the groups that start behind one. -/
def cutAtOr : List (Link × α) → List (Link × α) × List (List (Link × α))
  | [] => ([], [])
  | x :: rest =>
    let (before, groups) := cutAtOr rest
    if x.1 = .or then ([], (x :: before) :: groups) else (x :: before, groups)

def saidIn (group : List (Link × Option α)) : List α := group.filterMap (·.2)

def saidBetween (pieces : List (Link × Option α)) : List (List α) :=
  let (before, groups) := cutAtOr pieces
  ((before :: groups).map saidIn).filter (!·.isEmpty)

def spoken (pieces : List (Link × Option α)) : List (Link × Option α) :=
  pieces.filter (·.2.isSome)

/-- Blank pieces, one of them behind `||`, stand between something and what is not itself behind
`||`. -/
inductive Regroups : List (Link × Option α) → Prop where
  | here {link next : Link} {a b : α} {gap rest : List (Link × Option α)}
      (hb : ∀ x ∈ gap, x.2 = none) (ho : ∃ x ∈ gap, x.1 = .or) (hn : next ≠ .or) :
      Regroups ((link, some a) :: (gap ++ (next, some b) :: rest))
  | later {x : Link × Option α} {rest : List (Link × Option α)} (h : Regroups rest) :
      Regroups (x :: rest)

def parts (pieces : List (Link × Option α)) : List α × List (List α) :=
  let (before, groups) := cutAtOr pieces
  (saidIn before, (groups.map saidIn).filter (!·.isEmpty))

def together (p : List α × List (List α)) : List (List α) :=
  if p.1.isEmpty then p.2 else p.1 :: p.2

theorem saidBetween_eq (pieces : List (Link × Option α)) :
    saidBetween pieces = together (parts pieces) := by
  simp only [saidBetween, parts, together, List.map_cons, List.filter_cons]
  by_cases h : saidIn (cutAtOr pieces).1 = [] <;> simp [h]

theorem parts_some (link : Link) (a : α) (rest : List (Link × Option α)) :
    parts ((link, some a) :: rest) =
      if link = .or then ([], (a :: (parts rest).1) :: (parts rest).2)
      else (a :: (parts rest).1, (parts rest).2) := by
  simp only [parts, cutAtOr]
  split <;> rfl

theorem parts_none (link : Link) (rest : List (Link × Option α)) :
    parts ((link, none) :: rest) = if link = .or then ([], saidBetween rest) else parts rest := by
  simp only [parts, saidBetween, cutAtOr]
  split <;> rfl

theorem saidBetween_some (link : Link) (a : α) (rest : List (Link × Option α)) :
    saidBetween ((link, some a) :: rest) = (a :: (parts rest).1) :: (parts rest).2 := by
  rw [saidBetween_eq, parts_some]
  split <;> rfl

theorem saidBetween_none (link : Link) (rest : List (Link × Option α)) :
    saidBetween ((link, none) :: rest) = saidBetween rest := by
  rw [saidBetween_eq, parts_none]
  split
  · rfl
  · exact (saidBetween_eq rest).symm

theorem length_parts_some (link : Link) (a : α) (rest : List (Link × Option α)) :
    (parts ((link, some a) :: rest)).2.length =
      (parts rest).2.length + if link = .or then 1 else 0 := by
  rw [parts_some]
  split <;> rfl

theorem length_le_parts_none (link : Link) (rest : List (Link × Option α)) :
    (parts rest).2.length ≤ (parts ((link, none) :: rest)).2.length := by
  rw [parts_none]
  split
  · rw [saidBetween_eq, together]
    split
    · exact Nat.le_refl _
    · exact Nat.le_succ _
  · exact Nat.le_refl _

theorem spoken_some (link : Link) (a : α) (rest : List (Link × Option α)) :
    spoken ((link, some a) :: rest) = (link, some a) :: spoken rest := rfl

theorem spoken_none (link : Link) (rest : List (Link × Option α)) :
    spoken ((link, none) :: rest) = spoken rest := rfl

theorem spoken_append_of_blank (h : ∀ x ∈ gap, x.2 = none) (rest : List (Link × Option α)) :
    spoken (gap ++ rest) = spoken rest := by
  rw [spoken, List.filter_append, List.filter_eq_nil_iff.mpr fun x hx => by simp [h x hx]]
  rfl

theorem Regroups.blank (h : Regroups ((link, some a) :: rest)) (next : Link) :
    Regroups ((link, some a) :: (next, none) :: rest) := by
  cases h with
  | here hb ho hn =>
    obtain ⟨x, hx, hl⟩ := ho
    rw [← List.cons_append]
    refine .here (fun y hy => ?_) ⟨x, .tail _ hx, hl⟩ hn
    rcases List.mem_cons.mp hy with rfl | hy
    · rfl
    · exact hb y hy
  | later h => exact .later (.later h)

/-- If the kept pieces say anything before their first `||`, the first of them is not behind one. -/
theorem exists_of_parts_ne_nil (h : (parts (spoken pieces)).1 ≠ []) :
    ∃ gap next b rest, pieces = gap ++ (next, some b) :: rest ∧ (∀ x ∈ gap, x.2 = none) ∧
      next ≠ .or := by
  induction pieces with
  | nil => exact absurd rfl h
  | cons x pieces ih =>
    obtain ⟨link, _ | a⟩ := x
    · obtain ⟨gap, next, b, rest, rfl, hb, hn⟩ := ih h
      refine ⟨(link, none) :: gap, next, b, rest, rfl, ?_, hn⟩
      simpa using hb
    · refine ⟨[], link, a, pieces, rfl, by simp, fun hl => h ?_⟩
      rw [spoken_some, parts_some, if_pos hl]

theorem parts_spoken (h : ¬Regroups ((link, some a) :: pieces)) :
    parts (spoken pieces) = parts pieces := by
  induction pieces generalizing link a with
  | nil => rfl
  | cons x pieces ih =>
    obtain ⟨next, _ | b⟩ := x
    · have hp := ih fun hr => h (hr.blank next)
      rw [spoken_none, parts_none]
      split
      · next ho =>
        -- The separator ends a group, so what is kept next must have one of its own.
        have hn : (parts (spoken pieces)).1 = [] := by
          by_contra hne
          obtain ⟨gap, l, b, rest, rfl, hb, hl⟩ := exists_of_parts_ne_nil hne
          rw [← List.cons_append] at h
          refine h (.here ?_ ⟨_, .head _, ho⟩ hl)
          simpa using hb
        rw [saidBetween_eq, ← hp, together, hn]
        exact Prod.ext hn rfl
      · exact hp
    · rw [spoken_some, parts_some, parts_some, ih fun hr => h (.later hr)]

theorem length_spoken_le (pieces : List (Link × Option α)) :
    (parts (spoken pieces)).2.length ≤ (parts pieces).2.length := by
  induction pieces with
  | nil => exact Nat.le_refl _
  | cons x pieces ih =>
    obtain ⟨link, _ | a⟩ := x
    · exact Nat.le_trans ih (length_le_parts_none link pieces)
    · rw [spoken_some, length_parts_some, length_parts_some]
      exact Nat.add_le_add_right ih _

theorem saidBetween_append_of_blank (h : ∀ x ∈ gap, x.2 = none)
    (rest : List (Link × Option α)) : saidBetween (gap ++ rest) = saidBetween rest := by
  induction gap with
  | nil => rfl
  | cons x gap ih =>
    obtain ⟨hx, hg⟩ := List.forall_mem_cons.mp h
    obtain ⟨link, _⟩ := x
    cases hx
    rw [List.cons_append, saidBetween_none, ih hg]

theorem length_gap_lt (hb : ∀ x ∈ gap, x.2 = none) (ho : ∃ x ∈ gap, x.1 = .or) (hn : next ≠ .or) :
    (parts ((next, some b) :: rest)).2.length <
      (parts (gap ++ (next, some b) :: rest)).2.length := by
  induction gap with
  | nil => simp at ho
  | cons x gap ih =>
    obtain ⟨hx, hg⟩ := List.forall_mem_cons.mp hb
    obtain ⟨link, _⟩ := x
    cases hx
    rw [List.cons_append, parts_none]
    split
    · rw [saidBetween_append_of_blank hg, saidBetween_some, parts_some, if_neg hn]
      exact Nat.lt_succ_self _
    · next hl =>
      refine ih hg ?_
      simpa [hl] using ho

theorem Regroups.length_lt (h : Regroups pieces) :
    (parts (spoken pieces)).2.length < (parts pieces).2.length := by
  induction h with
  | @here link next a b gap rest hb ho hn =>
    have hl : (parts (spoken ((next, some b) :: rest))).2.length <
        (parts (gap ++ (next, some b) :: rest)).2.length :=
      Nat.lt_of_le_of_lt (length_spoken_le _) (length_gap_lt hb ho hn)
    rw [spoken_some, spoken_append_of_blank hb, length_parts_some, length_parts_some]
    exact Nat.add_lt_add_right hl _
  | @later x rest _ ih =>
    obtain ⟨link, _ | a⟩ := x
    · exact Nat.lt_of_lt_of_le ih (length_le_parts_none link rest)
    · rw [spoken_some, length_parts_some, length_parts_some]
      exact Nat.add_lt_add_right ih _

theorem Regroups.lt_of_some (h : Regroups ((link, some a) :: rest)) :
    (parts (spoken rest)).2.length < (parts rest).2.length := by
  have hl := h.length_lt
  rw [spoken_some, length_parts_some, length_parts_some] at hl
  exact Nat.lt_of_add_lt_add_right hl

/-- Leaving out blank pieces first makes the same groups unless the pieces regroup. -/
theorem saidBetween_spoken_eq_iff (pieces : List (Link × Option α)) :
    saidBetween (spoken pieces) = saidBetween pieces ↔ ¬Regroups pieces := by
  induction pieces with
  | nil => exact ⟨fun _ => nofun, fun _ => rfl⟩
  | cons x pieces ih =>
    obtain ⟨link, _ | a⟩ := x
    · rw [spoken_none, saidBetween_none, ih]
      refine not_congr ⟨.later, fun h => ?_⟩
      cases h with
      | later h => exact h
    · constructor
      · intro he hr
        have hl := hr.lt_of_some
        rw [spoken_some, saidBetween_some, saidBetween_some] at he
        rw [(List.cons.inj he).2] at hl
        exact Nat.lt_irrefl _ hl
      · intro hr
        rw [spoken_some, saidBetween_some, saidBetween_some, parts_spoken hr]

end

theorem marks_cut_ne_first (depth : Nat) (script : Bool) (s : List Char) :
    .cut .first ∉ marks depth script s := by
  fun_induction marks depth script s with
  | case1 => exact List.not_mem_nil
  | case2 depth c r _ ih => simp [ih]
  | case3 depth c r _ ih => simp [ih]
  | case4 depth script c r _ _ ih => simp [ih]
  | case5 depth script c r => simp
  | case6 depth script c r _ _ _ _ link hl ih =>
    have hf : link ≠ .first := by
      rintro rfl
      unfold separator? at hl
      split at hl <;> cases hl
    simpa [hf.symm] using ih
  | case7 depth script c r _ _ _ _ _ ih => simp [ih]
  | case8 depth script c r _ _ _ _ ih => simp [ih]

theorem pieces_links {ms : List Mark} (h : .cut .first ∉ ms) (link : Link) :
    ∃ text rest, pieces link ms = (link, text) :: rest ∧ ∀ p ∈ rest, p.1 ≠ .first := by
  induction ms generalizing link with
  | nil => exact ⟨[], [], rfl, by simp⟩
  | cons m ms ih =>
    obtain ⟨hm, hs⟩ := not_or.mp (List.mem_cons.not.mp h)
    cases m with
    | cut next =>
      obtain ⟨text, rest, he, hr⟩ := ih hs next
      refine ⟨[], (next, text) :: rest, by rw [pieces, he], ?_⟩
      have hn : next ≠ .first := by
        rintro rfl
        exact hm rfl
      exact List.forall_mem_cons.mpr ⟨hn, hr⟩
    | char c =>
      obtain ⟨text, rest, he, hr⟩ := ih hs link
      exact ⟨c :: text, rest, by rw [pieces, he], hr⟩

theorem split_links (s : List Char) :
    ∃ text rest, split s = (.first, text) :: rest ∧ ∀ p ∈ rest, p.1 ≠ .first :=
  pieces_links (marks_cut_ne_first 0 false s) .first

def readItem (p : Piece) : Except Error (Link × Option Fragment) := do
  return (p.1, (← readFragment p.1 p.2).map Fragment.unlinked)

def readItems (rule : String) : Except Error (List (Link × Option Fragment)) :=
  (split rule.toList).mapM readItem

def item (f : Fragment) : Link × Option Fragment := (f.link, some f.unlinked)

theorem readFragment_link (link : Link) (raw : List Char) :
    readFragment link raw =
      (readFragment .first raw).map (Option.map fun f => { f with link := link }) := by
  simp only [readFragment, bind, Except.bind]
  cases readPuts (String.ofList raw) (takePuts raw.length raw).1 with
  | error => rfl
  | ok puts =>
    dsimp only
    split
    · split <;> rfl
    · cases splitReplacement (detectDialect (Text.trim (takePuts raw.length raw).2)).2 with
      | error => rfl
      | ok read =>
        dsimp only
        split <;> rfl

theorem readFragment_eq_ok {link : Link} {raw : List Char} {o : Option Fragment}
    (h : readFragment link raw = .ok o) :
    ∃ o' : Option Fragment, o = o'.map (fun f => { f with link := link }) ∧
      ∀ next, readFragment next raw = .ok (o'.map fun f => { f with link := next }) := by
  rw [readFragment_link] at h
  cases ho : readFragment .first raw with
  | error => rw [ho] at h; cases h
  | ok o' =>
    rw [ho] at h
    cases h
    exact ⟨o', rfl, fun next => by rw [readFragment_link, ho]; rfl⟩

theorem link_of_readFragment {link : Link} {raw : List Char} {f : Fragment}
    (h : readFragment link raw = .ok (some f)) : f.link = link := by
  obtain ⟨_ | f', ho, -⟩ := readFragment_eq_ok h <;> cases ho
  rfl

theorem readItem_of_readFragment {link : Link} {raw : List Char} {o : Option Fragment}
    (h : readFragment link raw = .ok o) (next : Link) :
    readItem (next, raw) = .ok (next, o.map Fragment.unlinked) := by
  obtain ⟨o', rfl, ho⟩ := readFragment_eq_ok h
  rw [readItem, ho]
  cases o' <;> rfl

theorem mapM_readItem_cons {p : Piece} {ps : List Piece} {x : Link × Option Fragment}
    {items : List (Link × Option Fragment)} (h : readItem p = .ok x)
    (hs : ps.mapM readItem = .ok items) : (p :: ps).mapM readItem = .ok (x :: items) := by
  rw [List.mapM_cons, h, hs]
  rfl

theorem readPieces_cons {started : Bool} {link : Link} {raw : List Char} {ps : List Piece}
    {fs : List Fragment} (h : readPieces started ((link, raw) :: ps) = .ok fs) :
    (∃ f more, readFragment (if started then link else .first) raw = .ok (some f) ∧
      readPieces true ps = .ok more ∧ fs = f :: more) ∨
    readFragment (if started then link else .first) raw = .ok none ∧
      readPieces started ps = .ok fs := by
  simp only [readPieces, bind, Except.bind] at h
  split at h
  · cases h
  · next o ho =>
    split at h
    · next f =>
      split at h
      · cases h
      · next more hm =>
        cases h
        exact .inl ⟨f, more, ho, hm, rfl⟩
    · exact .inr ⟨ho, h⟩

theorem readPieces_items {ps : List Piece} {fs : List Fragment} (h : readPieces true ps = .ok fs)
    (hp : ∀ p ∈ ps, p.1 ≠ .first) :
    ∃ items, ps.mapM readItem = .ok items ∧ spoken items = fs.map item ∧
      ∀ f ∈ fs, f.link ≠ .first := by
  induction ps generalizing fs with
  | nil =>
    cases h
    exact ⟨[], rfl, rfl, by simp⟩
  | cons p ps ih =>
    obtain ⟨link, raw⟩ := p
    obtain ⟨hl, hs⟩ := List.forall_mem_cons.mp hp
    obtain ⟨f, more, hr, hm, rfl⟩ | ⟨hr, hm⟩ := readPieces_cons h
    · obtain ⟨items, hi, he, hf⟩ := ih hm hs
      have hk : f.link = link := link_of_readFragment hr
      refine ⟨_, mapM_readItem_cons (readItem_of_readFragment hr link) hi, ?_, ?_⟩
      · rw [Option.map_some, spoken_some, he, List.map_cons, item, hk]
      · exact List.forall_mem_cons.mpr ⟨hk ▸ hl, hf⟩
    · obtain ⟨items, hi, he, hf⟩ := ih hm hs
      exact ⟨_, mapM_readItem_cons (readItem_of_readFragment hr link) hi, he, hf⟩

theorem group_map_unlinked (f : Fragment) {fs : List Fragment} (h : ∀ g ∈ fs, g.link ≠ .first) :
    (Chain.group (f :: fs)).map (·.map Fragment.unlinked) =
      (f.unlinked :: (parts (fs.map item)).1) :: (parts (fs.map item)).2 := by
  induction fs generalizing f with
  | nil => rfl
  | cons g fs ih =>
    obtain ⟨hg, hs⟩ := List.forall_mem_cons.mp h
    obtain ⟨alternative, others, he, ha, ho⟩ := List.map_eq_cons_iff.mp (ih g hs)
    have hc : Chain.group (f :: g :: fs) =
        if g.link = .and then (f :: alternative) :: others else [f] :: alternative :: others := by
      conv_lhs => unfold Chain.group
      simp only [he]
    rw [hc, List.map_cons, item, parts_some]
    cases hl : g.link with
    | first => exact absurd hl hg
    | or => simp [ha, ho]
    | and => simp [ha, ho]

/-- The alternatives are what the kept pieces say between their `||`, whatever link the first one
of them came with. -/
theorem readPieces_alternatives {ps : List Piece} {fs : List Fragment}
    (h : readPieces false ps = .ok fs) (hp : ∀ p ∈ ps.tail, p.1 ≠ .first) :
    ∃ items, ps.mapM readItem = .ok items ∧
      (Chain.ofFragments fs).alternatives.map (·.map Fragment.unlinked) =
        saidBetween (spoken items) := by
  induction ps generalizing fs with
  | nil =>
    cases h
    exact ⟨[], rfl, rfl⟩
  | cons p ps ih =>
    obtain ⟨link, raw⟩ := p
    obtain ⟨f, more, hr, hm, rfl⟩ | ⟨hr, hm⟩ := readPieces_cons h
    · obtain ⟨items, hi, he, hf⟩ := readPieces_items hm hp
      refine ⟨_, mapM_readItem_cons (readItem_of_readFragment hr link) hi, ?_⟩
      rw [Option.map_some, spoken_some, he, saidBetween_some]
      exact group_map_unlinked { f with link := .first } hf
    · obtain ⟨items, hi, he⟩ := ih hm fun p h => hp p (List.mem_of_mem_tail h)
      refine ⟨_, mapM_readItem_cons (readItem_of_readFragment hr link) hi, ?_⟩
      rw [he]
      rfl

/-- The alternatives of a rule are what its pieces that say something say between their `||`. These
are the alternatives as they are written unless blank pieces regroup the rule. -/
theorem resolve_alternatives {rule : String} {c : Chain} (h : resolve rule = .ok c) :
    ∃ items, readItems rule = .ok items ∧
      c.alternatives.map (·.map Fragment.unlinked) = saidBetween (spoken items) ∧
      (c.alternatives.map (·.map Fragment.unlinked) = saidBetween items ↔ ¬Regroups items) := by
  simp only [resolve, bind, Except.bind] at h
  split at h
  · cases h
  · next fs hf =>
    cases h
    obtain ⟨text, rest, hs, hl⟩ := split_links rule.toList
    obtain ⟨items, hi, he⟩ := readPieces_alternatives hf (by rw [hs]; exact hl)
    exact ⟨items, hi, he, by rw [he]; exact saidBetween_spoken_eq_iff items⟩

/-- A blank alternative behind which the next one has its `||` is left out alone. -/
theorem resolve_alternatives_blank : ∃ c, resolve "a||&&||b" = .ok c ∧
    ∃ items, readItems "a||&&||b" = .ok items ∧
      c.alternatives.map (·.map Fragment.unlinked) = saidBetween (spoken items) ∧
      (c.alternatives.map (·.map Fragment.unlinked) = saidBetween items ↔ ¬Regroups items) := by
  have hs : split "a||&&||b".toList = [(.first, ['a']), (.or, []), (.and, []), (.or, ['b'])] := by
    decide +kernel
  have hr : resolve "a||&&||b" =
      .ok ⟨[⟨.default, "a", .first, [], none⟩, ⟨.default, "b", .or, [], none⟩]⟩ := by
    rw [resolve, hs]
    rfl
  exact ⟨_, hr, resolve_alternatives hr⟩

/-- What stands behind a blank piece and its `||` is joined to what stands before them. -/
theorem resolve_joins_over_blank :
    let a : Fragment := ⟨.default, "a", .first, [], none⟩
    let b : Fragment := ⟨.default, "b", .first, [], none⟩
    ∃ c items, resolve "a||&&b" = .ok c ∧ readItems "a||&&b" = .ok items ∧
      saidBetween items = [[a], [b]] ∧
      c.alternatives.map (·.map Fragment.unlinked) = [[a, b]] ∧
      c.alternatives.map (·.map Fragment.unlinked) ≠ saidBetween items := by
  have hs : split "a||&&b".toList = [(.first, ['a']), (.or, []), (.and, ['b'])] := by
    decide +kernel
  have hr : resolve "a||&&b" =
      .ok ⟨[⟨.default, "a", .first, [], none⟩, ⟨.default, "b", .and, [], none⟩]⟩ := by
    rw [resolve, hs]
    rfl
  have hi : readItems "a||&&b" = .ok [(.first, some ⟨.default, "a", .first, [], none⟩),
      (.or, none), (.and, some ⟨.default, "b", .first, [], none⟩)] := by
    rw [readItems, hs]
    rfl
  refine ⟨_, _, hr, hi, rfl, rfl, fun he => ?_⟩
  exact absurd (congrArg List.length he) (by decide)

end Rule

end Catalog
