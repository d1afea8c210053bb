import Catalog.Proofs.Pattern.Reader

/-! # What readers of bracketed classes take

A class is read up to the bracket that closes it. The items in it look at what follows them, but
never behind the closing bracket, so the class is the same whatever comes behind.
-/

namespace Catalog.Pattern

open Text

variable {fl : Flags} {s r w : List Char} {c : Char} {stack stack' : List Pending} {u u' : Union}

theorem asciiNamed?_eq_some {name : List Char} {set : CodeSet}
    (h : asciiNamed? (String.ofList name) = some set) : ']' ∉ name := by
  unfold asciiNamed? at h
  dsimp only at h
  split at h
  all_goals try cases h
  all_goals
    next hn =>
    rw [← String.toList_inj, String.toList_ofList] at hn
    rw [hn]
    decide

def className (negated : Bool) (s : List Char) : Option (CodeSet × Bool × List Char) :=
  (cutAt? [':', ']'] s).bind fun y =>
    if y.1.contains ':' then none
    else (asciiNamed? (String.ofList y.1)).map fun set => (set, negated, y.2)

theorem asciiClass?_colon (s : List Char) :
    asciiClass? (':' :: s) =
      if s.head? = some '^' then className true s.tail else className false s := by
  have hname (negated : Bool) (s : List Char) : className negated s =
      (cutAt? [':', ']'] s).bind fun y =>
        if y.1.contains ':' then none
        else (asciiNamed? (String.ofList y.1)).bind fun s => some (s, negated, y.2) := by
    refine congrArg _ (funext fun y => ite_congr rfl (fun _ => rfl) fun _ => ?_)
    cases asciiNamed? (String.ofList y.1) <;> rfl
  rw [hname, hname]
  by_cases hs : s.head? = some '^'
  · obtain ⟨t, rfl⟩ := List.head?_eq_some_iff.mp hs
    rw [if_pos hs]
    rfl
  · rw [if_neg hs]
    unfold asciiClass?
    split
    · next he =>
      cases he
      split
      · next hc =>
        split at hc
        · exact absurd rfl hs
        · cases hc
          rfl
    · next hn => exact (hn s rfl).elim

theorem className_eq_some {set : CodeSet} {negated b : Bool}
    (h : className negated s = some (set, b, r)) : b = negated ∧
      ∃ v, ']' ∉ v ∧ s = v ++ ']' :: r ∧
        ∀ r', className negated (v ++ ']' :: r') = some (set, negated, r') := by
  obtain ⟨⟨name, m⟩, hc, hx⟩ := Option.bind_eq_some_iff.mp h
  dsimp only at hx
  split at hx
  · cases hx
  · next hcolon =>
    obtain ⟨set, ha, hx⟩ := Option.map_eq_some_iff.mp hx
    cases hx
    obtain ⟨rfl, hr⟩ := cutAt?_eq_some hc
    refine ⟨rfl, name ++ [':'], by simpa using asciiNamed?_eq_some ha, by simp, fun r' => ?_⟩
    have hr' : cutAt? [':', ']'] (name ++ [':'] ++ ']' :: r') = some (name, r') := by
      simpa using hr r'
    simp only [className, hr', Option.bind_some, if_neg hcolon, ha, Option.map_some]

theorem asciiClass?_eq_some {set : CodeSet} {negated : Bool}
    (h : asciiClass? s = some (set, negated, r)) :
    ∃ v, ']' ∉ v ∧ s = v ++ ']' :: r ∧
      ∀ r', asciiClass? (v ++ ']' :: r') = some (set, negated, r') := by
  cases s with
  | nil => cases h
  | cons c s =>
    by_cases hc : c = ':'
    · subst hc
      rw [asciiClass?_colon] at h
      split at h
      · next hs =>
        obtain ⟨t, rfl⟩ := List.head?_eq_some_iff.mp hs
        obtain ⟨rfl, v, hv, ht, hr⟩ := className_eq_some h
        rw [List.tail_cons] at ht
        subst ht
        refine ⟨':' :: '^' :: v, by simp [hv], rfl, fun r' => ?_⟩
        rw [List.cons_append, List.cons_append, asciiClass?_colon, if_pos List.head?_cons]
        exact hr r'
      · next hs =>
        obtain ⟨rfl, v, hv, rfl, hr⟩ := className_eq_some h
        refine ⟨':' :: v, by simp [hv], rfl, fun r' => ?_⟩
        have hhead : (v ++ ']' :: r').head? = (v ++ ']' :: r).head? := by cases v <;> rfl
        rw [List.cons_append, asciiClass?_colon, hhead, if_neg hs, hr]
    · unfold asciiClass? at h
      split at h
      · next he => exact absurd (List.cons.inj he).1 hc
      · cases h

theorem asciiClass?_eq_none (hw : ']' ∈ w) (h : asciiClass? (w ++ r) = none) (r' : List Char) :
    asciiClass? (w ++ r') = none := by
  rw [Option.eq_none_iff_forall_ne_some]
  rintro ⟨set, negated, m⟩ hs
  obtain ⟨v, hv, he, hr⟩ := asciiClass?_eq_some hs
  rcases List.append_eq_append_iff.mp he with ⟨a, rfl, -⟩ | ⟨a, rfl, ha⟩
  · exact hv (List.mem_append_left _ hw)
  · cases a with
    | nil => exact hv (by simpa using hw)
    | cons d a =>
      cases ha
      rw [List.append_assoc, List.cons_append, hr] at h
      cases h

theorem stops_leadingHyphens (fl : Flags) (u : Union) : Stops (leadingHyphens fl u) := by
  intro s
  induction s generalizing u with
  | nil => intro x c r h; cases h
  | cons d s ih =>
    intro x c r h
    rw [leadingHyphens] at h
    split at h
    · next hd =>
      split at h
      · next hv =>
        obtain ⟨rfl, hr⟩ := Prod.mk.inj (Option.some.inj h)
        obtain ⟨v, rfl, -, hr'⟩ := dropVerbose_cons hr
        refine ⟨d :: v, rfl, fun r' => ?_⟩
        rw [List.cons_append, leadingHyphens, if_pos hd, if_pos hv, hr']
      · next hv =>
        obtain ⟨v, rfl, hr⟩ := ih _ h
        refine ⟨d :: v, rfl, fun r' => ?_⟩
        rw [List.cons_append, leadingHyphens, if_pos hd, if_neg hv]
        exact hr r'
    · next hd =>
      cases h
      exact ⟨[], rfl, fun r' => by rw [List.nil_append, leadingHyphens, if_neg hd]⟩

def negation (fl : Flags) (s : List Char) : Bool × List Char :=
  if (fl.skip s).head? = some '^' then (true, fl.skip (fl.skip s).tail) else (false, fl.skip s)

theorem stops_negation (fl : Flags) : Stops fun s => some (negation fl s) := by
  intro s x c r h
  have h := Option.some.inj h
  unfold negation at h
  split at h
  · next hs =>
    obtain ⟨rfl, hr⟩ := Prod.mk.inj h
    obtain ⟨t, ht⟩ := List.head?_eq_some_iff.mp hs
    rw [ht, List.tail_cons] at hr
    obtain ⟨v, rfl, -, hv⟩ := Flags.skip_cons ht
    obtain ⟨v', rfl, -, hv'⟩ := Flags.skip_cons hr
    refine ⟨v ++ '^' :: v', by simp, fun r' => ?_⟩
    simp only [negation, List.append_assoc, List.cons_append, hv, List.head?_cons, if_true,
      List.tail_cons, hv']
  · next hs =>
    obtain ⟨rfl, hr⟩ := Prod.mk.inj h
    obtain ⟨v, rfl, -, hv⟩ := Flags.skip_cons hr
    refine ⟨v, rfl, fun r' => ?_⟩
    rw [hr] at hs
    simp only [negation, hv]
    rw [if_neg (by simpa using hs)]

def closingFirst (fl : Flags) (negated : Bool) (u : Union) :
    List Char → Option ((Bool × Union) × List Char)
  | [] => none
  | c :: r =>
    if u.count == 0 && c == ']' then
      if (fl.skip r).isEmpty then none else some ((negated, u.push (.singleton ']') 0), fl.skip r)
    else some ((negated, u), c :: r)

theorem stops_closingFirst (fl : Flags) (negated : Bool) (u : Union) :
    Stops (closingFirst fl negated u) := by
  intro s x c r h
  cases s with
  | nil => cases h
  | cons d s =>
    rw [closingFirst] at h
    split at h
    · next hd =>
      split at h
      · cases h
      · obtain ⟨rfl, hr⟩ := Prod.mk.inj (Option.some.inj h)
        obtain ⟨v, rfl, -, hv⟩ := Flags.skip_cons hr
        refine ⟨d :: v, rfl, fun r' => ?_⟩
        rw [List.cons_append, closingFirst, if_pos hd, hv]
        rfl
    · next hd =>
      cases h
      exact ⟨[], rfl, fun r' => by rw [List.nil_append, closingFirst, if_neg hd]⟩

theorem exists_cons_of_closingFirst {negated : Bool} {y : Bool × Union}
    (h : closingFirst fl negated u s = some (y, r)) : ∃ c t, r = c :: t := by
  cases s with
  | nil => cases h
  | cons d s =>
    rw [closingFirst] at h
    split at h
    · split at h
      · cases h
      · next hs =>
        cases h
        exact List.exists_cons_of_ne_nil fun hn => hs (List.isEmpty_iff.mpr hn)
    · cases h
      exact ⟨d, s, rfl⟩

def opening (fl : Flags) (s : List Char) : Option ((Bool × Union) × List Char) :=
  ((some (negation fl s)).bind fun y =>
    (leadingHyphens fl {} y.2).map fun z => ((y.1, z.1), z.2)).bind fun y =>
      closingFirst fl y.1.1 y.1.2 y.2

theorem stops_opening (fl : Flags) : Stops (opening fl) := by
  have hu := (stops_negation fl).bind fun negated =>
    (stops_leadingHyphens fl {}).map fun u => (negated, u)
  exact hu.bind fun y => stops_closingFirst fl y.1 y.2

theorem openBracket_eq (fl : Flags) (s : List Char) :
    openBracket fl s = (opening fl s).map fun y => (y.1.1, y.1.2, y.2) := by
  have hneg : openBracket fl s = (leadingHyphens fl {} (negation fl s).2).bind fun y =>
      (closingFirst fl (negation fl s).1 y.1 y.2).map fun y => (y.1.1, y.1.2, y.2) := by
    have hrest (negated : Bool) (y : Union × List Char) :
        (closingFirst fl negated y.1 y.2).map (fun y => (y.1.1, y.1.2, y.2)) =
          match y.2 with
          | [] => none
          | c :: r =>
            if y.1.count == 0 && c == ']' then
              if (fl.skip r).isEmpty then none
              else some (negated, y.1.push (.singleton ']') 0, fl.skip r)
            else some (negated, y.1, c :: r) := by
      obtain ⟨u, s⟩ := y
      cases s with
      | nil => rfl
      | cons c r =>
        rw [closingFirst, apply_ite (Option.map _), apply_ite (Option.map _)]
        rfl
    simp only [hrest]
    unfold openBracket negation
    by_cases hs : (fl.skip s).head? = some '^'
    · obtain ⟨t, ht⟩ := List.head?_eq_some_iff.mp hs
      rw [if_pos hs, ht]
      rfl
    · rw [if_neg hs]
      split
      · next hc =>
        split at hc
        · next ht => exact absurd (by rw [ht]; rfl) hs
        · cases hc
          rfl
  rw [hneg, opening, Option.bind_some]
  cases leadingHyphens fl {} (negation fl s).2 <;> rfl

theorem openBracket_eq_some {negated : Bool} (h : openBracket fl s = some (negated, u, r)) :
    ∃ v c t, r = c :: t ∧ s = v ++ c :: t ∧
      ∀ r', openBracket fl (v ++ c :: r') = some (negated, u, c :: r') := by
  rw [openBracket_eq] at h
  obtain ⟨⟨⟨negated, u⟩, m⟩, hm, hx⟩ := Option.map_eq_some_iff.mp h
  cases hx
  obtain ⟨y, -, hc⟩ := Option.bind_eq_some_iff.mp hm
  obtain ⟨c, t, rfl⟩ := exists_cons_of_closingFirst hc
  obtain ⟨v, rfl, hv⟩ := stops_opening fl hm
  refine ⟨v, c, t, rfl, rfl, fun r' => ?_⟩
  rw [openBracket_eq, hv, Option.map_some]

theorem bracketAtom_eq_some {a : Atom} (h : bracketAtom fl s = some (a, r)) :
    (∃ d v, s = d :: (v ++ r) ∧ ∀ r', bracketAtom fl (d :: (v ++ r')) = some (a, r')) ∨
      ∃ p, a = .anchor p := by
  unfold bracketAtom at h
  split at h
  · cases h
  · next t =>
    rcases escape_eq_some h with ⟨v, rfl, -, hv⟩ | ⟨rfl, -, -⟩
    · exact .inl ⟨'\\', v, rfl, hv⟩
    · exact .inr ⟨_, rfl⟩
  · next d t hd =>
    cases h
    refine .inl ⟨d, [], rfl, fun r' => ?_⟩
    unfold bracketAtom
    split
    · next he => cases he
    · next he => exact (hd (List.cons.inj he).1).elim
    · next he =>
      cases he
      rfl

def interval? (fl : Flags) (first second : Atom) : Option CodeSet :=
  (first.toChar? fl).bind fun a => (second.toChar? fl).bind fun b =>
    if a ≤ b then some (.interval a b) else none

def itemTail (fl : Flags) (first : Atom) (s : List Char) : Option (CodeSet × List Char) :=
  if s.head? = some '-' then
    match fl.skip s.tail with
    | [] => none
    | c :: t =>
      if c == ']' || c == '-' then (first.toSet? fl).map (·, s)
      else (bracketAtom fl (c :: t)).bind fun y => (interval? fl first y.1).map (·, y.2)
  else if s = [] then none
  else (first.toSet? fl).map (·, s)

theorem bracketItem_eq (fl : Flags) (s : List Char) :
    bracketItem fl s = (bracketAtom fl s).bind fun y => itemTail fl y.1 (fl.skip y.2) := by
  refine congrArg _ (funext fun ⟨first, r⟩ => ?_)
  dsimp only [itemTail]
  split
  · next t hr =>
    simp only [hr, List.head?_cons, if_true, List.tail_cons]
    cases fl.skip t with
    | nil => rfl
    | cons c t' =>
      refine ite_congr rfl (fun _ => rfl) fun _ => congrArg _ (funext fun ⟨second, m⟩ => ?_)
      simp only [interval?, Option.map_bind, Option.bind_eq_bind, Function.comp_def,
        apply_ite (Option.map _), Option.map_some, Option.map_none]
  · next hr => simp [hr]
  · next hm hn => rw [if_neg (head?_ne hm), if_neg hn]

theorem itemTail_anchor (fl : Flags) (a : Anchor) (s : List Char) :
    itemTail fl (.anchor a) s = none := by
  unfold itemTail
  split
  · split
    · rfl
    · split
      · rfl
      · exact Option.bind_eq_none_iff.mpr fun _ _ => rfl
  · split <;> rfl

theorem itemTail_eq_some {first : Atom} {x : CodeSet} (hw : w ≠ [])
    (hy : ∀ t, w = '-' :: t → fl.skip t ≠ []) (h : itemTail fl first s = some (x, w ++ r)) :
    ∃ v, s = v ++ (w ++ r) ∧ ∀ r', itemTail fl first (v ++ (w ++ r')) = some (x, w ++ r') := by
  obtain ⟨e, w, rfl⟩ := List.exists_cons_of_ne_nil hw
  unfold itemTail at h
  split at h
  · next hs =>
    obtain ⟨t, rfl⟩ := List.head?_eq_some_iff.mp hs
    rw [List.tail_cons] at h
    split at h
    · cases h
    · next c t' ht =>
      split at h
      · next hc =>
        -- the hyphen is an item by itself
        obtain ⟨x, hx, he⟩ := Option.map_eq_some_iff.mp h
        cases he
        obtain ⟨c', t'', hc'⟩ := List.exists_cons_of_ne_nil (hy w rfl)
        have hskip (r' : List Char) := Flags.skip_append hc' r'
        obtain rfl : c' = c := (List.cons.inj ((hskip r).symm.trans ht)).1
        refine ⟨[], rfl, fun r' => ?_⟩
        simp only [List.nil_append, List.cons_append, itemTail, List.head?_cons, if_true,
          List.tail_cons, hskip, hc, hx, Option.map_some]
      · next hc =>
        obtain ⟨⟨second, m⟩, hb, hx⟩ := Option.bind_eq_some_iff.mp h
        obtain ⟨x, hi, he⟩ := Option.map_eq_some_iff.mp hx
        cases he
        rcases bracketAtom_eq_some hb with ⟨d, v, he, hv⟩ | ⟨p, rfl⟩
        · cases he
          obtain ⟨u, rfl, -, hu⟩ := Flags.skip_cons ht
          refine ⟨'-' :: (u ++ c :: v), by simp, fun r' => ?_⟩
          simp only [List.cons_append, List.append_assoc, itemTail, List.head?_cons, if_true,
            List.tail_cons, hu, hc, if_false, Bool.false_eq_true]
          rw [hv]
          simp only [Option.bind_some, hi, Option.map_some]
        · obtain ⟨_, -, hn⟩ := Option.bind_eq_some_iff.mp hi
          cases hn
  · next hs =>
    split at h
    · cases h
    · next hn =>
      obtain ⟨x, hx, he⟩ := Option.map_eq_some_iff.mp h
      cases he
      refine ⟨[], rfl, fun r' => ?_⟩
      simp only [List.nil_append, List.cons_append, itemTail]
      rw [if_neg (by simpa using hs), if_neg (List.cons_ne_nil _ _), hx]
      rfl

theorem bracketItem_eq_some {x : CodeSet} (hw : w ≠ []) (hy : ∀ t, w = '-' :: t → fl.skip t ≠ [])
    (h : bracketItem fl s = some (x, w ++ r)) :
    ∃ d v, s = d :: (v ++ (w ++ r)) ∧
      ∀ r', bracketItem fl (d :: (v ++ (w ++ r'))) = some (x, w ++ r') := by
  rw [bracketItem_eq] at h
  obtain ⟨⟨first, m⟩, hf, ht⟩ := Option.bind_eq_some_iff.mp h
  rcases bracketAtom_eq_some hf with ⟨d, v, rfl, hv⟩ | ⟨p, rfl⟩
  · obtain ⟨v', hm, hv'⟩ := itemTail_eq_some hw hy ht
    obtain ⟨e, w', he⟩ := List.exists_cons_of_ne_nil (List.append_ne_nil_of_right_ne_nil v' hw)
    have hcons (r' : List Char) : v' ++ (w ++ r') = e :: (w' ++ r') := by
      rw [← List.append_assoc, he, List.cons_append]
    obtain ⟨u, rfl, -, hu⟩ := Flags.skip_cons (hm.trans (hcons r))
    refine ⟨d, v ++ u ++ v', by rw [← hcons]; simp, fun r' => ?_⟩
    rw [bracketItem_eq, List.append_assoc, List.append_assoc, hv, Option.bind_some]
    dsimp only
    rw [hcons, hu, ← hcons]
    exact hv' r'
  · rw [itemTail_anchor] at ht
    cases ht

/-- Only a closing bracket completes a class. -/
theorem bracketStep_done {set : CodeSet} {depth : Nat}
    (h : bracketStep fl stack u s = some (.done set depth, r)) :
    s = ']' :: r ∧ ∀ r', bracketStep fl stack u (']' :: r') = some (.done set depth, r') := by
  unfold bracketStep at h
  dsimp only at h
  split at h
  · split at h
    · obtain ⟨_, -, he⟩ := Option.map_eq_some_iff.mp h
      cases he
    · obtain ⟨_, -, he⟩ := Option.map_eq_some_iff.mp h
      cases he
  · next t =>
    split at h
    · next negated outer below hs =>
      obtain ⟨set', hf, hb⟩ := Option.bind_eq_some_iff.mp h
      split at hb
      · next he =>
        cases hb
        refine ⟨rfl, fun r' => ?_⟩
        simp only [bracketStep, hs, hf, Option.bind_eq_bind, Option.bind_some, he, if_true]
      · cases hb
    · cases h
  · cases h
  · cases h
  · cases h
  · obtain ⟨_, -, he⟩ := Option.map_eq_some_iff.mp h
    cases he

theorem bracketStep_more (hw : ']' ∈ w) (hy : ∀ t, w = '-' :: t → fl.skip t ≠ [])
    (h : bracketStep fl stack u s = some (.more stack' u', w ++ r)) :
    ∃ d v, s = d :: (v ++ (w ++ r)) ∧
      ∀ r', bracketStep fl stack u (d :: (v ++ (w ++ r'))) = some (.more stack' u', w ++ r') := by
  have hne : w ≠ [] := List.ne_nil_of_mem hw
  unfold bracketStep at h
  dsimp only at h
  split at h
  · next t =>
    split at h
    · next set negated m ha =>
      obtain ⟨set', hf, he⟩ := Option.map_eq_some_iff.mp h
      cases he
      obtain ⟨v, -, rfl, hv⟩ := asciiClass?_eq_some ha
      refine ⟨'[', v ++ [']'], by simp, fun r' => ?_⟩
      have hv' : asciiClass? (v ++ [']'] ++ (w ++ r')) = some (set, negated, w ++ r') := by
        simpa using hv (w ++ r')
      simp only [bracketStep, hv', hf, Option.map_some]
    · next ha =>
      obtain ⟨⟨negated, u', m⟩, ho, he⟩ := Option.map_eq_some_iff.mp h
      cases he
      obtain ⟨v, c, t', hc, rfl, hv⟩ := openBracket_eq_some ho
      obtain ⟨e, w, rfl⟩ := List.exists_cons_of_ne_nil hne
      obtain ⟨rfl, rfl⟩ := List.cons.inj hc
      refine ⟨'[', v, rfl, fun r' => ?_⟩
      have ha' := asciiClass?_eq_none (List.mem_append_right v hw)
        ((congrArg asciiClass? (List.append_assoc v (e :: w) r)).trans ha) r'
      rw [List.append_assoc] at ha'
      simp only [bracketStep, ha']
      rw [List.cons_append, hv]
      rfl
  · next t =>
    split at h
    · next negated outer below hs =>
      obtain ⟨set, hf, hb⟩ := Option.bind_eq_some_iff.mp h
      split at hb
      · cases hb
      · next he =>
        cases hb
        refine ⟨']', [], rfl, fun r' => ?_⟩
        simp only [bracketStep, hs, hf, Option.bind_eq_bind, Option.bind_some, he, if_false,
          List.nil_append, Bool.false_eq_true]
    · cases h
  · cases h
    exact ⟨'&', ['&'], rfl, fun r' => rfl⟩
  · cases h
    exact ⟨'-', ['-'], rfl, fun r' => rfl⟩
  · cases h
    exact ⟨'~', ['~'], rfl, fun r' => rfl⟩
  · next ho hc hand hminus htilde =>
    obtain ⟨⟨set, m⟩, hi, he⟩ := Option.map_eq_some_iff.mp h
    cases he
    obtain ⟨d, v, rfl, hv⟩ := bracketItem_eq_some hne hy hi
    refine ⟨d, v, rfl, fun r' => ?_⟩
    -- the first two characters, which decide what stands here, are not of what comes behind
    obtain ⟨e, v', he⟩ := List.exists_cons_of_ne_nil (List.append_ne_nil_of_right_ne_nil v hne)
    have hcons (r' : List Char) : v ++ (w ++ r') = e :: (v' ++ r') := by
      rw [← List.append_assoc, he, List.cons_append]
    have hi' := hv r'
    rw [hcons] at hand hminus htilde ho hc
    rw [hcons r'] at hi' ⊢
    unfold bracketStep
    dsimp only
    split
    · next heq => exact (ho _ (by rw [(List.cons.inj heq).1])).elim
    · next heq => exact (hc _ (by rw [(List.cons.inj heq).1])).elim
    · next heq =>
      cases heq
      exact (hand _ rfl).elim
    · next heq =>
      cases heq
      exact (hminus _ rfl).elim
    · next heq =>
      cases heq
      exact (htilde _ rfl).elim
    · rw [hi']
      rfl

theorem skip_ne_nil_of_bracketLoop {t : List Char} {y : (CodeSet × Nat) × List Char}
    (h : bracketLoop fl stack u ('-' :: t) = some y) : fl.skip t ≠ [] := fun ht => by
  have hskip (r : List Char) : fl.skip ('-' :: r) = '-' :: r :=
    fl.skip_visible (by decide) (by decide) r
  have hstep : bracketStep fl stack u ('-' :: t) = none := by
    unfold bracketStep
    dsimp only
    split
    · next he => cases he
    · next he => cases he
    · next he => cases he
    · next r he =>
      cases he
      rw [hskip] at ht
      cases ht
    · next he => cases he
    · rw [bracketItem_eq]
      change Option.map _ (itemTail fl _ (fl.skip t)) = none
      rw [ht]
      rfl
  rw [bracketLoop, hskip, hstep] at h
  cases h

/-- The rest of a class is read up to the bracket that closes it, and never behind. -/
theorem bracketLoop_eq_some {x : CodeSet × Nat} (h : bracketLoop fl stack u s = some (x, r)) :
    ∃ w, ']' ∈ w ∧ s = w ++ r ∧ ∀ r', bracketLoop fl stack u (w ++ r') = some (x, r') := by
  induction stack, u, s using bracketLoop.induct fl with
  | case1 stack u s hs =>
    rw [bracketLoop, hs] at h
    cases h
  | case2 stack u s set depth m hs =>
    rw [bracketLoop, hs] at h
    cases h
    obtain ⟨hskip, hs'⟩ := bracketStep_done hs
    obtain ⟨v, rfl, -, hv⟩ := Flags.skip_cons hskip
    refine ⟨v ++ [']'], by simp, by simp, fun r' => ?_⟩
    rw [List.append_assoc, List.singleton_append, bracketLoop, hv, hs']
  | case3 stack u s stack' u' m hs hlt ih =>
    rw [bracketLoop, hs] at h
    dsimp only at h
    rw [if_pos hlt] at h
    obtain ⟨w, hw, rfl, hr⟩ := ih h
    have hy (t : List Char) (ht : w = '-' :: t) : fl.skip t ≠ [] := by
      have h0 := hr []
      rw [List.append_nil, ht] at h0
      exact skip_ne_nil_of_bracketLoop h0
    obtain ⟨d, v, hskip, hs'⟩ := bracketStep_more hw hy hs
    obtain ⟨u₀, rfl, -, hu⟩ := Flags.skip_cons hskip
    refine ⟨u₀ ++ d :: (v ++ w), by simp [hw], by simp, fun r' => ?_⟩
    have hlt' : (w ++ r').length < (u₀ ++ d :: (v ++ (w ++ r'))).length := by
      simp only [List.length_append, List.length_cons]
      omega
    rw [List.append_assoc, List.cons_append, List.append_assoc, bracketLoop, hu, hs']
    dsimp only
    rw [if_pos hlt', hr]
  | case4 stack u s stack' u' m hs hlt =>
    rw [bracketLoop, hs] at h
    dsimp only at h
    rw [if_neg hlt] at h
    cases h

theorem firm_bracket (fl : Flags) : Firm (bracket fl) := by
  intro s x r h
  obtain ⟨⟨negated, u, m⟩, ho, hl⟩ := Option.bind_eq_some_iff.mp h
  obtain ⟨w, hw, rfl, hv⟩ := bracketLoop_eq_some hl
  obtain ⟨v, c, t, hm, rfl, ho'⟩ := openBracket_eq_some ho
  obtain ⟨c, w, rfl⟩ := List.exists_cons_of_ne_nil (List.ne_nil_of_mem hw)
  obtain ⟨rfl, rfl⟩ := List.cons.inj hm
  refine ⟨v ++ c :: w, by rw [List.append_assoc]; rfl, fun r' => ?_⟩
  rw [bracket, List.append_assoc, List.cons_append, ho']
  exact hv r'

end Catalog.Pattern
