import Catalog.Proofs.Pattern.Bracket

/-! # The tokens of a pattern

A step of reading takes one token from the text. Which token stands there depends on the flags and
on the text alone, and what it does depends on the groups and pieces alone. A token is the same
whatever comes behind it, as long as no question mark does.
-/

namespace Catalog.Pattern

open Text

variable {fl : Flags} {s r r' : List Char} {c : Char} {st st' : Reading}

inductive Token where
  | capture (name : Option String)
  | directive (fl : Flags)
  | scope (fl : Flags)
  | close
  | bar
  | atom (r : Regex) (depth : Nat)
  | rep (lo : Nat) (hi : Option Nat) (isLazy braces : Bool)

namespace Token

/-- What is left behind a token: blanks are gone where a question mark was looked for behind
them. -/
def leave (fl : Flags) : Token → List Char → List Char
  | .capture none, r => fl.skip r
  | .rep _ _ false true, r => fl.skip r
  | _, r => r

end Token

def Reading.repeated (st : Reading) (lo : Nat) (hi : Option Nat) (isLazy : Bool) : Option Reading :=
  match st.pieces with
  | p :: ps =>
    if p.repeatable then
      let greedy := isLazy == st.flags.swapGreed
      some { st with pieces := ⟨.rep lo hi greedy p.regex, p.depth + 1, true⟩ :: ps }
    else none
  | [] => none

theorem Reading.eq_of_repeated {lo : Nat} {hi : Option Nat} {isLazy : Bool}
    (h : st.repeated lo hi isLazy = some st') : ∃ ps, st' = { st with pieces := ps } := by
  unfold repeated at h
  split at h
  · split at h
    · cases h
      exact ⟨_, rfl⟩
    · cases h
  · cases h

def Reading.take (st : Reading) : Token → Option Reading
  | .capture name => openCapture st name
  | .directive fl => some { st with flags := fl, pieces := ⟨.empty, 0, false⟩ :: st.pieces }
  | .scope fl =>
    some { st with
      stack := ⟨none, st.flags, st.pieces, st.branches⟩ :: st.stack
      flags := fl, pieces := [], branches := [] }
  | .close => closeGroup st
  | .bar => some { st with pieces := [], branches := .ofPieces st.pieces :: st.branches }
  | .atom r depth => some (st.push r depth)
  | .rep lo hi isLazy _ => st.repeated lo hi isLazy

def named (s : List Char) : Option (Token × List Char) :=
  (groupName s).map fun y => (.capture (some y.1), y.2)

def flagsToken (fl : Flags) (any : Bool) (c : Char) : Option Token :=
  if c = ')' then if any then some (.directive fl) else none
  else if c = ':' then some (.scope fl)
  else none

def flagged (fl : Flags) (s : List Char) : Option (Token × List Char) :=
  (flagLetters fl [] s).bind fun y =>
    (y.2.2.head?.bind (flagsToken y.1 y.2.1)).map fun tok => (tok, y.2.2.tail)

def special (fl : Flags) (s : List Char) : Option (Token × List Char) :=
  if s.head? = some '<' then
    if s.tail.head? = some '=' then none
    else if s.tail.head? = some '!' then none
    else named s.tail
  else if s.head? = some 'P' then if s.tail.head? = some '<' then named s.tail.tail else none
  else flagged fl s

def opening? (fl : Flags) (s : List Char) : Option (Token × List Char) :=
  if (fl.skip s).head? = some '?' then special fl (fl.skip s).tail else some (.capture none, s)

/-- A repetition is lazy if a question mark follows; blanks may stand before it behind braces. -/
def quantifier (fl : Flags) (lo : Nat) (hi : Option Nat) (braces : Bool) (s : List Char) :
    Token × List Char :=
  let t := if braces then fl.skip s else s
  if t.head? = some '?' then (.rep lo hi true braces, t.tail) else (.rep lo hi false braces, s)

def tokenAt (fl : Flags) (c : Char) (r : List Char) : Option (Token × List Char) :=
  match c with
  | '(' => opening? fl r
  | ')' => some (.close, r)
  | '|' => some (.bar, r)
  | '[' => (bracket fl r).map fun y => (.atom (.set y.1.1) y.1.2, y.2)
  | '?' => some (quantifier fl 0 (some 1) false r)
  | '*' => some (quantifier fl 0 none false r)
  | '+' => some (quantifier fl 1 none false r)
  | '\x7b' => (readBounds fl r).map fun y => quantifier fl y.1.1 y.1.2 true y.2
  | '\\' => (escape fl r).bind fun y => (y.1.regex? fl).map fun x => (.atom x 0, y.2)
  | '.' => if fl.unicode then some (.atom (.set (dotSet fl)) 0, r) else none
  | '^' => some (.atom (.anchor (if fl.multiLine then .lineStart fl.crlf else .textStart)) 0, r)
  | '$' => some (.atom (.anchor (if fl.multiLine then .lineEnd fl.crlf else .textEnd)) 0, r)
  | c => some (.atom (.set (literalSet fl c)) 0, r)

theorem repeatLast_eq (st : Reading) (lo : Nat) (hi : Option Nat) (s : List Char) (braces : Bool) :
    repeatLast st lo hi s braces = (some (quantifier st.flags lo hi braces s)).bind fun y =>
      (st.take y.1).map fun st' => (st', y.1.leave st.flags y.2) := by
  obtain ⟨t, ht⟩ : ∃ t, (if braces then st.flags.skip s else s) = t := ⟨_, rfl⟩
  have hleave : Token.leave st.flags (.rep lo hi false braces) s = t := by
    rw [← ht]
    cases braces <;> rfl
  unfold repeatLast quantifier
  simp only [ht, Option.bind_some]
  split
  · next p ps hp =>
    split
    · next hr =>
      split
      · simp only [List.head?_cons, if_true, List.tail_cons, Reading.take, Reading.repeated, hp, hr]
        rfl
      · next hn =>
        simp only [if_neg (head?_ne hn), Reading.take, Reading.repeated, hp, hr, hleave, if_true]
        rfl
    · next hr => split <;> simp [Reading.take, Reading.repeated, hp, hr]
  · next hp => split <;> simp [Reading.take, Reading.repeated, hp]

theorem openGroup_eq (st : Reading) (s : List Char) :
    openGroup st s = (opening? st.flags s).bind fun y =>
      (st.take y.1).map fun st' => (st', y.1.leave st.flags y.2) := by
  have hnamed (r : List Char) : ((groupName r).bind fun y =>
      (openCapture st (some y.1)).map fun st' => (st', y.2)) = (named r).bind fun y =>
        (st.take y.1).map fun st' => (st', y.1.leave st.flags y.2) := by
    unfold named
    cases groupName r <;> rfl
  unfold openGroup opening?
  split
  · next h => simp only [h, special]; rfl
  · next h => simp only [h, special]; rfl
  · next h => simp only [h, special]; rfl
  · next h => simp only [h, special]; rfl
  · next h =>
    simp only [h, special, List.head?_cons, List.tail_cons, if_true]
    exact hnamed _
  · next h1 h2 h =>
    simp only [h, special, List.head?_cons, List.tail_cons, if_true, if_neg (head?_ne h1),
      if_neg (head?_ne h2)]
    exact hnamed _
  · next r _ _ _ _ hp h1 h =>
    simp only [h, special, List.head?_cons, List.tail_cons, if_true, if_neg (head?_ne h1)]
    split
    · next hr =>
      obtain ⟨t, rfl⟩ := List.head?_eq_some_iff.mp hr
      rw [List.tail_cons, if_neg (head?_ne fun t' ht => hp t' (by rw [ht]))]
      rfl
    · simp only [flagged, Option.bind_assoc]
      refine congrArg _ (funext fun ⟨fl, some_, t⟩ => ?_)
      dsimp only
      split
      · simp only [List.head?_cons, Option.bind_some, flagsToken, if_true, List.tail_cons]
        split <;> rfl
      · rfl
      · next hb hc =>
        cases t with
        | nil => rfl
        | cons c t =>
          have hb' : c ≠ ')' := fun h => hb t (by rw [h])
          have hc' : c ≠ ':' := fun h => hc t (by rw [h])
          simp [flagsToken, hb', hc']
  · next h => rw [if_neg (head?_ne h)]; rfl

/-- A step of reading takes a token. -/
theorem readStep_eq (st : Reading) (c : Char) (r : List Char) :
    readStep st (c :: r) = (tokenAt st.flags c r).bind fun y =>
      (st.take y.1).map fun st' => (st', y.1.leave st.flags y.2) := by
  unfold readStep
  split
  · next h => cases h
  · next h => cases h; exact openGroup_eq st _
  · next h => cases h; rfl
  · next h => cases h; rfl
  · next h =>
    cases h
    unfold tokenAt
    cases bracket st.flags r <;> rfl
  · next h => cases h; exact repeatLast_eq st _ _ _ _
  · next h => cases h; exact repeatLast_eq st _ _ _ _
  · next h => cases h; exact repeatLast_eq st _ _ _ _
  · next h =>
    cases h
    rw [counted_eq]
    unfold tokenAt
    simp only [repeatLast_eq]
    cases readBounds st.flags r <;> rfl
  · next h =>
    cases h
    unfold tokenAt
    cases escape st.flags r with
    | none => rfl
    | some y =>
      simp only [Option.bind_some, Option.bind_eq_bind]
      cases y.1.regex? st.flags <;> rfl
  · next h =>
    cases h
    unfold tokenAt
    split <;> rfl
  · next h => cases h; rfl
  · next h => cases h; rfl
  · next h =>
    cases h
    unfold tokenAt
    split
    all_goals first
      | rfl
      | exact (‹_ = _ → False› rfl).elim

structure Follows (fl : Flags) (r r' : List Char) : Prop where
  head : r.head? ≠ some '?' → r'.head? ≠ some '?'
  skipped : (fl.skip r).head? ≠ some '?' → (fl.skip r').head? ≠ some '?'

/-- A reader that looks behind what it takes for a question mark only. -/
def Soft {α : Type} (fl : Flags) (read : List Char → Option (α × List Char)) : Prop :=
  ∀ ⦃s x r⦄, read s = some (x, r) →
    ∃ u, s = u ++ r ∧ ∀ r', Follows fl r r' → read (u ++ r') = some (x, r')

theorem Firm.soft {α : Type} {read : List Char → Option (α × List Char)} (h : Firm read) :
    Soft fl read := fun _ _ _ hs => by
  obtain ⟨u, rfl, hu⟩ := h hs
  exact ⟨u, rfl, fun r' _ => hu r'⟩

theorem soft_quantifier (fl : Flags) (lo : Nat) (hi : Option Nat) (braces : Bool) :
    Soft fl fun s => some (quantifier fl lo hi braces s) := by
  intro s x r h
  by_cases hq : (if braces then fl.skip s else s).head? = some '?'
  · simp only [quantifier, if_pos hq] at h
    cases h
    obtain ⟨t, ht⟩ := List.head?_eq_some_iff.mp hq
    rw [ht, List.tail_cons]
    cases braces with
    | false =>
      obtain rfl : s = '?' :: t := ht
      exact ⟨['?'], rfl, fun r' _ => rfl⟩
    | true =>
      change fl.skip s = '?' :: t at ht
      obtain ⟨u, rfl, -, hu⟩ := Flags.skip_cons ht
      refine ⟨u ++ ['?'], by simp, fun r' _ => ?_⟩
      simp only [List.append_assoc, List.singleton_append, quantifier, if_true, hu, List.head?_cons,
        List.tail_cons]
  · simp only [quantifier, if_neg hq] at h
    cases h
    refine ⟨[], rfl, fun r' hf => ?_⟩
    have hq' : ¬(if braces then fl.skip r' else r').head? = some '?' := by
      cases braces
      · exact hf.head hq
      · exact hf.skipped hq
    simp only [List.nil_append, quantifier, if_neg hq']

theorem soft_counted (fl : Flags) :
    Soft fl fun s => (readBounds fl s).map fun y => quantifier fl y.1.1 y.1.2 true y.2 := by
  intro s x r h
  obtain ⟨⟨⟨lo, hi⟩, m⟩, hb, hx⟩ := Option.map_eq_some_iff.mp h
  obtain ⟨u, rfl, hu⟩ := firm_readBounds fl hb
  obtain ⟨v, rfl, hv⟩ := soft_quantifier fl lo hi true (congrArg some hx)
  refine ⟨u ++ v, by simp, fun r' hf => ?_⟩
  simp only [List.append_assoc, hu, Option.map_some]
  exact hv r' hf

theorem firm_named : Firm named := firm_groupName.map fun name => Token.capture (some name)

theorem firm_flagged (fl : Flags) : Firm (flagged fl) := by
  intro s x r h
  obtain ⟨⟨fl', any, m⟩, hf, hx⟩ := Option.bind_eq_some_iff.mp h
  obtain ⟨u, c, r₀, rfl, rfl, hu⟩ := flagLetters_eq_some hf
  obtain ⟨tok, ht, he⟩ := Option.map_eq_some_iff.mp hx
  cases he
  rw [List.head?_cons, Option.bind_some] at ht
  refine ⟨u ++ [c], by simp, fun r' => ?_⟩
  simp only [List.append_assoc, List.singleton_append, flagged, hu, Option.bind_some,
    List.head?_cons, List.tail_cons, ht, Option.map_some]

theorem firm_special (fl : Flags) : Firm (special fl) := by
  have hn := firm_none.branch '=' (firm_none.branch '!' firm_named rfl) rfl
  exact hn.branch '<' ((firm_named.branch '<' firm_none rfl).branch 'P' (firm_flagged fl) rfl) rfl

theorem soft_opening? (fl : Flags) : Soft fl (opening? fl) := by
  intro s x r h
  unfold opening? at h
  split at h
  · next hq =>
    obtain ⟨t, ht⟩ := List.head?_eq_some_iff.mp hq
    rw [ht, List.tail_cons] at h
    obtain ⟨v, rfl, hv⟩ := firm_special fl h
    obtain ⟨u, rfl, -, hu⟩ := Flags.skip_cons ht
    refine ⟨u ++ '?' :: v, by simp, fun r' _ => ?_⟩
    simp only [List.append_assoc, List.cons_append, opening?, hu, List.head?_cons, if_true,
      List.tail_cons, hv]
  · next hq =>
    cases h
    refine ⟨[], rfl, fun r' hf => ?_⟩
    rw [List.nil_append, opening?, if_neg (hf.skipped hq)]

def wordBoundary (fl : Flags) : Token := .atom (.anchor (.boundary (!fl.unicode))) 0

theorem tokenAt_of_bare (h : Bare fl r) :
    tokenAt fl '\\' ('b' :: r) = some (wordBoundary fl, r) := by
  unfold tokenAt
  rw [escape_of_bare h]
  rfl

/-- A token does not look behind what it takes, except for a question mark and for a word
boundary. -/
theorem tokenAt_eq_some {tok : Token} (h : tokenAt fl c s = some (tok, r)) :
    (∃ u, s = u ++ r ∧ ∀ r', Follows fl r r' → tokenAt fl c (u ++ r') = some (tok, r')) ∨
      c = '\\' ∧ s = 'b' :: r ∧ Bare fl r ∧ tok = wordBoundary fl := by
  by_cases hc : c = '\\'
  · subst hc
    obtain ⟨⟨a, m⟩, he, hx⟩ := Option.bind_eq_some_iff.mp h
    obtain ⟨x, ha, hx⟩ := Option.map_eq_some_iff.mp hx
    cases hx
    rcases escape_eq_some he with ⟨u, rfl, -, hu⟩ | ⟨rfl, rfl, hb⟩
    · refine .inl ⟨u, rfl, fun r' _ => ?_⟩
      unfold tokenAt
      rw [hu, Option.bind_some, ha]
      rfl
    · cases ha
      exact .inr ⟨rfl, rfl, hb, rfl⟩
  · left
    suffices hs : Soft fl (tokenAt fl c) from hs h
    unfold tokenAt
    split
    · exact soft_opening? fl
    · exact (firm_pure _).soft
    · exact (firm_pure _).soft
    · exact ((firm_bracket fl).map fun y => Token.atom (.set y.1) y.2).soft
    · exact soft_quantifier fl _ _ _
    · exact soft_quantifier fl _ _ _
    · exact soft_quantifier fl _ _ _
    · exact soft_counted fl
    · exact (hc rfl).elim
    · by_cases hu : fl.unicode = true
      · simpa only [if_pos hu] using (firm_pure _).soft
      · simpa only [if_neg hu] using firm_none.soft
    · exact (firm_pure _).soft
    · exact (firm_pure _).soft
    · exact (firm_pure _).soft

theorem quantifier_ne_close (fl : Flags) (lo : Nat) (hi : Option Nat) (braces : Bool)
    (s : List Char) : (quantifier fl lo hi braces s).1 ≠ .close := by
  intro h
  by_cases hq : (if braces then fl.skip s else s).head? = some '?'
  · simp only [quantifier, if_pos hq] at h
    cases h
  · simp only [quantifier, if_neg hq] at h
    cases h

theorem named_ne_close {tok : Token} (h : named s = some (tok, r)) : tok ≠ .close := by
  obtain ⟨_, -, he⟩ := Option.map_eq_some_iff.mp h
  cases he
  nofun

theorem flagged_ne_close {tok : Token} (h : flagged fl s = some (tok, r)) : tok ≠ .close := by
  obtain ⟨_, -, hx⟩ := Option.bind_eq_some_iff.mp h
  obtain ⟨tok, ht, he⟩ := Option.map_eq_some_iff.mp hx
  cases he
  obtain ⟨c, -, hc⟩ := Option.bind_eq_some_iff.mp ht
  unfold flagsToken at hc
  split at hc
  · split at hc <;> cases hc
    nofun
  · split at hc <;> cases hc
    nofun

theorem opening?_ne_close {tok : Token} (h : opening? fl s = some (tok, r)) : tok ≠ .close := by
  unfold opening? at h
  split at h
  · unfold special at h
    split at h
    · split at h
      · cases h
      · split at h
        · cases h
        · exact named_ne_close h
    · split at h
      · split at h
        · exact named_ne_close h
        · cases h
      · exact flagged_ne_close h
  · cases h
    nofun

theorem eq_of_tokenAt_close (h : tokenAt fl c s = some (.close, r)) : c = ')' := by
  unfold tokenAt at h
  split at h
  · exact (opening?_ne_close h rfl).elim
  · rfl
  · cases h
  · obtain ⟨_, -, he⟩ := Option.map_eq_some_iff.mp h
    cases he
  · exact (quantifier_ne_close _ _ _ _ _ (congrArg Prod.fst (Option.some.inj h))).elim
  · exact (quantifier_ne_close _ _ _ _ _ (congrArg Prod.fst (Option.some.inj h))).elim
  · exact (quantifier_ne_close _ _ _ _ _ (congrArg Prod.fst (Option.some.inj h))).elim
  · obtain ⟨_, -, he⟩ := Option.map_eq_some_iff.mp h
    exact (quantifier_ne_close _ _ _ _ _ (congrArg Prod.fst he)).elim
  · obtain ⟨_, -, hx⟩ := Option.bind_eq_some_iff.mp h
    obtain ⟨_, -, he⟩ := Option.map_eq_some_iff.mp hx
    cases he
  · split at h <;> cases h
  · cases h
  · cases h
  · cases h

end Catalog.Pattern
