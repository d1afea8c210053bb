import Catalog.Proofs.Pattern.Meaning
import Catalog.Proofs.Pattern.Token

/-! # Patterns inside a group

A pattern that is read inside a group, with a closing parenthesis behind it, is read as it is by
itself unless it closes that group on its own or hides the parenthesis in a comment.
-/

namespace Catalog.Pattern

open Text

variable {fl : Flags} {s r t : List Char} {c : Char} {st st' fin : Reading} {tok : Token}

theorem Token.length_leave_le (tok : Token) (fl : Flags) (r : List Char) :
    (tok.leave fl r).length ≤ r.length := by
  unfold leave
  split
  · exact fl.length_skip_le r
  · exact fl.length_skip_le r
  · exact Nat.le_refl _

theorem take_capture {name : Option String} (h : st.take (.capture name) = some st') :
    st'.flags = st.flags := by
  obtain ⟨names, -, rfl⟩ := Option.map_eq_some_iff.mp h
  rfl

theorem take_rep {lo : Nat} {hi : Option Nat} {isLazy braces : Bool}
    (h : st.take (.rep lo hi isLazy braces) = some st') : st'.flags = st.flags := by
  obtain ⟨ps, rfl⟩ := Reading.eq_of_repeated h
  rfl

theorem skip_leave (h : st.take tok = some st') (r : List Char) :
    st'.flags.skip (tok.leave st.flags r) = st'.flags.skip r := by
  unfold Token.leave
  split
  · rw [take_capture h, Flags.skip_skip]
  · rw [take_rep h, Flags.skip_skip]
  · rfl

theorem tokenAt_suffix (h : tokenAt fl c s = some (tok, r)) : ∃ u, s = u ++ r := by
  rcases tokenAt_eq_some h with ⟨u, hu, -⟩ | ⟨-, rfl, -, -⟩
  · exact ⟨u, hu⟩
  · exact ⟨['b'], rfl⟩

theorem length_lt_of_tokenAt (h : fl.skip s = c :: t) (ht : tokenAt fl c t = some (tok, r)) :
    r.length < s.length := by
  obtain ⟨v, rfl⟩ := tokenAt_suffix ht
  obtain ⟨u, rfl, -, -⟩ := Flags.skip_cons h
  simp
  omega

theorem readLoop_cons (h : st.flags.skip s = c :: t) :
    readLoop st s = (readStep st (c :: t)).bind fun y => readLoop y.1 y.2 := by
  rw [readLoop, h]
  dsimp only
  split
  · next hr => rw [hr]; rfl
  · next st' r hr =>
    rw [hr, Option.bind_some]
    rw [readStep_eq] at hr
    obtain ⟨⟨tok, m⟩, ht, hx⟩ := Option.bind_eq_some_iff.mp hr
    obtain ⟨st'', -, he⟩ := Option.map_eq_some_iff.mp hx
    cases he
    have hle : (tok.leave st.flags m).length ≤ m.length := tok.length_leave_le st.flags m
    exact if_pos (Nat.lt_of_le_of_lt hle (length_lt_of_tokenAt h ht))

theorem readLoop_nil (h : st.flags.skip s = []) : readLoop st s = some st := by
  rw [readLoop, h]

theorem readLoop_congr {s' : List Char} (h : st.flags.skip s = st.flags.skip s') :
    readLoop st s = readLoop st s' := by
  cases hs : st.flags.skip s with
  | nil => rw [readLoop_nil hs, readLoop_nil (h ▸ hs)]
  | cons c t => rw [readLoop_cons hs, readLoop_cons (h ▸ hs)]

theorem readLoop_token (h : st.flags.skip s = c :: t) :
    readLoop st s = (tokenAt st.flags c t).bind fun y => (st.take y.1).bind fun st' =>
      readLoop st' y.2 := by
  rw [readLoop_cons h, readStep_eq, Option.bind_assoc]
  refine congrArg _ (funext fun ⟨tok, r⟩ => ?_)
  cases ht : st.take tok with
  | none => simp
  | some st' => simpa using readLoop_congr (skip_leave ht r)

theorem readLoop_eq_some (h : st.flags.skip s = c :: t) (hr : readLoop st s = some fin) :
    ∃ tok r st', tokenAt st.flags c t = some (tok, r) ∧ st.take tok = some st' ∧
      readLoop st' r = some fin := by
  rw [readLoop_token h] at hr
  obtain ⟨⟨tok, r⟩, ht, hr⟩ := Option.bind_eq_some_iff.mp hr
  obtain ⟨st', hs, hr⟩ := Option.bind_eq_some_iff.mp hr
  exact ⟨tok, r, st', ht, hs, hr⟩

/-- The same reading inside groups that are open already. -/
def Reading.under (gs : List OpenGroup) (st : Reading) : Reading :=
  { st with stack := st.stack ++ gs }

@[simp] theorem Reading.under_flags (gs : List OpenGroup) (st : Reading) :
    (st.under gs).flags = st.flags := rfl

/-- Only a closing parenthesis that closes a group around the reading looks at that group. -/
theorem take_under (gs : List OpenGroup) (h : tok = .close → st.stack ≠ []) :
    (st.under gs).take tok = (st.take tok).map (.under gs) := by
  cases tok with
  | capture name =>
    simp only [Reading.take, openCapture, Option.map_map]
    rfl
  | directive fl => rfl
  | scope fl => rfl
  | close =>
    obtain ⟨g, below, hs⟩ := List.exists_cons_of_ne_nil (h rfl)
    simp only [Reading.take, closeGroup, Reading.under, hs, List.cons_append, Option.map_some]
    rfl
  | bar => rfl
  | atom r depth => rfl
  | rep lo hi isLazy braces =>
    simp only [Reading.take, Reading.repeated, Reading.under]
    split
    · split <;> rfl
    · rfl

theorem stack_ne_nil_of_take (ht : tok ≠ .close) (h : st.take tok = some st') (hs : st.stack ≠ []) :
    st'.stack ≠ [] := by
  cases tok with
  | capture name =>
    obtain ⟨names, -, rfl⟩ := Option.map_eq_some_iff.mp h
    exact List.cons_ne_nil _ _
  | directive fl => cases h; exact hs
  | scope fl => cases h; exact List.cons_ne_nil _ _
  | close => exact (ht rfl).elim
  | bar => cases h; exact hs
  | atom r depth => cases h; exact hs
  | rep lo hi isLazy braces =>
    obtain ⟨ps, rfl⟩ := Reading.eq_of_repeated h
    exact hs

theorem stack_ne_nil_of_readLoop (hc : ')' ∉ s) (h : readLoop st s = some fin)
    (hs : st.stack ≠ []) : fin.stack ≠ [] := by
  -- a token takes any number of characters, so the induction is on how many are left
  induction hn : s.length using Nat.strong_induction_on generalizing st s with
  | h n ih =>
    subst hn
    cases hskip : st.flags.skip s with
    | nil =>
      rw [readLoop_nil hskip] at h
      cases h
      exact hs
    | cons c t =>
      obtain ⟨tok, r, st', ht, hst, hr⟩ := readLoop_eq_some hskip h
      have hlt := length_lt_of_tokenAt hskip ht
      obtain ⟨v, rfl⟩ := tokenAt_suffix ht
      obtain ⟨u, rfl, -, -⟩ := Flags.skip_cons hskip
      have hclose : tok ≠ .close := by
        rintro rfl
        obtain rfl := eq_of_tokenAt_close ht
        simp at hc
      have hr' : ')' ∉ r := fun hm => hc (by simp [hm])
      exact ih r.length hlt hr' hr (stack_ne_nil_of_take hclose hst hs) rfl

theorem dropVerbose_of_not_mem (h : '\n' ∉ s) : dropVerbose true s = [] := by
  induction s with
  | nil => rfl
  | cons c s ih =>
    have hc : (c != '\n') = true := bne_iff_ne.mpr fun he => h (by simp [he])
    rw [dropVerbose, if_pos rfl, hc]
    exact ih fun hm => h (List.mem_cons_of_mem c hm)

theorem Flags.skip_parenthesis (fl : Flags) (t : List Char) : fl.skip (')' :: t) = ')' :: t :=
  fl.skip_visible (by decide) (by decide) t

theorem Flags.skip_closing (h : fl.skip s = []) :
    (∀ t, fl.skip (s ++ ')' :: t) = ')' :: t) ∨ ∀ t, '\n' ∉ t → fl.skip (s ++ ')' :: t) = [] := by
  rcases skip_append_of_nil h with ha | ha
  · exact .inl fun t => (ha _).trans (fl.skip_parenthesis t)
  · exact .inr fun t hn => (ha _).trans (dropVerbose_of_not_mem (by simpa using hn))

theorem follows_closing (hn : '\n' ∉ t) (fl : Flags) (r : List Char) :
    Follows fl r (r ++ ')' :: t) where
  head h := by
    cases r with
    | nil => simp
    | cons c r => exact h
  skipped h := by
    cases hs : fl.skip r with
    | nil =>
      rcases Flags.skip_closing hs with ha | ha
      · simp [ha]
      · simp [ha t hn]
    | cons c r' =>
      rw [hs] at h
      rw [Flags.skip_append hs]
      exact h

theorem Bare.closing (h : Bare fl r) (t : List Char) : Bare fl (r ++ ')' :: t) := by
  intro t' ht
  cases r with
  | nil => cases ht
  | cons c r =>
    obtain ⟨rfl, rfl⟩ := List.cons.inj ht
    obtain ⟨d, r', hs, hd⟩ := h r rfl
    exact ⟨d, r' ++ ')' :: t, Flags.skip_append hs _, hd⟩

theorem tokenAt_closing (hn : '\n' ∉ t) (h : tokenAt fl c s = some (tok, r)) :
    tokenAt fl c (s ++ ')' :: t) = some (tok, r ++ ')' :: t) := by
  rcases tokenAt_eq_some h with ⟨u, rfl, hu⟩ | ⟨rfl, rfl, hb, rfl⟩
  · rw [List.append_assoc]
    exact hu _ (follows_closing hn fl r)
  · exact tokenAt_of_bare (hb.closing t)

/-- What was read is read inside groups, up to a closing parenthesis behind it, unless that is in a
comment. -/
theorem readLoop_closing (h : readLoop st s = some fin) :
    (∀ gs t, '\n' ∉ t →
        readLoop (st.under gs) (s ++ ')' :: t) = readLoop (fin.under gs) (')' :: t)) ∨
      ∀ gs t, '\n' ∉ t → readLoop (st.under gs) (s ++ ')' :: t) = some (fin.under gs) := by
  induction hl : s.length using Nat.strong_induction_on generalizing st s with
  | h n ih =>
    subst hl
    cases hskip : st.flags.skip s with
    | nil =>
      rw [readLoop_nil hskip] at h
      cases h
      rcases Flags.skip_closing hskip with ha | ha
      · exact .inl fun gs t _ => readLoop_congr ((ha t).trans (Flags.skip_parenthesis _ t).symm)
      · exact .inr fun gs t hn => readLoop_nil (ha t hn)
    | cons c t₀ =>
      obtain ⟨tok, r, st', ht, hst, hr⟩ := readLoop_eq_some hskip h
      have hstep (gs : List OpenGroup) (t : List Char) (hn : '\n' ∉ t) :
          readLoop (st.under gs) (s ++ ')' :: t) = readLoop (st'.under gs) (r ++ ')' :: t) := by
        have hclose : tok = .close → st.stack ≠ [] := by
          rintro rfl he
          simp only [Reading.take, closeGroup, he] at hst
          cases hst
        have hskip' : (st.under gs).flags.skip (s ++ ')' :: t) = c :: (t₀ ++ ')' :: t) :=
          Flags.skip_append hskip _
        rw [readLoop_token hskip', Reading.under_flags, tokenAt_closing hn ht, Option.bind_some,
          take_under gs hclose, hst]
        rfl
      rcases ih _ (length_lt_of_tokenAt hskip ht) hr rfl with ha | ha
      · exact .inl fun gs t hn => (hstep gs t hn).trans (ha gs t hn)
      · exact .inr fun gs t hn => (hstep gs t hn).trans (ha gs t hn)

/-- Reading comes to a closing parenthesis while no group is open. -/
inductive Stray : Reading → List Char → Prop
  | here {st : Reading} {s r : List Char} (hs : st.flags.skip s = ')' :: r) (he : st.stack = []) :
      Stray st s
  | step {st st' : Reading} {s t r : List Char} {c : Char} (hs : st.flags.skip s = c :: t)
      (hstep : readStep st (c :: t) = some (st', r)) (h : Stray st' r) : Stray st s

theorem Stray.congr {s' : List Char} (h : st.flags.skip s = st.flags.skip s') (hs : Stray st s) :
    Stray st s' := by
  cases hs with
  | here hs he => exact .here (h ▸ hs) he
  | step hs hstep hr => exact .step (h ▸ hs) hstep hr

theorem Stray.token (hs : st.flags.skip s = c :: t) (ht : tokenAt st.flags c t = some (tok, r))
    (hst : st.take tok = some st') (h : Stray st' r) : Stray st s := by
  refine .step hs ?_ (h.congr (skip_leave hst r).symm)
  rw [readStep_eq, ht, Option.bind_some, hst]
  rfl

theorem Stray.readLoop_eq_none (h : Stray st s) : readLoop st s = none := by
  induction h with
  | @here st s r hs he =>
    rw [readLoop_token hs]
    change ((closeGroup st).bind fun st' => readLoop st' r) = none
    simp only [closeGroup, he, Option.bind_none]
  | step hs hstep _ ih => rw [readLoop_cons hs, hstep, Option.bind_some, ih]

theorem follows_of_closing (fl : Flags) (r t : List Char) : Follows fl (r ++ t) r where
  head h := by
    cases r with
    | nil => simp
    | cons c r => exact h
  skipped h := by
    cases hs : fl.skip r with
    | nil => simp
    | cons c r' =>
      rw [Flags.skip_append hs] at h
      exact h

theorem tokenAt_of_closing (h : tokenAt fl c (s ++ ')' :: t) = some (tok, r)) :
    (∃ q, r = q ++ ')' :: t ∧ (∃ u, s = u ++ q) ∧ (tokenAt fl c s = some (tok, q) ∨
      tok = wordBoundary fl ∧ ∃ q', q = '\x7b' :: q' ∧ fl.skip q' = [])) ∨ ∃ u, t = u ++ r := by
  rcases tokenAt_eq_some h with ⟨u, he, hu⟩ | ⟨rfl, he, hb, rfl⟩
  · rcases List.append_eq_append_iff.mp he with ⟨v, rfl, hv⟩ | ⟨q, rfl, rfl⟩
    · cases v with
      | nil =>
        obtain rfl : ')' :: t = r := hv
        refine .inl ⟨[], rfl, ⟨s, (List.append_nil s).symm⟩, .inl ?_⟩
        simpa using hu [] (follows_of_closing fl [] _)
      | cons d v => exact .inr ⟨v, (List.cons.inj hv).2⟩
    · exact .inl ⟨q, rfl, ⟨u, rfl⟩, .inl (hu q (follows_of_closing fl q _))⟩
  · cases s with
    | nil => cases he
    | cons d s =>
      obtain ⟨rfl, rfl⟩ := List.cons.inj he
      refine .inl ⟨s, rfl, ⟨['b'], rfl⟩, ?_⟩
      by_cases hs : Bare fl s
      · exact .inl (tokenAt_of_bare hs)
      · refine .inr ⟨rfl, ?_⟩
        unfold Bare at hs
        push Not at hs
        obtain ⟨q, rfl, hq⟩ := hs
        refine ⟨q, rfl, ?_⟩
        cases hk : fl.skip q with
        | nil => rfl
        | cons d q' =>
          obtain ⟨d', q'', hk', hd⟩ := hb (q ++ ')' :: t) rfl
          rw [Flags.skip_append hk] at hk'
          obtain ⟨rfl, -⟩ := List.cons.inj hk'
          exact (hq d q' hk hd).elim

theorem decimal_parenthesis (fl : Flags) (t : List Char) : decimal fl (')' :: t) = none := by
  have ht : trimStart (')' :: t) = ')' :: t := rfl
  have hd : decimal.digits fl (')' :: t) = ([], ')' :: t) := by
    unfold decimal.digits
    cases fl.verbose <;> rfl
  unfold decimal
  rw [ht, hd]
  rfl

theorem readLoop_brace {q : List Char} (hq : st.flags.skip q = []) (hn : '\n' ∉ t) :
    readLoop st ('\x7b' :: (q ++ ')' :: t)) = none := by
  have hb : readBounds st.flags (q ++ ')' :: t) = none := by
    unfold readBounds
    rcases Flags.skip_closing hq with ha | ha
    · rw [ha, decimal_parenthesis]
      rfl
    · rw [ha t hn]
      rfl
  rw [readLoop_token (st.flags.skip_visible (by decide) (by decide) _)]
  unfold tokenAt
  rw [hb]
  rfl

/-- What is read inside a group, with a parenthesis behind it that closes the group, is read by
itself, unless it closes the group on its own. -/
theorem readLoop_of_closing {g : OpenGroup} (hc : ')' ∉ t) (hn : '\n' ∉ t)
    (h : readLoop (st.under [g]) (s ++ ')' :: t) = some fin) (hf : fin.stack = []) :
    (∃ fin', readLoop st s = some fin' ∧ fin'.stack = []) ∨ Stray st s := by
  have hunder (st : Reading) : (st.under [g]).stack ≠ [] :=
    List.append_ne_nil_of_right_ne_nil _ (List.cons_ne_nil _ _)
  -- a token takes any number of characters, so the induction is on how many are left
  induction hl : s.length using Nat.strong_induction_on generalizing st s with
  | h n ih =>
    subst hl
    cases hskip : st.flags.skip s with
    | nil =>
      rw [← Reading.under_flags [g]] at hskip
      rcases Flags.skip_closing hskip with ha | ha
      · by_cases hs : st.stack = []
        · exact .inl ⟨st, readLoop_nil hskip, hs⟩
        · -- the parenthesis closes a group of the text, so the one around it stays open
          obtain ⟨tok, r, st₁, ht, hst, hr⟩ := readLoop_eq_some (ha t) h
          cases ht
          rw [take_under [g] fun _ => hs] at hst
          obtain ⟨st', -, rfl⟩ := Option.map_eq_some_iff.mp hst
          exact (stack_ne_nil_of_readLoop hc hr (hunder st') hf).elim
      · rw [readLoop_nil (ha t hn)] at h
        cases h
        exact (hunder st hf).elim
    | cons c t₀ =>
      have hskip' : (st.under [g]).flags.skip (s ++ ')' :: t) = c :: (t₀ ++ ')' :: t) :=
        Flags.skip_append hskip _
      obtain ⟨tok, r, st₁, ht, hst, hr⟩ := readLoop_eq_some hskip' h
      rw [Reading.under_flags] at ht
      by_cases hclose : tok = .close ∧ st.stack = []
      · obtain ⟨rfl, hs⟩ := hclose
        obtain rfl := eq_of_tokenAt_close ht
        exact .inr (.here hskip hs)
      · rw [take_under [g] fun h₁ h₂ => hclose ⟨h₁, h₂⟩] at hst
        obtain ⟨st', hst', rfl⟩ := Option.map_eq_some_iff.mp hst
        rcases tokenAt_of_closing ht with ⟨q, rfl, ⟨v, rfl⟩, hq⟩ | ⟨v, rfl⟩
        · rcases hq with ht' | ⟨rfl, q', rfl, hq'⟩
          · rcases ih _ (length_lt_of_tokenAt hskip ht') hr rfl with ⟨fin', hfin', hs⟩ | hstray
            · refine .inl ⟨fin', ?_, hs⟩
              rw [readLoop_token hskip, ht', Option.bind_some, hst', Option.bind_some, hfin']
            · exact .inr (hstray.token hskip ht' hst')
          · have hnone : readLoop (st'.under [g]) ('\x7b' :: (q' ++ ')' :: t)) = none := by
              cases hst'
              exact readLoop_brace hq' hn
            rw [List.cons_append, hnone] at hr
            cases hr
        · exact (stack_ne_nil_of_readLoop (fun hm => hc (by simp [hm])) hr (hunder st') hf).elim

/-- The pattern that stands for a match of the whole text. -/
def wrap (p : List Char) : List Char := '^' :: '(' :: '?' :: ':' :: (p ++ [')', '$'])

def Regex.whole (r : Regex) : Regex := .seq (.anchor .textStart) (.seq r (.anchor .textEnd))

theorem Regex.weight_whole (r : Regex) : r.whole.weight = r.weight + 64 := by
  change 32 + (r.weight + 32) = r.weight + 64
  omega

theorem Regex.matches_whole {text : Subject} {r : Regex} :
    (∃ i ≤ text.size, ∃ j, r.whole.Matches text i j) ↔ r.Matches text 0 text.size := by
  constructor
  · rintro ⟨i, -, j, k, ⟨hi, rfl⟩, m, hr, hm, rfl⟩
    obtain rfl : i = 0 := beq_iff_eq.mp hi
    obtain rfl : m = text.size := beq_iff_eq.mp hm
    exact hr
  · intro h
    exact ⟨0, Nat.zero_le _, text.size, 0, ⟨rfl, rfl⟩, text.size, h, beq_self_eq_true _, rfl⟩

/-- The group around a pattern. -/
def frame : OpenGroup := ⟨none, {}, [⟨.anchor .textStart, 0, true⟩], []⟩

theorem readLoop_wrap (p : List Char) :
    readLoop {} (wrap p) = readLoop (Reading.under [frame] {}) (p ++ [')', '$']) := by
  rw [wrap, readLoop_token rfl]
  change readLoop (Reading.push {} (.anchor .textStart) 0) _ = _
  rw [readLoop_token rfl]
  rfl

theorem ofPieces_whole (r : Regex) (depth : Nat) :
    Branch.ofPieces [⟨.anchor .textEnd, 0, true⟩, ⟨r, depth, true⟩, ⟨.anchor .textStart, 0, true⟩] =
      ⟨r.whole, depth + 1⟩ := by
  simp [Branch.ofPieces, Regex.ofList, Regex.whole]

/-- The parenthesis behind a pattern closes the group around it. -/
theorem readLoop_frame (hs : fin.stack = []) :
    ∃ fin', readLoop (fin.under [frame]) [')', '$'] = some fin' ∧ fin'.stack = [] ∧
      fin'.body = ⟨fin.body.regex.whole, fin.body.depth + 2⟩ ∧
      fin'.captures = fin.captures ∧ fin'.names = fin.names := by
  obtain ⟨fl, pieces, branches, stack, captures, names⟩ := fin
  obtain rfl : stack = [] := hs
  rw [readLoop_token (Flags.skip_parenthesis fl ['$'])]
  change ∃ fin', readLoop (Reading.mk {} _ [] [] captures names) ['$'] = some fin' ∧ _
  rw [readLoop_token rfl]
  exact ⟨_, readLoop_nil rfl, rfl, ofPieces_whole _ _, rfl, rfl⟩

theorem parse?_eq {p : List Char} (h : readLoop {} p = some fin) :
    parse? p = if fin.stack = [] ∧ fin.body.depth ≤ depthLimit ∧
      fin.body.regex.weight ≤ Regex.weightLimit
      then some ⟨fin.body.regex, fin.captures, fin.names⟩ else none := by
  unfold parse?
  rw [h]
  dsimp only [Option.bind_eq_bind, Option.bind_some]
  by_cases hs : fin.stack = [] <;> by_cases hd : fin.body.depth ≤ depthLimit <;>
    by_cases hw : fin.body.regex.weight ≤ Regex.weightLimit <;>
    simp [hs, hd, hw, Nat.not_lt.mpr, Nat.not_le.mp]

/-- The wrapped form of a pattern stands for a match of the whole text by the pattern, as long as
the parenthesis behind the pattern is not in a comment and there is room for the anchors. -/
theorem parse?_wrap {p : List Char} (h : readLoop {} p = some fin) (hs : fin.stack = []) :
    parse? (wrap p) = if readLoop {} (p ++ [')']) = none ∧ fin.body.depth + 2 ≤ depthLimit ∧
      fin.body.regex.weight + 64 ≤ Regex.weightLimit
      then some ⟨fin.body.regex.whole, fin.captures, fin.names⟩ else none := by
  rcases readLoop_closing h with ha | ha
  · have hnone : readLoop {} (p ++ [')']) = none := by
      refine (ha [] [] List.not_mem_nil).trans ?_
      rw [readLoop_token (Flags.skip_parenthesis _ [])]
      change (closeGroup (fin.under [])).bind _ = none
      simp [closeGroup, Reading.under, hs]
    obtain ⟨fin', hfin', hs', hb, hc, hn⟩ := readLoop_frame hs
    have hw : readLoop {} (wrap p) = some fin' := by
      rw [readLoop_wrap, ha [frame] ['$'] (by decide), hfin']
    rw [parse?_eq hw, hb, hc, hn, Regex.weight_whole]
    simp only [hs', hnone, true_and]
  · have hw : readLoop {} (wrap p) = some (fin.under [frame]) := by
      rw [readLoop_wrap, ha [frame] ['$'] (by decide)]
    have hsome : readLoop {} (p ++ [')']) ≠ none := by
      rw [show readLoop {} (p ++ [')']) = _ from ha [] [] List.not_mem_nil]
      exact Option.some_ne_none _
    have hopen : (fin.under [frame]).stack ≠ [] := by simp [Reading.under]
    rw [parse?_eq hw, if_neg fun hc => hopen hc.1, if_neg fun hc => hsome hc.1]

/-- The wrapped form of a text that is no pattern is none, unless the text closes the group around
it on its own. -/
theorem parse?_wrap_eq_none {p : List Char} (hp : parse? p = none) (hs : ¬Stray {} p) :
    parse? (wrap p) = none := by
  cases hw : readLoop {} (wrap p) with
  | none =>
    unfold parse?
    rw [hw]
    rfl
  | some fin =>
    by_cases hclosed : fin.stack = []
    · rw [readLoop_wrap] at hw
      rcases readLoop_of_closing (by decide) (by decide) hw hclosed with ⟨fin', hfin', hs'⟩ | hstray
      · -- the pattern by itself is too deep or too large
        rw [parse?_eq hfin'] at hp
        rw [parse?_wrap hfin' hs']
        refine if_neg fun ⟨_, hd, hw⟩ => ?_
        rw [if_pos ⟨hs', by omega, by omega⟩] at hp
        cases hp
      · exact (hs hstray).elim
    · rw [parse?_eq hw, if_neg fun hc => hclosed hc.1]

end Catalog.Pattern
