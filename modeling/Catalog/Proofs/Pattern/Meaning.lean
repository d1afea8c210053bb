import Mathlib.Data.List.Perm.Subperm
import Catalog.Proofs.Pattern.Match

/-! # What patterns match

A regular expression says between which places of a text it matches. Its program accepts from where
it is entered exactly if a match begins there, and a search leaves out no place from which the
program accepts. So a match is found exactly if there is one.
-/

namespace Catalog.Pattern

/-- So many steps, each from where the last one led. -/
def Copies (R : Nat → Nat → Prop) : Nat → Nat → Nat → Prop
  | 0, i, j => i = j
  | n + 1, i, k => ∃ j, R i j ∧ Copies R n j k

theorem copies_add {R : Nat → Nat → Prop} {m n i k : Nat} :
    Copies R (m + n) i k ↔ ∃ j, Copies R m i j ∧ Copies R n j k := by
  induction m generalizing i with
  | zero => simp [Copies]
  | succ m ih =>
    rw [Nat.succ_add]
    simp only [Copies, ih]
    constructor
    · rintro ⟨a, ha, j, hm, hn⟩
      exact ⟨j, ⟨a, ha, hm⟩, hn⟩
    · rintro ⟨j, ⟨a, ha, hm⟩, hn⟩
      exact ⟨a, ha, j, hm, hn⟩

theorem exists_copies_iff {R : Nat → Nat → Prop} {i j : Nat} :
    (∃ n, Copies R n i j) ↔ (∃ n, Copies R (n + 1) i j) ∨ i = j := by
  constructor
  · rintro ⟨_ | n, hc⟩
    · exact .inr hc
    · exact .inl ⟨n, hc⟩
  · rintro (⟨n, hc⟩ | rfl)
    · exact ⟨n + 1, hc⟩
    · exact ⟨0, rfl⟩

/-- The text from `i` up to `j` is matched. -/
def Regex.Matches (text : Subject) : Regex → Nat → Nat → Prop
  | .empty, i, j => i = j
  | .set s, i, j => (∃ c, text[i]? = some c ∧ Inst.accepts s.ranges.toArray c = true) ∧ i + 1 = j
  | .anchor a, i, j => a.holds text i = true ∧ i = j
  | .group _ r, i, j => r.Matches text i j
  | .seq r s, i, k => ∃ j, r.Matches text i j ∧ s.Matches text j k
  | .alt r s, i, j => r.Matches text i j ∨ s.Matches text i j
  | .rep lo none _ r, i, j => ∃ n, Copies (r.Matches text) (lo + n) i j
  | .rep lo (some hi) _ r, i, j => ∃ n ≤ hi - lo, Copies (r.Matches text) (lo + n) i j

/-- An instruction that is walked at `i` accepts, or leads to the goal. -/
def Inst.Leads (text : Subject) (goal : Nat → Nat → Prop) (i : Nat) : Inst → Prop
  | .take set next => (∃ c, text[i]? = some c ∧ Inst.accepts set c = true) ∧ goal next (i + 1)
  | .check a next => a.holds text i = true ∧ goal next i
  | .save _ next => goal next i
  | .fork first second => goal first i ∨ goal second i
  | .accept => True

theorem Inst.Leads.mono {text : Subject} {goal goal' : Nat → Nat → Prop} {i : Nat} {inst : Inst}
    (h : inst.Leads text goal i) (hg : ∀ k j, goal k j → goal' k j) : inst.Leads text goal' i := by
  cases inst with
  | take => exact h.imp_right (hg _ _)
  | check => exact h.imp_right (hg _ _)
  | save => exact hg _ _ h
  | fork => exact h.imp (hg _ _) (hg _ _)
  | accept => exact h

/-- In less than `n` steps from an instruction and a place of the text the program accepts. -/
def AcceptsIn (p : Program) (text : Subject) : Nat → Nat → Nat → Prop
  | 0, _, _ => False
  | n + 1, k, i => ∃ inst, p[k]? = some inst ∧ inst.Leads text (AcceptsIn p text n) i

def AcceptsAt (p : Program) (text : Subject) (k i : Nat) : Prop := ∃ n, AcceptsIn p text n k i

section Accepting

variable {p : Program} {text : Subject} {n m k i : Nat} {inst : Inst}

theorem AcceptsIn.succ (h : AcceptsIn p text n k i) : AcceptsIn p text (n + 1) k i := by
  induction n generalizing k i with
  | zero => exact h.elim
  | succ n ih =>
    obtain ⟨inst, hk, hl⟩ := h
    exact ⟨inst, hk, hl.mono fun _ _ => ih⟩

theorem AcceptsIn.mono (h : AcceptsIn p text n k i) (hn : n ≤ m) : AcceptsIn p text m k i := by
  induction hn with
  | refl => exact h
  | step _ ih => exact ih.succ

theorem AcceptsIn.leads (h : AcceptsIn p text n k i) (hk : p[k]? = some inst) :
    inst.Leads text (AcceptsIn p text n) i := by
  cases n with
  | zero => exact h.elim
  | succ n =>
    obtain ⟨_, hk', hl⟩ := h
    cases hk.symm.trans hk'
    exact hl.mono fun _ _ => AcceptsIn.succ

theorem acceptsAt_of_leads (hk : p[k]? = some inst) (h : inst.Leads text (AcceptsAt p text) i) :
    AcceptsAt p text k i := by
  suffices hn : ∃ n, inst.Leads text (AcceptsIn p text n) i from
    hn.elim fun n hl => ⟨n + 1, inst, hk, hl⟩
  cases inst with
  | take => exact h.2.imp fun _ ha => ⟨h.1, ha⟩
  | check => exact h.2.imp fun _ ha => ⟨h.1, ha⟩
  | save => exact h
  | fork =>
    rcases h with ⟨n, h⟩ | ⟨n, h⟩
    · exact ⟨n, .inl h⟩
    · exact ⟨n, .inr h⟩
  | accept => exact ⟨0, trivial⟩

end Accepting

namespace Program

variable {text : Subject} {p q r : Program} {n next i : Nat}
  {code first second : Nat → Program → Nat × Program} {R S : Nat → Nat → Prop}

def Keeps (p q r : Program) : Prop := ∀ k, p.size ≤ k → k < q.size → r[k]? = q[k]?

theorem Keeps.front {m : Program} (h : Keeps p q r) (ha : Adds n m q) : Keeps p m r :=
  fun k hp hm => (h k hp (ha.lt_size hm)).trans (ha.below k hm)

theorem Keeps.back {m : Program} (h : Keeps p q r) (ha : Adds n p m) : Keeps m q r := fun k hm hq =>
  h k (Nat.le_trans ha.size_le hm) hq

theorem Keeps.last {inst : Inst} (h : Keeps p (q.add inst).2 r) (hp : p.size ≤ q.size) :
    r[q.size]? = some inst := by
  rw [h q.size hp (by rw [size_add]; exact Nat.lt_succ_self _)]
  exact Array.getElem?_push_size

/-- Code that accepts exactly if it can take a step of `R` to a place from which the code behind it
accepts. -/
structure Implements (text : Subject) (code : Nat → Program → Nat × Program)
    (R : Nat → Nat → Prop) : Prop where
  emits : Emits 0 code
  sound {next n i : Nat} {p r : Program} (hn : next < p.size) (hk : Keeps p (code next p).2 r)
    (ha : AcceptsIn r text n (code next p).1 i) : ∃ j, R i j ∧ AcceptsIn r text n next j
  complete {next i j : Nat} {p r : Program} (hn : next < p.size) (hk : Keeps p (code next p).2 r)
    (hr : R i j) (ha : AcceptsAt r text next j) : AcceptsAt r text (code next p).1 i

theorem leads_choose {greedy : Bool} {body exit : Nat} {goal : Nat → Nat → Prop} :
    (choose greedy body exit).Leads text goal i ↔ goal body i ∨ goal exit i := by
  cases greedy
  · exact or_comm
  · rfl

namespace Implements

theorem holds (h : Implements text code R) (hn : next < p.size) :
    (code next p).1 < (code next p).2.size ∧ Adds 0 p (code next p).2 :=
  (h.emits next p ⟨Nat.zero_le _, hn⟩).imp And.right id

theorem congr (h : Implements text code R) (hs : ∀ i j, R i j ↔ S i j) :
    Implements text code S where
  emits := h.emits
  sound hn hk ha := (h.sound hn hk ha).imp fun j => And.imp_left (hs _ j).mp
  complete hn hk hr ha := h.complete hn hk ((hs _ _).mpr hr) ha

theorem nothing : Implements text (fun next p => (next, p)) (· = ·) where
  emits _ _ hn := ⟨hn, .refl⟩
  sound _ _ ha := ⟨_, rfl, ha⟩
  complete _ _ hr ha := hr ▸ ha

theorem ite {c : Prop} [Decidable c] (hf : c → Implements text first R)
    (hs : ¬c → Implements text second R) :
    Implements text (fun next p => if c then first next p else second next p) R := by
  by_cases h : c
  · simpa only [if_pos h] using hf h
  · simpa only [if_neg h] using hs h

theorem inst {make : Nat → Inst}
    (hs : ∀ {n next m}, n ≤ next ∧ next < m → (make next).Stays n m)
    (hl : ∀ {next i goal}, (make next).Leads text goal i ↔ ∃ j, R i j ∧ goal next j) :
    Implements text (fun next p => p.add (make next)) R where
  emits _ _ hn := Adds.refl.then_add hn (hs hn)
  sound _ hk ha := hl.mp (ha.leads (hk.last (Nat.le_refl _)))
  complete _ hk hr ha := acceptsAt_of_leads (hk.last (Nat.le_refl _)) (hl.mpr ⟨_, hr, ha⟩)

theorem save (slot : Nat) : Implements text (fun next p => p.add (.save slot next)) (· = ·) :=
  .inst (fun h => ⟨nofun, stays_next h⟩) (by simp [Inst.Leads])

theorem comp (hf : Implements text first R) (hs : Implements text second S) :
    Implements text (fun next p => first (second next p).1 (second next p).2)
      (fun i k => ∃ j, R i j ∧ S j k) where
  emits next p hn := by
    have hsecond := hs.emits next p hn
    have hfirst := hf.emits _ _ hsecond.1
    exact ⟨hfirst.1, hsecond.2.trans hfirst.2⟩
  sound hn hk ha := by
    have hsecond := hs.holds hn
    obtain ⟨j, hr, ha⟩ := hf.sound hsecond.1 (hk.back hsecond.2) ha
    obtain ⟨l, hs, ha⟩ := hs.sound hn (hk.front (hf.holds hsecond.1).2) ha
    exact ⟨l, ⟨j, hr, hs⟩, ha⟩
  complete hn hk hr ha := by
    obtain ⟨j, hr, hs'⟩ := hr
    have hsecond := hs.holds hn
    exact hf.complete hsecond.1 (hk.back hsecond.2) hr
      (hs.complete hn (hk.front (hf.holds hsecond.1).2) hs' ha)

theorem copies (h : Implements text code R) (count : Nat) :
    Implements text (copies code count) (Copies R count) := by
  induction count with
  | zero => exact .nothing
  | succ count ih => exact h.comp ih

theorem either {make : Nat → Nat → Inst}
    (hstays : ∀ {n m a b}, n ≤ a ∧ a < m → n ≤ b ∧ b < m → (make a b).Stays n m)
    (hleads : ∀ {a b i goal}, (make a b).Leads text goal i ↔ goal a i ∨ goal b i)
    (hf : Implements text first R) (hs : Implements text second S) :
    Implements text
      (fun next p =>
        let (a, p) := first next p
        let (b, p) := second next p
        p.add (make a b))
      (fun i j => R i j ∨ S i j) where
  emits next p hn := by
    have ha := hf.emits next p hn
    have hb := hs.emits next _ (ha.2.holds hn)
    exact (ha.2.trans hb.2).then_add hb.1 (hstays (hb.2.holds ha.1) hb.1)
  sound {next n i p r} hn hk ha := by
    have hfirst := hf.holds hn
    have hsecond := hs.holds (hfirst.2.lt_size hn)
    have hq := hfirst.2.trans hsecond.2
    have hlast := hk.last hq.size_le
    have hadd : Keeps p (second next (first next p).2).2 r := hk.front (n := 0)
      (.add (hstays ⟨Nat.zero_le _, hsecond.2.lt_size hfirst.1⟩ ⟨Nat.zero_le _, hsecond.1⟩))
    rcases hleads.mp (ha.leads hlast) with ha | ha
    · exact (hf.sound hn (hadd.front hsecond.2) ha).imp fun _ => And.imp_left .inl
    · exact (hs.sound (hfirst.2.lt_size hn) (hadd.back hfirst.2) ha).imp fun _ => And.imp_left .inr
  complete {next i j p r} hn hk hr ha := by
    have hfirst := hf.holds hn
    have hsecond := hs.holds (hfirst.2.lt_size hn)
    have hq := hfirst.2.trans hsecond.2
    have hadd : Keeps p (second next (first next p).2).2 r := hk.front (n := 0)
      (.add (hstays ⟨Nat.zero_le _, hsecond.2.lt_size hfirst.1⟩ ⟨Nat.zero_le _, hsecond.1⟩))
    refine acceptsAt_of_leads (hk.last hq.size_le) (hleads.mpr ?_)
    exact hr.imp (fun hr => hf.complete hn (hadd.front hsecond.2) hr ha)
      fun hr => hs.complete (hfirst.2.lt_size hn) (hadd.back hfirst.2) hr ha

theorem optional (h : Implements text code R) (greedy : Bool) :
    Implements text
      (fun next p =>
        let (body, p) := code next p
        p.add (choose greedy body next))
      (fun i j => R i j ∨ i = j) := either stays_choose leads_choose h nothing

theorem options (h : Implements text code R) (greedy : Bool) (count : Nat) :
    Implements text (fun next p => options code greedy next count p)
      (fun i j => ∃ n ≤ count, Copies R n i j) := by
  induction count with
  | zero => exact nothing.congr fun i j => by simp [Copies]
  | succ count ih =>
    refine ((h.comp ih).optional greedy).congr fun i k => ?_
    constructor
    · rintro (⟨j, hr, n, hn, hc⟩ | rfl)
      · exact ⟨n + 1, Nat.succ_le_succ hn, j, hr, hc⟩
      · exact ⟨0, Nat.zero_le _, rfl⟩
    · rintro ⟨_ | n, hn, hc⟩
      · exact .inr hc
      · obtain ⟨j, hr, hc⟩ := hc
        exact .inl ⟨j, hr, n, Nat.le_of_succ_le_succ hn, hc⟩

section Loop

variable (h : Implements text code R) {greedy : Bool} (hk : Keeps p (loop code greedy next p).2 r)

include h hk

theorem fork_loop : r[p.size]? = some (choose greedy (loop code greedy next p).1 next) ∧
    Keeps (p.add .accept).2 (code p.size (p.add .accept).2).2 r := by
  have hb := (h.holds (holds_add (n := 0) (Nat.zero_le p.size) .accept).2).2
  have hlt := hb.lt_size (holds_add (n := 0) (Nat.zero_le p.size) .accept).2
  refine ⟨?_, fun k hp hq => ?_⟩
  · rw [hk _ (Nat.le_refl _) (Nat.lt_of_lt_of_eq hlt Array.size_setIfInBounds.symm)]
    exact (Array.getElem?_setIfInBounds_self).trans (if_pos hlt)
  · rw [size_add] at hp
    rw [hk k (Nat.le_of_succ_le hp) (Nat.lt_of_lt_of_eq hq Array.size_setIfInBounds.symm)]
    exact Array.getElem?_setIfInBounds_ne (Nat.ne_of_lt hp)

theorem sound_fork {n : Nat} (ha : AcceptsIn r text n p.size i) :
    ∃ j, (∃ m, Copies R m i j) ∧ AcceptsIn r text n next j := by
  obtain ⟨hfork, hbody⟩ := h.fork_loop hk
  induction n generalizing i with
  | zero => exact ha.elim
  | succ n ih =>
    obtain ⟨_, hinst, hl⟩ := ha
    cases hfork.symm.trans hinst
    rcases leads_choose.mp hl with ha | ha
    · obtain ⟨j, hr, ha⟩ := h.sound (holds_add (n := 0) (Nat.zero_le _) .accept).2 hbody ha
      obtain ⟨k, ⟨m, hc⟩, ha⟩ := ih ha
      exact ⟨k, ⟨m + 1, j, hr, hc⟩, ha.succ⟩
    · exact ⟨i, ⟨0, rfl⟩, ha.succ⟩

theorem complete_fork {m j : Nat} (hc : Copies R m i j) (ha : AcceptsAt r text next j) :
    AcceptsAt r text p.size i := by
  obtain ⟨hfork, hbody⟩ := h.fork_loop hk
  induction m generalizing i with
  | zero => exact acceptsAt_of_leads hfork (leads_choose.mpr (.inr (hc ▸ ha)))
  | succ m ih =>
    obtain ⟨j, hr, hc⟩ := hc
    refine acceptsAt_of_leads hfork (leads_choose.mpr (.inl ?_))
    exact h.complete (holds_add (n := 0) (Nat.zero_le _) .accept).2 hbody hr (ih hc)

end Loop

theorem star (h : Implements text code R) (greedy : Bool) :
    Implements text (fun next p => (p.size, (loop code greedy next p).2))
      (fun i j => ∃ n, Copies R n i j) where
  emits _ _ hn := (emits_back h.emits greedy hn).2
  sound _ hk ha := h.sound_fork hk ha
  complete _ hk hr ha := hr.elim fun _ hc => h.complete_fork hk hc ha

theorem loop (h : Implements text code R) (greedy : Bool) :
    Implements text (fun next p => loop code greedy next p)
      (fun i j => ∃ n, Copies R (n + 1) i j) where
  emits := emits_loop h.emits greedy
  sound _ hk ha := by
    have hbody := (h.fork_loop hk).2
    obtain ⟨j, hr, ha⟩ := h.sound (holds_add (n := 0) (Nat.zero_le _) .accept).2 hbody ha
    obtain ⟨k, ⟨m, hc⟩, ha⟩ := h.sound_fork hk ha
    exact ⟨k, ⟨m, j, hr, hc⟩, ha⟩
  complete _ hk hr ha := by
    obtain ⟨m, j, hr, hc⟩ := hr
    exact h.complete (holds_add (n := 0) (Nat.zero_le _) .accept).2 (h.fork_loop hk).2 hr
      (h.complete_fork hk hc ha)

end Implements

/-- The code of a regular expression takes the text that it matches. -/
theorem implements_emit (text : Subject) (r : Regex) :
    Implements text (emit r) (r.Matches text) := by
  induction r with
  | empty => exact .nothing
  | set s =>
    refine .inst (fun h => ⟨nofun, stays_next h⟩) fun {next i goal} => ?_
    exact ⟨fun h => ⟨_, ⟨h.1, rfl⟩, h.2⟩, fun ⟨j, ⟨hc, hj⟩, ha⟩ => ⟨hc, hj ▸ ha⟩⟩
  | anchor a =>
    refine .inst (fun h => ⟨nofun, stays_next h⟩) fun {next i goal} => ?_
    exact ⟨fun h => ⟨_, ⟨h.1, rfl⟩, h.2⟩, fun ⟨j, ⟨hc, hj⟩, ha⟩ => ⟨hc, hj ▸ ha⟩⟩
  | group i r ih =>
    refine ((Implements.save (2 * i)).comp (ih.comp (.save (2 * i + 1)))).congr fun i j => ?_
    simp [Regex.Matches]
  | seq r s ihr ihs => exact ihr.comp ihs
  | alt r s ihr ihs => exact .either stays_fork Iff.rfl ihr ihs
  | rep lo hi greedy r ih =>
    cases hi with
    | some hi =>
      refine ((ih.copies lo).comp (ih.options greedy (hi - lo))).congr fun i j => ?_
      simp only [Regex.Matches, copies_add]
      grind
    | none =>
      refine .ite (fun h => ?_) fun h => ?_
      · rw [eq_of_beq h]
        refine .ite (fun _ => ?_) fun _ => ?_
        · refine ((ih.loop greedy).optional greedy).congr fun i j => ?_
          simp only [Regex.Matches, Nat.zero_add]
          exact exists_copies_iff.symm
        · exact (ih.star greedy).congr fun i j => by simp only [Regex.Matches, Nat.zero_add]
      · obtain ⟨n, rfl⟩ := Nat.exists_eq_succ_of_ne_zero fun h0 => h (beq_iff_eq.mpr h0)
        -- the last round that must be taken is the first one of the loop
        refine ((ih.copies n).comp (ih.loop greedy)).congr fun i j => ?_
        simp only [Regex.Matches, Nat.succ_add_eq_add_succ]
        constructor
        · rintro ⟨k, hc, m, hm⟩
          exact ⟨m, copies_add.mpr ⟨k, hc, hm⟩⟩
        · rintro ⟨m, hm⟩
          obtain ⟨k, hc, hm⟩ := copies_add.mp hm
          exact ⟨k, hc, m, hm⟩

end Program

def Program.Inside (p : Program) : Prop :=
  ∀ (k : Nat) (i : Inst), p[k]? = some i → ∀ j ∈ i.successors, j < p.size

def key (text : Subject) (k i : Nat) : Nat := k * (text.size + 1) + i

/-- A place was walked, or waits to be. -/
def Known (text : Subject) (trail : Trail) (threads : List Thread) (k i : Nat) : Prop :=
  i ≤ text.size ∧ key text k i ∈ trail.seen ∨ ∃ t ∈ threads, t.inst = k ∧ t.pos = i

/-- What was walked neither accepts nor leads to anything unknown, and there is a step left for
every place that was not walked. -/
structure Trail.Covers (p : Program) (text : Subject) (trail : Trail) (threads : List Thread) :
    Prop where
  seen_lt : ∀ n ∈ trail.seen, n < p.size * (text.size + 1)
  budget : trail.budget + trail.seen.size = p.size * (text.size + 1)
  waiting : ∀ t ∈ threads, t.inst < p.size ∧ t.pos ≤ text.size
  closed : ∀ k i inst, i ≤ text.size → key text k i ∈ trail.seen → p[k]? = some inst →
    ¬inst.Leads text (fun k i => ¬Known text trail threads k i) i

section Searching

variable {p : Program} {text : Subject} {trail trail' : Trail} {t : Thread}
  {threads rest more : List Thread} {k l i j n : Nat}

theorem key_lt (hk : k < n) (hi : i ≤ text.size) : key text k i < n * (text.size + 1) :=
  calc k * (text.size + 1) + i
    _ < k * (text.size + 1) + (text.size + 1) := by omega
    _ = (k + 1) * (text.size + 1) := (Nat.succ_mul _ _).symm
    _ ≤ n * (text.size + 1) := Nat.mul_le_mul_right _ hk

theorem key_inj (hi : i ≤ text.size) (hj : j ≤ text.size) (h : key text k i = key text l j) :
    k = l ∧ i = j := by
  have hlt {i : Nat} (hi : i ≤ text.size) : i < text.size + 1 := Nat.lt_succ_of_le hi
  unfold key at h
  constructor
  · have hd := congrArg (· / (text.size + 1)) h
    simpa [Nat.mul_comm _ (text.size + 1), Nat.mul_add_div, Nat.div_eq_of_lt (hlt hi),
      Nat.div_eq_of_lt (hlt hj)] using hd
  · have hm := congrArg (· % (text.size + 1)) h
    simpa [Nat.mul_comm _ (text.size + 1), Nat.mul_add_mod, Nat.mod_eq_of_lt (hlt hi),
      Nat.mod_eq_of_lt (hlt hj)] using hm

theorem Trail.Covers.budget_pos (h : trail.Covers p text (t :: rest))
    (hs : key text t.inst t.pos ∉ trail.seen) : 0 < trail.budget := by
  obtain ⟨hk, hi⟩ := h.waiting t List.mem_cons_self
  have hd : (key text t.inst t.pos :: trail.seen.toList).Nodup := by
    refine List.nodup_cons.mpr ⟨fun hm => hs (Std.HashSet.mem_toList.mp hm), ?_⟩
    exact Std.HashSet.distinct_toList.imp fun h => ne_of_beq_false h
  have hsub : key text t.inst t.pos :: trail.seen.toList ⊆
      List.range (p.size * (text.size + 1)) := by
    intro n hn
    rw [List.mem_range]
    rcases List.mem_cons.mp hn with rfl | hn
    · exact key_lt hk hi
    · exact h.seen_lt n (Std.HashSet.mem_toList.mp hn)
  have hle := (hd.subperm hsub).length_le
  rw [List.length_cons, Std.HashSet.length_toList, List.length_range, ← h.budget] at hle
  omega

theorem leads_of_follow {inst : Inst} {goal : Nat → Nat → Prop} (h : follow p text t = .inr more)
    (hk : p[t.inst]? = some inst) (hl : inst.Leads text goal t.pos) :
    ∃ t' ∈ more, goal t'.inst t'.pos := by
  unfold follow at h
  rw [hk] at h
  cases inst with
  | take set next =>
    obtain ⟨⟨c, hc, ha⟩, hg⟩ := hl
    simp only [hc, ha, if_true, Sum.inr.injEq] at h
    exact ⟨_, h ▸ List.mem_cons_self, hg⟩
  | check a next =>
    obtain ⟨ha, hg⟩ := hl
    simp only [ha, if_true, Sum.inr.injEq] at h
    exact ⟨_, h ▸ List.mem_cons_self, hg⟩
  | save slot next =>
    cases h
    exact ⟨_, List.mem_cons_self, hl⟩
  | fork first second =>
    cases h
    rcases hl with hl | hl
    · exact ⟨_, List.mem_cons_self, hl⟩
    · exact ⟨_, List.mem_cons_of_mem _ List.mem_cons_self, hl⟩
  | accept => cases h

theorem Step.pos_le {t' : Thread} (h : Step p text t t') (hp : t.pos ≤ text.size) :
    t'.pos ≤ text.size := by
  cases h with
  | take _ hc => exact (Array.getElem?_eq_some_iff.mp hc).1
  | _ => exact hp

theorem Known.of_skip (hs : key text t.inst t.pos ∈ trail.seen) (ht : t.pos ≤ text.size)
    (h : Known text trail (t :: rest) k i) : Known text trail rest k i := by
  rcases h with h | ⟨t', ht', rfl, rfl⟩
  · exact .inl h
  · rcases List.mem_cons.mp ht' with rfl | ht'
    · exact .inl ⟨ht, hs⟩
    · exact .inr ⟨t', ht', rfl, rfl⟩

theorem Known.of_walk {b : Nat} (ht : t.pos ≤ text.size)
    (h : Known text trail (t :: rest) k i) :
    Known text ⟨trail.seen.insert (key text t.inst t.pos), b⟩ (more ++ rest) k i := by
  rcases h with ⟨hi, hm⟩ | ⟨t', ht', rfl, rfl⟩
  · exact .inl ⟨hi, Std.HashSet.mem_insert.mpr (.inr hm)⟩
  · rcases List.mem_cons.mp ht' with rfl | ht'
    · exact .inl ⟨ht, Std.HashSet.mem_insert_self⟩
    · exact .inr ⟨t', List.mem_append_right _ ht', rfl, rfl⟩

namespace Trail.Covers

theorem skip (h : trail.Covers p text (t :: rest)) (hs : key text t.inst t.pos ∈ trail.seen) :
    trail.Covers p text rest where
  seen_lt := h.seen_lt
  budget := h.budget
  waiting t' ht' := h.waiting t' (List.mem_cons_of_mem _ ht')
  closed k i inst hi hm hk hl := h.closed k i inst hi hm hk
    (hl.mono fun _ _ hn hknown => hn (hknown.of_skip hs (h.waiting t List.mem_cons_self).2))

/-- A thread is walked: what follows it waits in its place. -/
theorem walk {b : Nat} (hp : p.Inside) (h : trail.Covers p text (t :: rest))
    (hs : key text t.inst t.pos ∉ trail.seen) (hb : trail.budget = b + 1)
    (hf : follow p text t = .inr more) :
    Trail.Covers p text ⟨trail.seen.insert (key text t.inst t.pos), b⟩ (more ++ rest) := by
  obtain ⟨hlt, hpos⟩ := h.waiting t List.mem_cons_self
  refine ⟨fun n hn => ?_, ?_, fun t' ht' => ?_, fun k i inst hi hm hk hl => ?_⟩
  · rcases Std.HashSet.mem_insert.mp hn with hn | hn
    · exact eq_of_beq hn ▸ key_lt hlt hpos
    · exact h.seen_lt n hn
  · have hbudget := h.budget
    rw [hb] at hbudget
    rw [Std.HashSet.size_insert, if_neg hs, ← hbudget]
    exact Nat.add_right_comm b _ 1
  · rcases List.mem_append.mp ht' with ht' | ht'
    · have hstep := step_of_follow hf ht'
      obtain ⟨inst, hk, hnext⟩ := hstep.exists_successor
      exact ⟨hp _ _ hk _ hnext, hstep.pos_le hpos⟩
    · exact h.waiting t' (List.mem_cons_of_mem _ ht')
  · rcases Std.HashSet.mem_insert.mp hm with hm | hm
    · obtain ⟨rfl, rfl⟩ := key_inj hpos hi (eq_of_beq hm)
      obtain ⟨t', ht', hn⟩ := leads_of_follow hf hk hl
      exact hn (.inr ⟨t', List.mem_append_left _ ht', rfl, rfl⟩)
    · exact h.closed k i inst hi hm hk (hl.mono fun _ _ hn hknown => hn (hknown.of_walk hpos))

theorem not_accepts (h : trail.Covers p text []) (hk : Known text trail [] k i) :
    ¬AcceptsAt p text k i := by
  rintro ⟨n, ha⟩
  induction n generalizing k i with
  | zero => exact ha
  | succ n ih =>
    obtain ⟨inst, hinst, hl⟩ := ha
    obtain ⟨hi, hm⟩ := hk.resolve_right (by rintro ⟨_, hm, -⟩; cases hm)
    exact h.closed k i inst hi hm hinst (hl.mono fun _ _ ha hknown => ih hknown ha)

theorem cons (h : trail.Covers p text []) (ht : t.inst < p.size ∧ t.pos ≤ text.size) :
    trail.Covers p text [t] where
  seen_lt := h.seen_lt
  budget := h.budget
  waiting := List.forall_mem_singleton.mpr ht
  closed k i inst hi hm hk hl := h.closed k i inst hi hm hk
    (hl.mono fun _ _ hn hknown => hn (.inl (hknown.resolve_right (by rintro ⟨_, hm, -⟩; cases hm))))

end Trail.Covers

/-- After a walk in vain everything that was known was walked. -/
theorem covers_of_walk (hp : p.Inside) (h : trail.Covers p text threads)
    (hw : walk p text trail threads = .exhausted trail') :
    trail'.Covers p text [] ∧ ∀ k i, Known text trail threads k i → Known text trail' [] k i := by
  fun_induction walk p text trail threads with
  | case1 =>
    cases hw
    exact ⟨h, fun _ _ => id⟩
  | case2 trail t rest _ hs ih =>
    have hs : key text t.inst t.pos ∈ trail.seen := hs
    obtain ⟨hc, hk⟩ := ih (h.skip hs) hw
    exact ⟨hc, fun k i hn => hk k i (hn.of_skip hs (h.waiting t List.mem_cons_self).2)⟩
  | case3 trail t rest _ hs hb =>
    have hpos := h.budget_pos hs
    omega
  | case4 => cases hw
  | case5 trail t rest _ hs b hb more hf ih =>
    obtain ⟨hc, hk⟩ := ih (h.walk hp hs hb hf) hw
    exact ⟨hc, fun k i hn => hk k i (hn.of_walk (h.waiting t List.mem_cons_self).2)⟩

/-- A search in vain leaves out no place from which the program accepts. -/
theorem not_accepts_of_searchFrom {start pos : Nat} {slots : Slots} (hp : p.Inside)
    (hs : start < p.size) (h : trail.Covers p text []) (hpos : pos ≤ text.size)
    (hn : searchFrom p start slots text trail pos = none) :
    ∀ i, pos ≤ i → i ≤ text.size → ¬AcceptsAt p text start i := by
  fun_induction searchFrom p start slots text trail pos with
  | case1 => cases hn
  | case2 trail pos trail' hw hlt ih =>
    obtain ⟨hc, hk⟩ := covers_of_walk hp (h.cons ⟨hs, hpos⟩) hw
    intro i hi hsize
    rcases Nat.eq_or_lt_of_le hi with rfl | hi
    · exact hc.not_accepts (hk _ _ (.inr ⟨_, List.mem_cons_self, rfl, rfl⟩))
    · exact ih hc hlt hn i hi hsize
  | case3 trail pos trail' hw hlt =>
    obtain ⟨hc, hk⟩ := covers_of_walk hp (h.cons ⟨hs, hpos⟩) hw
    intro i hi hsize
    obtain rfl : pos = i := by omega
    exact hc.not_accepts (hk _ _ (.inr ⟨_, List.mem_cons_self, rfl, rfl⟩))

theorem acceptsAt_of_step {t' : Thread} (h : Step p text t t')
    (ha : AcceptsAt p text t'.inst t'.pos) : AcceptsAt p text t.inst t.pos := by
  cases h with
  | take hk hc hs => exact acceptsAt_of_leads hk ⟨⟨_, hc, hs⟩, ha⟩
  | check hk hh => exact acceptsAt_of_leads hk ⟨hh, ha⟩
  | save hk => exact acceptsAt_of_leads hk ha
  | first hk => exact acceptsAt_of_leads hk (.inl ha)
  | second hk => exact acceptsAt_of_leads hk (.inr ha)

theorem Accepts.acceptsAt {found : Slots} (h : Accepts p text t found) :
    AcceptsAt p text t.inst t.pos := by
  obtain ⟨last, hrun, hlast, -⟩ := h
  induction hrun using Relation.ReflTransGen.head_induction_on with
  | refl => exact acceptsAt_of_leads hlast trivial
  | head hs _ ih => exact acceptsAt_of_step hs ih

end Searching

section Matches

variable {text : Subject} {r : Regex} {i : Nat}

theorem acceptsAt_ofRegex :
    AcceptsAt (Program.ofRegex r).2 text (Program.ofRegex r).1 i ↔ ∃ j, r.Matches text i j := by
  have hi := Program.implements_emit text (.group 0 r)
  have hn : 0 < (#[.accept] : Program).size := Nat.one_pos
  have hk : Program.Keeps #[.accept] (Program.ofRegex r).2 (Program.ofRegex r).2 := fun _ _ _ => rfl
  constructor
  · rintro ⟨n, ha⟩
    obtain ⟨j, hr, -⟩ := hi.sound hn hk ha
    exact ⟨j, hr⟩
  · rintro ⟨j, hr⟩
    have hl : Inst.Leads text (AcceptsAt (Program.ofRegex r).2 text) j .accept := trivial
    exact hi.complete hn hk hr (acceptsAt_of_leads ((hi.holds hn).2.below 0 hn) hl)

theorem inside_ofRegex (r : Regex) : (Program.ofRegex r).2.Inside := by
  have hn : Program.Holds 0 0 #[.accept] := ⟨Nat.le_refl _, Nat.one_pos⟩
  have ha := (Program.emits_emit (.group 0 r) 0 #[.accept] hn).2
  intro k i hk j hj
  rcases Nat.eq_zero_or_pos k with rfl | hpos
  · cases (ha.below 0 hn.2).symm.trans hk
    cases hj
  · exact ((ha.above k i hpos hk).2 j hj).2

end Matches

/-- A text is found to have a match exactly if it has one. -/
theorem isMatch_iff {source : String} {pattern : Pattern} {parsed : Parsed} {text : Subject}
    (hc : compile? source = some pattern) (hp : parse? source.toList = some parsed) :
    pattern.isMatch text = true ↔ ∃ i ≤ text.size, ∃ j, parsed.regex.Matches text i j := by
  obtain ⟨_, hp', rfl⟩ := Option.map_eq_some_iff.mp hc
  cases hp.symm.trans hp'
  rw [isMatch, find?]
  constructor
  · intro h
    obtain ⟨m, hm⟩ := Option.isSome_iff_exists.mp h
    obtain ⟨first, hle, ha⟩ := accepts_of_findFrom hm
    exact ⟨first, hle (Nat.zero_le _), acceptsAt_ofRegex.mp ha.acceptsAt⟩
  · rintro ⟨i, hi, hm⟩
    by_contra hnone
    have hn := Option.map_eq_none_iff.mp (Option.not_isSome_iff_eq_none.mp hnone)
    have hc : Trail.Covers (Program.ofRegex parsed.regex).2 text ⟨∅, _⟩ [] :=
      { seen_lt := fun n hn => absurd hn Std.HashSet.not_mem_empty
        budget := by rw [Std.HashSet.size_empty]; rfl
        waiting := List.forall_mem_nil _
        closed := fun _ _ _ _ hn => absurd hn Std.HashSet.not_mem_empty }
    refine not_accepts_of_searchFrom (inside_ofRegex _) ?_ hc (Nat.zero_le _) hn i (Nat.zero_le _)
      hi (acceptsAt_ofRegex.mpr hm)
    exact ((Program.implements_emit text (.group 0 parsed.regex)).holds Nat.one_pos).1

end Catalog.Pattern
