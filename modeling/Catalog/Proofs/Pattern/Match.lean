import Mathlib.Logic.Relation
import Catalog.Pattern.Match

/-! # Matches and runs

A match is the record of a run of the program. Code is added to a program without a change to what
stands there, and the code of a pattern is entered at a note of where the match begins and left at
one of where it ends. So the whole match is there in every match, and no group beyond those of the
pattern.
-/

namespace Catalog.Pattern

section Runs

variable {p : Program} {text : Subject} {t t' : Thread} {slots found : Slots}

inductive Step (p : Program) (text : Subject) : Thread → Thread → Prop where
  | take {inst pos next : Nat} {slots : Slots} {set : Array Text.Range} {c : Char} :
      p[inst]? = some (.take set next) → text[pos]? = some c → Inst.accepts set c = true →
      Step p text ⟨inst, pos, slots⟩ ⟨next, pos + 1, slots⟩
  | check {inst pos next : Nat} {slots : Slots} {a : Anchor} :
      p[inst]? = some (.check a next) → a.holds text pos = true →
      Step p text ⟨inst, pos, slots⟩ ⟨next, pos, slots⟩
  | save {inst pos slot next : Nat} {slots : Slots} :
      p[inst]? = some (.save slot next) →
      Step p text ⟨inst, pos, slots⟩ ⟨next, pos, slots.setIfInBounds slot (some pos)⟩
  | first {inst pos first second : Nat} {slots : Slots} :
      p[inst]? = some (.fork first second) →
      Step p text ⟨inst, pos, slots⟩ ⟨first, pos, slots⟩
  | second {inst pos first second : Nat} {slots : Slots} :
      p[inst]? = some (.fork first second) →
      Step p text ⟨inst, pos, slots⟩ ⟨second, pos, slots⟩

theorem step_of_follow {more : List Thread} (h : follow p text t = .inr more) (ht : t' ∈ more) :
    Step p text t t' := by
  obtain ⟨inst, pos, slots⟩ := t
  unfold follow at h
  split at h
  · cases h
    cases ht
  · cases h
  · next hi =>
    split at h
    · next c hc =>
      cases h
      split at ht
      · next ha =>
        cases List.mem_singleton.mp ht
        exact .take hi hc ha
      · cases ht
    · cases h
      cases ht
  · next hi =>
    cases h
    split at ht
    · next ha =>
      cases List.mem_singleton.mp ht
      exact .check hi ha
    · cases ht
  · next hi =>
    cases h
    cases List.mem_singleton.mp ht
    exact .save hi
  · next hi =>
    cases h
    rcases List.mem_cons.mp ht with rfl | ht
    · exact .first hi
    · cases List.mem_singleton.mp ht
      exact .second hi

theorem accept_of_follow (h : follow p text t = .inl slots) :
    p[t.inst]? = some .accept ∧ t.slots = slots := by
  unfold follow at h
  split at h
  · cases h
  · next hi =>
    cases h
    exact ⟨hi, rfl⟩
  · split at h <;> cases h
  · cases h
  · cases h
  · cases h

/-- A run that starts with the thread `t` accepts with the slots `found`. -/
def Accepts (p : Program) (text : Subject) (t : Thread) (found : Slots) : Prop :=
  ∃ t', Relation.ReflTransGen (Step p text) t t' ∧ p[t'.inst]? = some .accept ∧ t'.slots = found

theorem accepts_of_walk {trail : Trail} {threads : List Thread}
    (h : walk p text trail threads = .found found) : ∃ t ∈ threads, Accepts p text t found := by
  fun_induction walk p text trail threads with
  | case1 => cases h
  | case2 _ t rest _ _ ih =>
    obtain ⟨t', ht', ha⟩ := ih h
    exact ⟨t', List.mem_cons_of_mem _ ht', ha⟩
  | case3 => cases h
  | case4 _ t rest _ _ _ _ _ hf =>
    cases h
    obtain ⟨hi, hs⟩ := accept_of_follow hf
    exact ⟨t, List.mem_cons_self, t, .refl, hi, hs⟩
  | case5 _ t rest _ _ _ _ more hf ih =>
    obtain ⟨t', ht', last, hrun, ha⟩ := ih h
    rcases List.mem_append.mp ht' with ht' | ht'
    · exact ⟨t, List.mem_cons_self, last, .head (step_of_follow hf ht') hrun, ha⟩
    · exact ⟨t', List.mem_cons_of_mem _ ht', last, hrun, ha⟩

theorem accepts_of_searchFrom {trail : Trail} {start pos : Nat}
    (h : searchFrom p start slots text trail pos = some found) :
    ∃ first, (pos ≤ text.size → first ≤ text.size) ∧
      Accepts p text ⟨start, first, slots⟩ found := by
  fun_induction searchFrom p start slots text trail pos with
  | case1 _ pos _ hw =>
    cases h
    obtain ⟨t, ht, ha⟩ := accepts_of_walk hw
    cases List.mem_singleton.mp ht
    exact ⟨pos, id, ha⟩
  | case2 _ _ _ _ hlt ih =>
    obtain ⟨first, hle, ha⟩ := ih h
    exact ⟨first, fun _ => hle hlt, ha⟩
  | case3 => cases h

theorem Step.size_slots (h : Step p text t t') : t'.slots.size = t.slots.size := by
  cases h with
  | save => exact Array.size_setIfInBounds
  | _ => rfl

theorem Accepts.size_slots (h : Accepts p text t found) : found.size = t.slots.size := by
  obtain ⟨last, hrun, -, rfl⟩ := h
  induction hrun with
  | refl => rfl
  | tail _ hs ih => exact hs.size_slots.trans ih

end Runs

def Inst.successors : Inst → List Nat
  | .take _ next => [next]
  | .check _ next => [next]
  | .save _ next => [next]
  | .fork first second => [first, second]
  | .accept => []

/-- An instruction that goes on, to nothing below `n` and nothing from `m` on. -/
def Inst.Stays (n m : Nat) (i : Inst) : Prop := i ≠ .accept ∧ ∀ j ∈ i.successors, n ≤ j ∧ j < m

theorem Inst.Stays.mono {n m m' : Nat} {i : Inst} (h : i.Stays n m) (hm : m ≤ m') :
    i.Stays n m' :=
  ⟨h.1, fun j hj => ⟨(h.2 j hj).1, Nat.lt_of_lt_of_le (h.2 j hj).2 hm⟩⟩

namespace Program

variable {n : Nat} {p q r : Program} {i : Inst}

theorem size_add (p : Program) (i : Inst) : (p.add i).2.size = p.size + 1 := Array.size_push i

theorem le_size_add (h : n ≤ p.size) : n ≤ (p.add i).2.size := by
  rw [size_add]
  omega

/-- Code was added to `p` that stays above `n`; what stood there is the same. -/
structure Adds (n : Nat) (p q : Program) : Prop where
  size_le : p.size ≤ q.size
  below : ∀ k < p.size, q[k]? = p[k]?
  above : ∀ k i, p.size ≤ k → q[k]? = some i → i.Stays n q.size

namespace Adds

theorem lt_size (h : Adds n p q) {next : Nat} (hn : next < p.size) : next < q.size :=
  Nat.lt_of_lt_of_le hn h.size_le

theorem refl : Adds n p p where
  size_le := Nat.le_refl _
  below _ _ := rfl
  above k i hk hi := by
    rw [Array.getElem?_eq_none hk] at hi
    cases hi

theorem trans (h : Adds n p q) (h' : Adds n q r) : Adds n p r where
  size_le := Nat.le_trans h.size_le h'.size_le
  below k hk := (h'.below k (Nat.lt_of_lt_of_le hk h.size_le)).trans (h.below k hk)
  above k i hk hi := by
    rcases Nat.lt_or_ge k q.size with hq | hq
    · exact (h.above k i hk (h'.below k hq ▸ hi)).mono h'.size_le
    · exact h'.above k i hq hi

theorem add (h : i.Stays n p.size) : Adds n p (p.add i).2 where
  size_le := le_size_add (Nat.le_refl _)
  below k hk := by simp [Program.add, Array.getElem?_push, Nat.ne_of_lt hk]
  above k j hk hj := by
    rw [Program.add, Array.getElem?_push] at hj
    split at hj
    · cases hj
      exact h.mono (le_size_add (Nat.le_refl _))
    · rw [Array.getElem?_eq_none hk] at hj
      cases hj

theorem fill (h : Adds n (p.add .accept).2 q) (hi : i.Stays n q.size) :
    Adds n p (q.setIfInBounds p.size i) where
  size_le := by
    rw [Array.size_setIfInBounds]
    exact Nat.le_trans (le_size_add (Nat.le_refl _)) h.size_le
  below k hk := by
    have hlt : k < (p.add .accept).2.size := le_size_add hk
    rw [Array.getElem?_setIfInBounds_ne (Nat.ne_of_gt hk), h.below k hlt]
    simp [Program.add, Array.getElem?_push, Nat.ne_of_lt hk]
  above k j hk hj := by
    rw [Array.size_setIfInBounds]
    rcases Nat.eq_or_lt_of_le hk with rfl | hk
    · rw [Array.getElem?_setIfInBounds_self] at hj
      split at hj
      · cases hj
        exact hi
      · cases hj
    · rw [Array.getElem?_setIfInBounds_ne (Nat.ne_of_lt hk)] at hj
      exact h.above k j (by rw [size_add]; omega) hj

end Adds

abbrev Holds (n next : Nat) (p : Program) : Prop := n ≤ next ∧ next < p.size

def Emits (n : Nat) (code : Nat → Program → Nat × Program) : Prop :=
  ∀ next p, Holds n next p → Holds n (code next p).1 (code next p).2 ∧ Adds n p (code next p).2

theorem stays_next {next m : Nat} (h : n ≤ next ∧ next < m) :
    ∀ j ∈ [next], n ≤ j ∧ j < m := List.forall_mem_singleton.mpr h

theorem stays_fork {first second m : Nat} (hf : n ≤ first ∧ first < m)
    (hs : n ≤ second ∧ second < m) : (Inst.fork first second).Stays n m :=
  ⟨nofun, List.forall_mem_cons.mpr ⟨hf, stays_next hs⟩⟩

theorem stays_choose {greedy : Bool} {body exit m : Nat} (hb : n ≤ body ∧ body < m)
    (he : n ≤ exit ∧ exit < m) : (choose greedy body exit).Stays n m := by
  cases greedy
  · exact stays_fork he hb
  · exact stays_fork hb he

theorem holds_add (h : n ≤ p.size) (i : Inst) : Holds n (p.add i).1 (p.add i).2 :=
  ⟨h, by rw [size_add]; exact Nat.lt_succ_self _⟩

theorem Adds.holds (h : Adds n p q) {next : Nat} (hn : Holds n next p) : Holds n next q :=
  ⟨hn.1, h.lt_size hn.2⟩

theorem Holds.le_size {next : Nat} (h : Holds n next p) : n ≤ p.size :=
  Nat.le_trans h.1 (Nat.le_of_lt h.2)

variable {code : Nat → Program → Nat × Program}

theorem Adds.then_add {entry : Nat} (h : Adds n p q) (he : Holds n entry q)
    (hi : i.Stays n q.size) :
    Holds n (q.add i).1 (q.add i).2 ∧ Adds n p (q.add i).2 :=
  ⟨holds_add he.le_size i, h.trans (.add hi)⟩

theorem emits_copies (h : Emits n code) (count : Nat) : Emits n (copies code count) := by
  intro next p hn
  induction count with
  | zero => exact ⟨hn, .refl⟩
  | succ count ih =>
    have hc := h _ _ ih.1
    exact ⟨hc.1, ih.2.trans hc.2⟩

theorem emits_options (h : Emits n code) (greedy : Bool) (count : Nat) :
    Emits n (fun next p => options code greedy next count p) := by
  intro next p hn
  induction count with
  | zero => exact ⟨hn, .refl⟩
  | succ count ih =>
    have hb := h _ _ ih.1
    have hq := ih.2.trans hb.2
    exact hq.then_add hb.1 (stays_choose hb.1 (hq.holds hn))

theorem emits_back (h : Emits n code) (greedy : Bool) {next : Nat} (hn : Holds n next p) :
    let body := code p.size (p.add .accept).2
    let q := body.2.setIfInBounds p.size (choose greedy body.1 next)
    Holds n body.1 q ∧ Holds n p.size q ∧ Adds n p q := by
  intro body q
  have hb : Holds n body.1 body.2 ∧ Adds n _ body.2 := h _ _ (holds_add hn.le_size _)
  have hnext : Holds n next body.2 := hb.2.holds ⟨hn.1, le_size_add hn.2⟩
  have hback : p.size < body.2.size := hb.2.lt_size (holds_add hn.le_size .accept).2
  have hsize : q.size = body.2.size := Array.size_setIfInBounds
  exact ⟨⟨hb.1.1, hsize ▸ hb.1.2⟩, ⟨hn.le_size, hsize ▸ hback⟩,
    hb.2.fill (stays_choose hb.1 hnext)⟩

theorem emits_loop (h : Emits n code) (greedy : Bool) :
    Emits n (fun next p => loop code greedy next p) := by
  intro next p hn
  have hb := emits_back h greedy hn
  exact ⟨hb.1, hb.2.2⟩

theorem emits_emit (r : Regex) : Emits n (emit r) := by
  induction r with
  | empty => exact fun next p hn => ⟨hn, .refl⟩
  | set s => exact fun next p hn => Adds.refl.then_add hn ⟨nofun, stays_next hn⟩
  | anchor a => exact fun next p hn => Adds.refl.then_add hn ⟨nofun, stays_next hn⟩
  | group i r ih =>
    intro next p hn
    have hs : Holds n _ _ ∧ Adds n p (p.add (.save (2 * i + 1) next)).2 :=
      Adds.refl.then_add hn ⟨nofun, stays_next hn⟩
    have hb := ih _ _ hs.1
    exact (hs.2.trans hb.2).then_add hb.1 ⟨nofun, stays_next hb.1⟩
  | seq r s ihr ihs =>
    intro next p hn
    have hs := ihs next p hn
    have hr := ihr _ _ hs.1
    exact ⟨hr.1, hs.2.trans hr.2⟩
  | alt r s ihr ihs =>
    intro next p hn
    have hr := ihr next p hn
    have hs := ihs next _ (hr.2.holds hn)
    exact (hr.2.trans hs.2).then_add hs.1 (stays_fork (hs.2.holds hr.1) hs.1)
  | rep lo hi greedy r ih =>
    cases hi with
    | some hi =>
      intro next p hn
      have ho := emits_options ih greedy (hi - lo) next p hn
      have hc := emits_copies ih lo _ _ ho.1
      exact ⟨hc.1, ho.2.trans hc.2⟩
    | none =>
      intro next p hn
      have hl := emits_loop ih greedy next p hn
      unfold emit
      split
      · split
        · exact hl.2.then_add hl.1 (stays_choose hl.1 (hl.2.holds hn))
        · exact (emits_back ih greedy hn).2
      · have hc := emits_copies ih (lo - 1) _ _ hl.1
        exact ⟨hc.1, hl.2.trans hc.2⟩

/-- A program that notes the beginning of a match where it starts, and the end of it before it
accepts. -/
structure Framed (start : Nat) (p : Program) : Prop where
  one_lt_start : 1 < start
  enter : ∃ body, p[start]? = some (.save 0 body)
  leave : p[1]? = some (.save 1 0)
  stays : ∀ k i, 1 < k → p[k]? = some i → i.Stays 1 p.size

theorem framed_ofRegex (r : Regex) : Framed (ofRegex r).1 (ofRegex r).2 := by
  have hb := @emits_emit 1 r 1 #[.accept, .save 1 0] ⟨by decide, by decide⟩
  have hq := hb.2.trans (.add (i := .save 0 _) ⟨nofun, stays_next hb.1⟩)
  exact
    { one_lt_start := hb.2.size_le
      enter := ⟨_, Array.getElem?_push_size⟩
      leave := hq.below 1 (by decide)
      stays := fun k i hk hi => hq.above k i hk hi }

end Program

section Framed

variable {p : Program} {text : Subject} {t t' : Thread} {start slot : Nat} {slots found : Slots}

def Slots.Noted (slots : Slots) (slot : Nat) : Prop := ∃ pos, slots[slot]? = some (some pos)

theorem Step.noted (h : Step p text t t') (hn : t.slots.Noted slot) : t'.slots.Noted slot := by
  cases h with
  | @save inst pos slot' next slots hi =>
    obtain ⟨k, hk⟩ := hn
    by_cases hs : slot' = slot
    · subst hs
      exact ⟨pos, by
        rw [Array.getElem?_setIfInBounds_self, if_pos (Array.getElem?_eq_some_iff.mp hk).1]⟩
    · exact ⟨k, (Array.getElem?_setIfInBounds_ne hs).trans hk⟩
  | _ => exact hn

theorem Step.noted_of_save (h : Step p text t t') {next : Nat}
    (hi : p[t.inst]? = some (.save slot next)) (hs : slot < t.slots.size) :
    t'.slots.Noted slot := by
  cases h with
  | @save _ pos _ _ _ hi' =>
    cases hi.symm.trans hi'
    exact ⟨pos, by rw [Array.getElem?_setIfInBounds_self, if_pos hs]⟩
  | take hi' => cases hi.symm.trans hi'
  | check hi' => cases hi.symm.trans hi'
  | first hi' => cases hi.symm.trans hi'
  | second hi' => cases hi.symm.trans hi'

theorem Step.exists_successor (h : Step p text t t') :
    ∃ i, p[t.inst]? = some i ∧ t'.inst ∈ i.successors := by
  cases h with
  | take hi => exact ⟨_, hi, List.mem_singleton_self _⟩
  | check hi => exact ⟨_, hi, List.mem_singleton_self _⟩
  | save hi => exact ⟨_, hi, List.mem_singleton_self _⟩
  | first hi => exact ⟨_, hi, List.mem_cons_self⟩
  | second hi => exact ⟨_, hi, List.mem_cons_of_mem _ (List.mem_singleton_self _)⟩

structure Framing (start : Nat) (t : Thread) : Prop where
  two_le : 2 ≤ t.slots.size
  first : t.inst ≠ start → t.slots.Noted 0
  last : t.inst = 0 → t.slots.Noted 1

theorem Step.framing (hp : Program.Framed start p) (h : Step p text t t') (hf : Framing start t) :
    Framing start t' := by
  obtain ⟨i, hi, hnext⟩ := h.exists_successor
  -- nothing but the instruction at 1 leads to 0
  have hstays (hk : 1 < t.inst) : t'.inst ≠ 0 :=
    Nat.ne_of_gt ((hp.stays t.inst i hk hi).2 _ hnext).1
  refine ⟨h.size_slots ▸ hf.two_le, fun _ => ?_, fun hlast => ?_⟩
  · by_cases hstart : t.inst = start
    · obtain ⟨body, hbody⟩ := hp.enter
      exact h.noted_of_save (hstart ▸ hbody) (Nat.lt_of_lt_of_le (by decide) hf.two_le)
    · exact h.noted (hf.first hstart)
  · rcases Nat.lt_trichotomy t.inst 1 with hk | hk | hk
    · exact h.noted (hf.last (Nat.lt_one_iff.mp hk))
    · exact h.noted_of_save (hk.symm ▸ hp.leave : p[t.inst]? = some (.save 1 0)) hf.two_le
    · exact absurd hlast (hstays hk)

/-- The whole match is noted when a program in its frame accepts. -/
theorem Accepts.noted (hp : Program.Framed start p) {first : Nat} (hs : 2 ≤ slots.size)
    (h : Accepts p text ⟨start, first, slots⟩ found) : found.Noted 0 ∧ found.Noted 1 := by
  obtain ⟨t, hrun, hi, rfl⟩ := h
  have hf : Framing start t := by
    clear hi
    induction hrun with
    | refl =>
      have hlt := hp.one_lt_start
      exact ⟨hs, fun h => absurd rfl h, fun (h : start = 0) => by omega⟩
    | tail _ hstep ih => exact hstep.framing hp ih
  -- only the instruction at 0 accepts
  have hzero : t.inst = 0 := by
    rcases Nat.lt_trichotomy t.inst 1 with hk | hk | hk
    · exact Nat.lt_one_iff.mp hk
    · rw [hk, hp.leave] at hi
      cases hi
    · exact absurd rfl (hp.stays t.inst _ hk hi).1
  have hlt := hp.one_lt_start
  exact ⟨hf.first (by omega), hf.last hzero⟩

end Framed

variable {pattern : Pattern} {subject : Subject} {m : Match} {pos : Nat}

theorem accepts_of_findFrom (h : pattern.findFrom subject pos = some m) :
    ∃ first, (pos ≤ subject.size → first ≤ subject.size) ∧ Accepts pattern.program subject
      ⟨pattern.start, first, Array.replicate (2 * (pattern.captures + 1)) none⟩ m.slots := by
  obtain ⟨slots, hs, rfl⟩ := Option.map_eq_some_iff.mp h
  exact accepts_of_searchFrom hs

theorem framed_of_compile? {source : String} (h : compile? source = some pattern) :
    Program.Framed pattern.start pattern.program := by
  obtain ⟨r, -, rfl⟩ := Option.map_eq_some_iff.mp h
  exact Program.framed_ofRegex r.regex

theorem exists_group_zero {source : String} (hc : compile? source = some pattern)
    (h : pattern.findFrom subject pos = some m) : ∃ bounds, m.group? 0 = some bounds := by
  obtain ⟨_, -, ha⟩ := accepts_of_findFrom h
  obtain ⟨⟨first, hfirst⟩, ⟨last, hlast⟩⟩ := ha.noted (framed_of_compile? hc)
    (by rw [Array.size_replicate]; omega)
  exact ⟨(first, last), by simp [Match.group?, hfirst, hlast]⟩

theorem group?_eq_none {k : Nat} (h : pattern.findFrom subject pos = some m)
    (hk : pattern.captures < k) : m.group? k = none := by
  obtain ⟨_, -, ha⟩ := accepts_of_findFrom h
  have hsize : m.slots.size ≤ 2 * k := by
    rw [ha.size_slots, Array.size_replicate]
    omega
  simp [Match.group?, Array.getElem?_eq_none hsize]

theorem findFrom_of_findNext {previous : Option Nat}
    (h : pattern.findNext subject pos previous = some m) :
    ∃ k, pattern.findFrom subject k = some m := by
  unfold findNext at h
  split at h
  · cases h
  · next hm =>
    split at h
    · split at h
      · exact ⟨_, h⟩
      · cases h
    · cases h
      exact ⟨_, hm⟩

theorem findFrom_of_mem_matchesFrom {fuel : Nat} {previous : Option Nat}
    (h : m ∈ pattern.matchesFrom subject fuel pos previous) :
    ∃ k, pattern.findFrom subject k = some m := by
  induction fuel generalizing pos previous with
  | zero => cases h
  | succ fuel ih =>
    rw [matchesFrom] at h
    split at h
    · cases h
    · next hm =>
      rcases List.mem_cons.mp h with rfl | h
      · exact findFrom_of_findNext hm
      · exact ih h

theorem findFrom_of_mem_findAll (h : m ∈ pattern.findAll subject) :
    ∃ k, pattern.findFrom subject k = some m := findFrom_of_mem_matchesFrom h

theorem head?_findAll : (pattern.findAll subject).head? = pattern.find? subject := by
  have hnext : pattern.findNext subject 0 none = pattern.find? subject := by
    unfold findNext find?
    split
    · next h => exact h.symm
    · next m h => simp [h]
  rw [findAll, matchesFrom, hnext]
  cases pattern.find? subject <;> rfl

end Catalog.Pattern
