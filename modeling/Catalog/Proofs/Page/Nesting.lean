import Mathlib
import Catalog.Page.Query
import Catalog.Proofs.Json.Size
import Catalog.Proofs.Page.Joining
import Catalog.Proofs.Rule.Fragment
import Catalog.Proofs.Rule.Joining

/-! # Rules inside rules

The rule of an assignment is read from a JSON string inside another rule and may hold assignments in
turn, also such as only show once the escapes of the string are resolved. It is always shorter than
the rule around it, so reading ends: as many rules inside one another as the longest one has bytes
are enough for everything that is read.
-/

namespace Catalog

open String (utf8Len)

namespace Rule

theorem mem_of_assignments {rule key value : String} {members : List (String × Json.Value)}
    {puts : List (String × String)} (h : assignments rule members = .ok puts)
    (hm : (key, value) ∈ puts) : (key, .string value) ∈ members := by
  induction members generalizing puts with
  | nil =>
    cases h
    cases hm
  | cons m members ih =>
    unfold assignments at h
    split at h
    · next he =>
      cases he
    · next he =>
      cases he
      obtain ⟨more, hs, he⟩ := Error.ok_of_bind_ok h
      cases he
      rcases List.mem_cons.mp hm with he | hm
      · cases he
        exact List.mem_cons_self
      · exact List.mem_cons_of_mem _ (ih hs hm)
    · cases h

theorem size_of_readPuts {rule : String} {objects : List (List Char)}
    {puts : List (String × String)} (h : readPuts rule objects = .ok puts) {a : String × String}
    (ha : a ∈ puts) : ∃ object ∈ objects, a.2.utf8ByteSize ≤ utf8Len object := by
  induction objects generalizing puts with
  | nil =>
    cases h
    cases ha
  | cons object objects ih =>
    rw [readPuts] at h
    split at h
    · next members hp =>
      obtain ⟨first, hf, h⟩ := Error.ok_of_bind_ok h
      obtain ⟨more, hm, he⟩ := Error.ok_of_bind_ok h
      cases he
      rcases List.mem_append.mp ha with ha | ha
      · exact ⟨object, List.mem_cons_self, Json.Value.size_of_parse? hp (mem_of_assignments hf ha)⟩
      · obtain ⟨o, ho, hs⟩ := ih hm ha
        exact ⟨o, List.mem_cons_of_mem _ ho, hs⟩
    · cases h

theorem size_of_takePuts {n : Nat} {s object : List Char} (h : object ∈ (takePuts n s).1) :
    utf8Len object < utf8Len s := by
  induction n generalizing s with
  | zero => cases h
  | succ n ih =>
    cases s with
    | nil => cases h
    | cons c r =>
      rw [takePuts] at h
      split at h
      · next first t hp =>
        obtain ⟨-, -, -, -, hs⟩ := putObject?_eq_some hp
        have hl : utf8Len (c :: r) = 5 + utf8Len first + utf8Len t := by
          rw [hs, String.utf8Len_append, String.utf8Len_append]
          rfl
        rcases List.mem_cons.mp h with rfl | h
        · omega
        · have := ih h
          omega
      · exact Nat.lt_of_lt_of_le (ih h) (Nat.le_add_right _ _)

theorem size_of_split {s : List Char} {piece : Piece} (h : piece ∈ split s) :
    utf8Len piece.2 ≤ utf8Len s := by
  have hj : join (split s) = s := (split_eq_iff.mp rfl).2
  have hi : piece.2 <:+: join (split s) := by
    obtain ⟨before, behind, hs⟩ := List.append_of_mem h
    exact ⟨join before ++ piece.1.spell, join behind, by simp [join, hs]⟩
  rw [hj] at hi
  exact String.utf8Len_le_of_infix hi

theorem puts_size_of_readFragment {link : Link} {raw : List Char} {f : Fragment}
    (h : readFragment link raw = .ok (some f)) {a : String × String} (ha : a ∈ f.puts) :
    a.2.utf8ByteSize < utf8Len raw := by
  unfold readFragment at h
  obtain ⟨puts, hp, h⟩ := Error.ok_of_bind_ok h
  have hf : f.puts = puts := by
    dsimp only at h
    split at h
    all_goals
      obtain ⟨read, -, h⟩ := Error.ok_of_bind_ok h
      split at h <;> cases h
      rfl
  obtain ⟨object, ho, hs⟩ := size_of_readPuts hp (hf ▸ ha)
  exact Nat.lt_of_le_of_lt hs (size_of_takePuts ho)

theorem mem_of_readPieces {started : Bool} {ps : List Piece} {fs : List Fragment} {f : Fragment}
    (h : readPieces started ps = .ok fs) (hf : f ∈ fs) :
    ∃ p ∈ ps, ∃ link, readFragment link p.2 = .ok (some f) := by
  induction ps generalizing started fs with
  | nil =>
    cases h
    cases hf
  | cons p ps ih =>
    obtain ⟨g, more, hr, hm, rfl⟩ | ⟨-, hm⟩ := readPieces_cons h
    · rcases List.mem_cons.mp hf with rfl | hf
      · exact ⟨p, List.mem_cons_self, _, hr⟩
      · obtain ⟨q, hq, hl⟩ := ih hm hf
        exact ⟨q, List.mem_cons_of_mem _ hq, hl⟩
    · obtain ⟨q, hq, hl⟩ := ih hm hf
      exact ⟨q, List.mem_cons_of_mem _ hq, hl⟩

/-- The rule of an assignment is shorter than the rule around it. -/
theorem puts_size_of_resolve {rule : String} {c : Chain} (h : resolve rule = .ok c) {f : Fragment}
    (hf : f ∈ c.fragments) {a : String × String} (ha : a ∈ f.puts) :
    a.2.utf8ByteSize < rule.utf8ByteSize := by
  obtain ⟨fs, hr, he⟩ := Error.ok_of_bind_ok h
  cases he
  have hg : ∃ g ∈ fs, f.puts = g.puts := by
    cases fs with
    | nil => cases hf
    | cons first rest =>
      rcases List.mem_cons.mp hf with rfl | hf
      · exact ⟨first, List.mem_cons_self, rfl⟩
      · exact ⟨f, List.mem_cons_of_mem _ hf, rfl⟩
  obtain ⟨g, hg, hp⟩ := hg
  obtain ⟨p, hm, link, hl⟩ := mem_of_readPieces hr hg
  calc a.2.utf8ByteSize
    _ < utf8Len p.2 := puts_size_of_readFragment hl (hp ▸ ha)
    _ ≤ utf8Len rule.toList := size_of_split hm
    _ = rule.utf8ByteSize := by rw [← String.utf8ByteSize_ofList, String.ofList_toList]

/-- A rule is the text that an assignment in another rule reads. -/
def Assigned (inner outer : String) : Prop :=
  ∃ c, resolve outer = .ok c ∧ ∃ f ∈ c.fragments, ∃ key, (key, inner) ∈ f.puts

theorem assigned_wellFounded : WellFounded Assigned :=
  Subrelation.wf (fun ⟨_, hc, _, hf, _, ha⟩ => puts_size_of_resolve hc hf ha)
    (measure String.utf8ByteSize).wf

end Rule

theorem Reading.store_congr {read read' : String → Reading String} {puts : List (String × String)}
    (h : ∀ a ∈ puts, read a.2 = read' a.2) : store read puts = store read' puts := by
  induction puts with
  | nil => rfl
  | cons a puts ih =>
    obtain ⟨ha, hs⟩ := List.forall_mem_cons.mp h
    simp only [store, ha, ih hs]

namespace Chain

section

variable {m : Type → Type} [Monad m] {α : Type} {alternatives : List (List Fragment)} {c : Chain}

theorem readAlternative_congr {read read' : Fragment → m (List α)} {alternative : List Fragment}
    (h : ∀ f ∈ alternative, read f = read' f) :
    readAlternative read alternative = readAlternative read' alternative := by
  induction alternative with
  | nil => rfl
  | cons f rest ih =>
    obtain ⟨hf, hs⟩ := List.forall_mem_cons.mp h
    simp only [readAlternative, hf, ih hs]

theorem firstNonempty_congr {read read' : Fragment → m (List α)}
    (h : ∀ alternative ∈ alternatives, ∀ f ∈ alternative, read f = read' f) :
    firstNonempty read alternatives = firstNonempty read' alternatives := by
  induction alternatives with
  | nil => rfl
  | cons alternative rest ih =>
    obtain ⟨ha, hs⟩ := List.forall_mem_cons.mp h
    simp only [firstNonempty, readAlternative_congr ha, ih hs]

theorem firstNonempty_fragments_congr {read read' : Fragment → m (List α)}
    (h : ∀ f ∈ c.fragments, read f = read' f) :
    firstNonempty read c.alternatives = firstNonempty read' c.alternatives :=
  firstNonempty_congr fun _ ha f hf => h f (mem_of_mem_alternatives ha hf)

theorem evaluate_congr {read read' : Fragment → m String}
    (h : ∀ f ∈ c.fragments, read f = read' f) : c.evaluate read = c.evaluate read' := by
  unfold evaluate
  rw [firstNonempty_fragments_congr fun f hf => by rw [h f hf]]

theorem evaluateList_congr {read read' : Fragment → m (List String)}
    (h : ∀ f ∈ c.fragments, read f = read' f) : c.evaluateList read = c.evaluateList read' :=
  firstNonempty_fragments_congr fun f hf => by rw [h f hf]

variable [LawfulMonad m]

theorem readAlternative_lift (read : Fragment → m (List α)) (alternative : List Fragment) :
    readAlternative (fun f => OptionT.lift (read f)) alternative =
      OptionT.lift (readAlternative read alternative) := by
  induction alternative with
  | nil => rw [readAlternative, readAlternative, OptionT.lift_pure]
  | cons f rest ih => simp only [readAlternative, ih, OptionT.lift_bind, OptionT.lift_pure]

theorem firstNonempty_lift (read : Fragment → m (List α)) (alternatives : List (List Fragment)) :
    firstNonempty (fun f => OptionT.lift (read f)) alternatives =
      OptionT.lift (firstNonempty read alternatives) := by
  induction alternatives with
  | nil => rw [firstNonempty, firstNonempty, OptionT.lift_pure]
  | cons alternative rest ih =>
    simp only [firstNonempty, readAlternative_lift, ih, OptionT.lift_bind]
    congr 1
    funext values
    split
    · rfl
    · rw [OptionT.lift_pure]

theorem evaluate_lift (c : Chain) (read : Fragment → m String) :
    c.evaluate (fun f => OptionT.lift (read f)) = OptionT.lift (c.evaluate read) := by
  simp only [evaluate, ← OptionT.lift_pure, ← OptionT.lift_bind, firstNonempty_lift]

theorem evaluateList_lift (c : Chain) (read : Fragment → m (List String)) :
    c.evaluateList (fun f => OptionT.lift (read f)) = OptionT.lift (c.evaluateList read) := by
  simp only [evaluateList, ← OptionT.lift_pure, ← OptionT.lift_bind, firstNonempty_lift]

end

def longestPut (c : Chain) : Nat :=
  (c.fragments.flatMap Fragment.puts).foldr (fun a n => max a.2.utf8ByteSize n) 0

theorem size_le_longestPut {c : Chain} {f : Fragment} (hf : f ∈ c.fragments) {a : String × String}
    (ha : a ∈ f.puts) : a.2.utf8ByteSize ≤ c.longestPut := by
  have hm : a ∈ c.fragments.flatMap Fragment.puts := List.mem_flatMap.mpr ⟨f, hf, ha⟩
  unfold longestPut
  generalize c.fragments.flatMap Fragment.puts = puts at hm
  induction puts with
  | nil => cases hm
  | cons b puts ih =>
    rcases List.mem_cons.mp hm with rfl | hm
    · exact Nat.le_max_left _ _
    · exact Nat.le_trans (ih hm) (Nat.le_max_right _ _)

end Chain

namespace Reading

theorem ofExcept_bind_congr {α β : Type} {r : Except Error α} {f g : α → Reading β}
    (h : ∀ a, r = .ok a → f a = g a) : ofExcept r >>= f = ofExcept r >>= g := by
  cases r with
  | error e => rfl
  | ok a => exact h a rfl

theorem lift_ofExcept_bind {α β : Type} {r : Except Error α} {f : α → OptionT Reading β}
    {g : α → Reading β} (h : ∀ a, r = .ok a → f a = OptionT.lift (g a)) :
    OptionT.lift (ofExcept r) >>= f = OptionT.lift (ofExcept r >>= g) := by
  cases r with
  | error e => rfl
  | ok a => exact h a rfl

def storeWithin (read : String → OptionT Reading String) :
    List (String × String) → OptionT Reading Unit
  | [] => pure ()
  | (key, rule) :: rest => do
    let value ← read rule
    OptionT.lift (set key value)
    storeWithin read rest

theorem storeWithin_eq {read : String → OptionT Reading String} {read' : String → Reading String}
    {puts : List (String × String)} (h : ∀ a ∈ puts, read a.2 = OptionT.lift (read' a.2)) :
    storeWithin read puts = OptionT.lift (store read' puts) := by
  induction puts with
  | nil => exact (OptionT.lift_pure ()).symm
  | cons a puts ih =>
    obtain ⟨ha, hs⟩ := List.forall_mem_cons.mp h
    simp only [storeWithin, store, ha, ih hs, OptionT.lift_bind]

end Reading

namespace Page

variable (p : Page) (n : Nat)

/-- The text that a rule reads, if at most so many rules are inside one another. Nothing but this
number bounds the recursion, and nothing is read where it is met. -/
def ruleWithin : Nat → String → OptionT Reading String
  | 0, _ => failure
  | n + 1, rule => do
    let chain ← OptionT.lift (Reading.ofExcept (Rule.resolve rule))
    chain.evaluate fun f => do
      Reading.storeWithin (ruleWithin n) f.puts
      OptionT.lift (p.fragmentString false f)

def storeWithin (f : Fragment) : OptionT Reading Unit :=
  Reading.storeWithin (p.ruleWithin n) f.puts

def stringWithin (c : Chain) (isUrl : Bool) : OptionT Reading String :=
  c.evaluate fun f => do
    p.storeWithin n f
    OptionT.lift (p.fragmentString isUrl f)

def listWithin (c : Chain) : OptionT Reading (List String) :=
  c.evaluateList fun f => do
    p.storeWithin n f
    OptionT.lift (do Reading.ofExcept (p.values f (← Reading.vars)))

def nodesWithin (c : Chain) : OptionT Reading (List Handle) :=
  Chain.firstNonempty (fun f => do
    p.storeWithin n f
    OptionT.lift (do Reading.ofExcept (p.nodes f (← Reading.vars)))) c.alternatives

variable {p n}

theorem storeWithin_eq {f : Fragment}
    (h : ∀ a ∈ f.puts, p.ruleWithin n a.2 = OptionT.lift (p.ruleString a.2)) :
    p.storeWithin n f = OptionT.lift (p.store f) := Reading.storeWithin_eq h

theorem stringWithin_eq {c : Chain} (isUrl : Bool)
    (h : ∀ f ∈ c.fragments, p.storeWithin n f = OptionT.lift (p.store f)) :
    p.stringWithin n c isUrl = OptionT.lift (p.queryString c isUrl) := by
  rw [queryString, ← Chain.evaluate_lift]
  refine Chain.evaluate_congr fun f hf => ?_
  rw [h f hf, OptionT.lift_bind]

/-- A rule is read as the chain that it stands for: the rules of its assignments are shorter. -/
theorem ruleString_eq (p : Page) (rule : String) :
    p.ruleString rule = (do p.queryString (← Reading.ofExcept (Rule.resolve rule)) false) := by
  rw [ruleString]
  refine Reading.ofExcept_bind_congr fun c hc => Chain.evaluate_congr fun f hf => ?_
  refine congrArg (· >>= _) (Reading.store_congr fun a ha => ?_)
  exact dif_pos (Rule.puts_size_of_resolve hc hf ha)

/-- A bound above the bytes of the rule is not met. -/
theorem ruleWithin_eq {rule : String} (h : rule.utf8ByteSize < n) :
    p.ruleWithin n rule = OptionT.lift (p.ruleString rule) := by
  -- with each rule inside another the bound falls by one, and the bytes by at least one
  induction n generalizing rule with
  | zero => exact absurd h (Nat.not_lt_zero _)
  | succ n ih =>
    rw [ruleString_eq, ruleWithin]
    refine Reading.lift_ofExcept_bind fun c hc => ?_
    refine stringWithin_eq false fun f hf => storeWithin_eq fun a ha => ih ?_
    have := Rule.puts_size_of_resolve hc hf ha
    omega

/-- Reading ends: the rule of an assignment has fewer bytes than the rule around it, so rules inside
one another form no infinite descent, and with as many of them as the longest rule of an assignment
has bytes, and one more, whatever is read of a chain is read to its end. -/
theorem reading_ends :
    (∀ rule c, Rule.resolve rule = .ok c → ∀ f ∈ c.fragments, ∀ a ∈ f.puts,
      a.2.utf8ByteSize < rule.utf8ByteSize) ∧
    WellFounded Rule.Assigned ∧
    ∀ (p : Page) (c : Chain) (n : Nat), c.longestPut < n →
      (∀ isUrl, p.stringWithin n c isUrl = OptionT.lift (p.queryString c isUrl)) ∧
      p.listWithin n c = OptionT.lift (p.queryList c) ∧
      p.nodesWithin n c = OptionT.lift (p.queryNodes c) := by
  refine ⟨fun rule c hc f hf a ha => Rule.puts_size_of_resolve hc hf ha, Rule.assigned_wellFounded,
    fun p c n hn => ?_⟩
  have hs : ∀ f ∈ c.fragments, p.storeWithin n f = OptionT.lift (p.store f) := fun f hf =>
    storeWithin_eq fun a ha => ruleWithin_eq (Nat.lt_of_le_of_lt (Chain.size_le_longestPut hf ha) hn)
  refine ⟨fun isUrl => stringWithin_eq isUrl hs, ?_, ?_⟩
  · rw [queryList, ← Chain.evaluateList_lift]
    refine Chain.evaluateList_congr fun f hf => ?_
    simp only [hs f hf, OptionT.lift_bind]
  · rw [queryNodes, ← Chain.firstNonempty_lift]
    refine Chain.firstNonempty_fragments_congr fun f hf => ?_
    simp only [hs f hf, OptionT.lift_bind]

/-- The braces of the inner rule only show once its escapes are resolved. -/
theorem reading_ends_escaped :
    let inner := "@put:\x7b\"j\":\"b\"\x7da"
    let rule := "@put:\x7b\"k\":\"@put:\\u007b\\\"j\\\":\\\"b\\\"\\u007da\"\x7dc"
    let c : Chain := ⟨[⟨.default, "c", .first, [("k", inner)], none⟩]⟩
    let p := Page.bind "[]" "u"
    Rule.resolve rule = .ok c ∧ inner.utf8ByteSize < rule.utf8ByteSize ∧
      Rule.Assigned "b" inner ∧ c.longestPut < 20 ∧
      p.stringWithin 20 c false = OptionT.lift (p.queryString c false) := by
  intro inner rule c p
  have hr : Rule.resolve rule = .ok c := by cbv
  have ha : Rule.resolve inner = .ok ⟨[⟨.default, "a", .first, [("j", "b")], none⟩]⟩ := by cbv
  have hl : c.longestPut < 20 := by decide +kernel
  exact ⟨hr, reading_ends.1 rule c hr _ List.mem_cons_self _ List.mem_cons_self,
    ⟨_, ha, _, List.mem_cons_self, "j", List.mem_cons_self⟩, hl,
    (reading_ends.2.2 p c 20 hl).1 false⟩

end Page

end Catalog
