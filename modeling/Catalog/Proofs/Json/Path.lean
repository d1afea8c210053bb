import Mathlib.Data.List.TakeWhile
import Catalog.Proofs.Text.Cut
import Catalog.Json.Path

/-! # Paths one behind another

Reading a path takes one step after another. What a step reads does not change when another path
follows, so a path that goes on with another one has the steps of both, and selects with the second
from what the first selects.
-/

namespace Catalog.Json

open Text

namespace Path

/-- A text in front of which a name ends: it is empty or starts with a stop. -/
def Follows (t : List Char) : Prop := ∀ c, t.head? = some c → isStop c = true

/-- One step at the start of a text, and the rest behind it. Only the `first` step may be without a
mark. -/
inductive Step (first : Bool) : List Char → Segment → List Char → Prop
  | descendant {name rest : List Char} (hn : name ≠ []) (hs : ∀ c ∈ name, isStop c = false)
      (hr : Follows rest) :
    Step first ('.' :: '.' :: (name ++ rest)) (.descendant (String.ofList name)) rest
  | parts (rest : List Char) : Step first ('.' :: '*' :: rest) .wildcard rest
  | member {name rest : List Char} (hn : name ≠ []) (hw : name.head? ≠ some '*')
      (hs : ∀ c ∈ name, isStop c = false) (hr : Follows rest) :
    Step first ('.' :: (name ++ rest)) (.key (String.ofList name)) rest
  | bracket {inner : List Char} {segment : Segment} (hi : ']' ∉ inner)
      (hb : bracket? (trim inner) = some segment) (rest : List Char) :
    Step first ('[' :: (inner ++ ']' :: rest)) segment rest
  | bare {name rest : List Char} (hf : first = true) (hn : name ≠ [])
      (hs : ∀ c ∈ name, isStop c = false) (hr : Follows rest) :
    Step first (name ++ rest) (.key (String.ofList name)) rest

variable {s t rest name : List Char} {first : Bool} {segment : Segment} {a b : List Segment}

theorem Step.append (h : Step first s segment rest) (ht : Follows t) :
    Step first (s ++ t) segment (rest ++ t) := by
  have hr {rest : List Char} (hr : Follows rest) : Follows (rest ++ t) := by
    cases rest with
    | nil => exact ht
    | cons c rest => exact hr
  cases h with
  | descendant hn hs hf => simpa using descendant hn hs (hr hf)
  | parts => exact parts (rest ++ t)
  | member hn hw hs hf => simpa using member hn hw hs (hr hf)
  | bracket hi hb => simpa using bracket hi hb (rest ++ t)
  | bare h hn hs hf => simpa using bare h hn hs (hr hf)

theorem span_name (hs : ∀ c ∈ name, isStop c = false) (hr : Follows rest) :
    (name ++ rest).takeWhile (!isStop ·) = name ∧ (name ++ rest).dropWhile (!isStop ·) = rest := by
  have hp : ∀ c ∈ name, (!isStop c) = true := by simpa using hs
  cases rest with
  | nil => simpa using hp
  | cons c rest =>
    have hc : isStop c = true := hr c rfl
    simp [List.takeWhile_append_of_pos hp, List.dropWhile_append_of_pos hp, hc]

theorem exists_name (s : List Char) : ∃ name rest, s = name ++ rest ∧
    (∀ c ∈ name, isStop c = false) ∧ Follows rest := by
  refine ⟨_, _, (List.takeWhile_append_dropWhile (p := (!isStop ·))).symm, fun c hc => ?_,
    fun c hc => ?_⟩
  · simpa using List.mem_takeWhile_imp hc
  · have hd := List.head?_dropWhile_not (!isStop ·) s
    rw [hc] at hd
    simpa using hd

theorem Step.steps_eq (h : Step first s segment rest) :
    steps first s = (steps false rest).map (segment :: ·) := by
  have hdo (x : Except RuleFault (List Segment)) (segment : Segment) :
      (do return segment :: (← x)) = x.map (segment :: ·) := by cases x <;> rfl
  cases h with
  | @descendant name _ hn hs hr =>
    obtain ⟨ht, hd⟩ := span_name hs hr
    have he : name.isEmpty = false := by simpa using hn
    rw [steps, ← hdo]
    simp only [beq_self_eq_true, if_true, ht, hd, he, Bool.false_eq_true, if_false]
  | parts =>
    rw [steps, ← hdo]
    simp only [beq_self_eq_true, if_true]
  | @member name _ hn hw hs hr =>
    obtain ⟨ht, hd⟩ := span_name hs hr
    have he : name.isEmpty = false := by simpa using hn
    obtain ⟨c, name, rfl⟩ := List.exists_cons_of_ne_nil hn
    have hc : isStop c = false := hs c List.mem_cons_self
    rw [steps, ← hdo]
    · simp only [beq_self_eq_true, if_true, ht, hd, he, Bool.false_eq_true, if_false]
    · rintro _ ⟨⟩
      cases hc
    · rintro _ ⟨⟩
      exact hw rfl
  | @bracket inner _ hi hb =>
    have hp : ∀ c ∈ inner, (c != ']') = true := by
      intro c hc
      simpa using fun he : c = ']' => hi (he ▸ hc)
    have ht : (inner ++ ']' :: rest).takeWhile (· != ']') = inner := by
      simp [List.takeWhile_append_of_pos hp]
    have hd : (inner ++ ']' :: rest).dropWhile (· != ']') = ']' :: rest := by
      simp [List.dropWhile_append_of_pos hp]
    rw [steps.eq_def, ← hdo]
    simp only [beq_iff_eq, Char.reduceEq, if_false, if_true, ht]
    split
    · next h => rw [hd] at h; cases h
    · next h => rw [hd] at h; cases h; simp only [hb]
  | @bare name _ hf hn hs hr =>
    obtain ⟨c, name, rfl⟩ := List.exists_cons_of_ne_nil hn
    obtain ⟨hc, hs⟩ := List.forall_mem_cons.mp hs
    obtain ⟨ht, hd⟩ := span_name hs hr
    simp only [isStop, Bool.or_eq_false_iff] at hc
    rw [List.cons_append, steps.eq_def, ← hdo]
    simp only [hc, hf, Bool.false_eq_true, if_false, if_true, ht, hd]

theorem exists_step (h : steps first s = .ok a) (hs : s ≠ []) :
    ∃ segment rest b, Step first s segment rest ∧ steps false rest = .ok b ∧ a = segment :: b := by
  have hok {x : Except RuleFault (List Segment)} {segment : Segment}
      (h : (do return segment :: (← x)) = .ok a) : ∃ b, x = .ok b ∧ a = segment :: b := by
    cases x with
    | error e => cases h
    | ok b => exact ⟨b, rfl, (Except.ok.inj h).symm⟩
  obtain ⟨c, r, rfl⟩ := List.exists_cons_of_ne_nil hs
  rw [steps.eq_def] at h
  dsimp only at h
  -- the first characters tell the kind of the step
  split at h
  · next hc =>
    obtain rfl := eq_of_beq hc
    split at h
    · next r =>
      obtain ⟨name, rest, rfl, hn, hr⟩ := exists_name r
      simp only [span_name hn hr] at h
      split at h
      · cases h
      · next he =>
        obtain ⟨b, hb, rfl⟩ := hok h
        exact ⟨_, rest, b, .descendant (by simpa using he) hn hr, hb, rfl⟩
    · next r =>
      obtain ⟨b, hb, rfl⟩ := hok h
      exact ⟨_, r, b, .parts r, hb, rfl⟩
    · next hw =>
      obtain ⟨name, rest, rfl, hn, hr⟩ := exists_name r
      simp only [span_name hn hr] at h
      split at h
      · cases h
      · next he =>
        obtain ⟨b, hb, rfl⟩ := hok h
        refine ⟨_, rest, b, .member (by simpa using he) (fun hh => ?_) hn hr, hb, rfl⟩
        obtain ⟨name, rfl⟩ := List.head?_eq_some_iff.mp hh
        exact hw _ rfl
  · next hc =>
    split at h
    · next ho =>
      obtain rfl := eq_of_beq ho
      split at h
      · cases h
      · next d rest hd =>
        split at h
        · cases h
        · next segment hb =>
          obtain ⟨b, hr, rfl⟩ := hok h
          obtain rfl : d = ']' := by
            have hh := List.head?_dropWhile_not (· != ']') r
            rw [hd] at hh
            simpa using hh
          have hs : r = r.takeWhile (· != ']') ++ ']' :: rest := by
            rw [← hd, List.takeWhile_append_dropWhile]
          have hi : ']' ∉ r.takeWhile (· != ']') := fun hm => by
            simpa using List.mem_takeWhile_imp hm
          exact ⟨segment, rest, b, hs ▸ .bracket hi hb rest, hr, rfl⟩
    · next ho =>
      split at h
      · next hf =>
        obtain ⟨name, rest, rfl, hn, hr⟩ := exists_name r
        simp only [span_name hn hr] at h
        obtain ⟨b, hb, rfl⟩ := hok h
        have hs : isStop c = false := by
          simpa [isStop] using And.intro hc ho
        exact ⟨_, rest, b, .bare hf (List.cons_ne_nil c name) (List.forall_mem_cons.mpr ⟨hs, hn⟩) hr,
          hb, rfl⟩
      · cases h

/-- Where a name ends it does not matter whether the step is the first one. -/
theorem Step.of_follows (h : Step first s segment rest) (hf : Follows s) (first' : Bool) :
    Step first' s segment rest := by
  cases h with
  | descendant hn hs hr => exact .descendant hn hs hr
  | parts => exact .parts rest
  | member hn hw hs hr => exact .member hn hw hs hr
  | bracket hi hb => exact .bracket hi hb rest
  | @bare name _ _ hn hs =>
    obtain ⟨c, name, rfl⟩ := List.exists_cons_of_ne_nil hn
    have hc : isStop c = false := hs c List.mem_cons_self
    rw [hf c rfl] at hc
    cases hc

theorem steps_of_follows (h : steps first s = .ok a) (hf : Follows s) (first' : Bool) :
    steps first' s = .ok a := by
  by_cases hn : s = []
  · subst hn
    simpa [steps] using h
  · obtain ⟨segment, rest, b, hs, hr, rfl⟩ := exists_step h hn
    rw [(hs.of_follows hf first').steps_eq, hr]
    rfl

theorem steps_append (hs : steps first s = .ok a) (ht : Follows t) (hb : steps true t = .ok b) :
    steps first (s ++ t) = .ok (a ++ b) := by
  induction a generalizing first s with
  | nil =>
    by_cases hn : s = []
    · rw [hn]
      exact steps_of_follows hb ht first
    · obtain ⟨_, _, _, -, -, ha⟩ := exists_step hs hn
      cases ha
  | cons segment a ih =>
    have hn : s ≠ [] := by
      rintro rfl
      rw [steps] at hs
      cases hs
    obtain ⟨_, rest, _, hstep, hr, ha⟩ := exists_step hs hn
    cases ha
    rw [(hstep.append ht).steps_eq, ih hr]
    rfl

def body : List Char → List Char
  | '$' :: r => r
  | s => s

theorem body_of_ne (h : s.head? ≠ some '$') : body s = s := by
  unfold body
  split
  · exact absurd rfl h
  · rfl

theorem body_append (h : t.head? ≠ some '$') : body (s ++ t) = body s ++ t := by
  cases s with
  | nil => exact body_of_ne h
  | cons c s =>
    by_cases hc : c = '$'
    · subst hc
      rfl
    · have hn {r : List Char} : (c :: r).head? ≠ some '$' := by simpa using hc
      rw [body_of_ne hn, List.cons_append, body_of_ne hn]

theorem parse_eq (text : String) :
    parse text = match steps true (body (trim text.toList)) with
      | .ok segments => .ok ⟨segments⟩
      | .error fault => .error (.invalidRule (String.ofList (trim text.toList)) fault) := rfl

theorem parse_eq_ok {text : String} {p : Path} :
    parse text = .ok p ↔ steps true (body (trim text.toList)) = .ok p.segments := by
  rw [parse_eq]
  cases h : steps true (body (trim text.toList)) with
  | error fault => simp
  | ok segments =>
    cases p
    simp

/-- A path that goes on with another one, in front of which it has no blanks, has the steps of
both. -/
theorem parse_append {p q : Path} {text more : String} (hp : parse text = .ok p)
    (ht : trimEnd text.toList = text.toList) (hq : parse more = .ok q)
    (hm : ∃ c, more.toList.head? = some c ∧ isStop c = true) :
    parse (text ++ more) = .ok ⟨p.segments ++ q.segments⟩ := by
  obtain ⟨c, hc, hstop⟩ := hm
  obtain ⟨r, hr⟩ := List.head?_eq_some_iff.mp hc
  have hblank : isBlank c = false := by
    simp only [isStop, Bool.or_eq_true, beq_iff_eq] at hstop
    rcases hstop with rfl | rfl <;> decide
  have hhead : ∀ d, more.toList.head? = some d → isBlank d = false := by
    intro d hd
    obtain rfl := Option.some.inj (hc.symm.trans hd)
    exact hblank
  have hlast : ∀ d, text.toList.getLast? = some d → isBlank d = false := fun d hd =>
    getLast_trimEnd (ht.symm ▸ hd)
  have hend : trimEnd more.toList = c :: trimEnd r := by
    rw [hr]
    exact trimEnd_append (s := [c]) (by simpa using hblank)
  have hdollar : (c :: trimEnd r).head? ≠ some '$' := by
    rintro ⟨⟩
    cases hstop
  have hfront : trim text.toList = trimStart text.toList := by
    simpa [trimEnd] using trim_append (t := []) hlast (by simp)
  rw [parse_eq_ok] at hp hq ⊢
  rw [hfront] at hp
  rw [trim, trimStart_of_head hhead, hend, body_of_ne hdollar] at hq
  rw [String.toList_append, trim_append hlast hhead, hend, body_append hdollar]
  exact steps_append hp (fun d hd => Option.some.inj hd ▸ hstop) hq

theorem selectAll_append (a b : List Segment) (values : List Value) :
    selectAll (a ++ b) values = selectAll b (selectAll a values) := by
  induction a generalizing values with
  | nil => rfl
  | cons segment a ih => exact ih (values.flatMap segment.select)

end Path

end Catalog.Json
