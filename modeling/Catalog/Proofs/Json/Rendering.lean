import Catalog.Proofs.Json.Path
import Catalog.Proofs.Json.Printing

/-! # Writing paths

Every list of steps can be written so that it is read as it is: members by name in quotes, items by
number, names at any depth behind two points. A name must not hold what ends it where it is written.
-/

namespace Catalog.Json

open Text Json.Path

variable {s rest ds : List Char} {segments : List Segment}

namespace Segment

def render : Segment → List Char
  | .key name => ['[', '\''] ++ name.toList ++ ['\'', ']']
  | .index i => '[' :: renderInt i.toInt ++ [']']
  | .wildcard => ['[', '*', ']']
  | .descendant name => ['.', '.'] ++ name.toList

/-- The name of the step does not hold what ends it. -/
def Renderable : Segment → Prop
  | .key name => ']' ∉ name.toList
  | .descendant name => name ≠ "" ∧ '.' ∉ name.toList ∧ '[' ∉ name.toList ∧
      ∀ c, name.toList.getLast? = some c → isBlank c = false
  | _ => True

end Segment

def Path.render (path : Path) : String :=
  String.ofList ('$' :: path.segments.flatMap Segment.render)

theorem foldl_digits (hd : ∀ c ∈ ds, c.isDigit = true) (word : Nat) :
    ds.foldl (fun (n : Int) c => 10 * n + (c.toNat - 48)) word =
      (Nat.ofDigitChars 10 ds word : Nat) := by
  induction ds generalizing word with
  | nil => rfl
  | cons c ds ih =>
    obtain ⟨hc, hd⟩ := List.forall_mem_cons.mp hd
    have hlow : 48 ≤ c.toNat := by
      simp only [Char.isDigit, Bool.and_eq_true, decide_eq_true_eq] at hc
      exact hc.1
    have hstep :
        10 * (word : Int) + (c.toNat - 48) = (10 * word + (c.toNat - '0'.toNat) : Nat) := by
      have hz : '0'.toNat = 48 := rfl
      omega
    rw [List.foldl_cons, Nat.ofDigitChars_cons, hstep]
    exact ih hd _

theorem integer?_renderInt (i : Int64) : integer? (renderInt i.toInt) = some i := by
  have hd : ∀ c ∈ digitsOf i.toInt.natAbs, c.isDigit = true := fun _ h => isDigit_of_mem_digitsOf h
  have hall : (digitsOf i.toInt.natAbs).all Char.isDigit = true := List.all_eq_true.mpr hd
  have hne : digitsOf i.toInt.natAbs ≠ [] := Nat.toDigits_ne_nil
  have hn : (digitsOf i.toInt.natAbs).foldl (fun (n : Int) c => 10 * n + (c.toNat - 48)) 0 =
      i.toInt.natAbs :=
    calc
      _ = ((Nat.ofDigitChars 10 (digitsOf i.toInt.natAbs) 0 : Nat) : Int) := foldl_digits hd 0
      _ = i.toInt.natAbs := congrArg Nat.cast Nat.ofDigitChars_ten_toDigits
  have hlow : -0x8000000000000000 ≤ i.toInt := i.le_toInt
  have hhigh : i.toInt < 0x8000000000000000 := i.toInt_lt
  unfold renderInt
  generalize digitsOf i.toInt.natAbs = ds at hd hall hne hn
  split
  · have hi : -(i.toInt.natAbs : Int) = i.toInt := by omega
    generalize i.toInt.natAbs = n at hn hi
    simp [integer?, hall, hne, hn, hi, hlow, hhigh]
  · have hi : (i.toInt.natAbs : Int) = i.toInt := by omega
    generalize i.toInt.natAbs = n at hn hi
    have hsign (c : Char) (r : List Char) (hc : c.isDigit = false) : ds ≠ c :: r := by
      rintro rfl
      rw [hd c List.mem_cons_self] at hc
      cases hc
    unfold integer?
    split
    next negative ds' h =>
      split at h
      · exact absurd rfl (hsign '-' _ rfl)
      · exact absurd rfl (hsign '+' _ rfl)
      · cases h
        simp [hall, hne, hn, hi, hlow, hhigh]

theorem mem_renderInt {n : Int} {c : Char} (h : c ∈ renderInt n) : c = '-' ∨ c.isDigit = true := by
  unfold renderInt at h
  split at h
  · rcases List.mem_cons.mp h with rfl | h
    · exact .inl rfl
    · exact .inr (isDigit_of_mem_digitsOf h)
  · exact .inr (isDigit_of_mem_digitsOf h)

theorem isBlank_of_isDigit {c : Char} (h : c.isDigit = true) : isBlank c = false := by
  have hr : 48 ≤ c.toNat ∧ c.toNat ≤ 57 := by
    simpa [Char.isDigit, UInt32.le_iff_toNat_le] using h
  simp only [isBlank, Bool.or_eq_false_iff, Bool.and_eq_false_iff, beq_eq_false_iff_ne,
    decide_eq_false_iff_not]
  omega

theorem isBlank_of_mem_renderInt {n : Int} {c : Char} (h : c ∈ renderInt n) :
    isBlank c = false := by
  rcases mem_renderInt h with rfl | h
  · decide
  · exact isBlank_of_isDigit h

theorem bracket?_renderInt (i : Int64) : bracket? (renderInt i.toInt) = some (.index i) := by
  have hw : (renderInt i.toInt == ['*']) = false := by
    refine beq_false_of_ne fun h => ?_
    have hm := mem_renderInt (h ▸ List.mem_singleton_self '*' : '*' ∈ renderInt i.toInt)
    revert hm
    decide
  simp [bracket?, hw, integer?_renderInt]

theorem bracket?_quoted (name : String) :
    bracket? ('\'' :: name.toList ++ ['\'']) = some (.key name) := by
  have hq : quoted? '\'' ('\'' :: name.toList ++ ['\'']) = some name.toList := by
    simp [quoted?, dropEnd?_append]
  have hi : integer? ('\'' :: name.toList ++ ['\'']) = none := by
    simp [integer?, Char.isDigit]
  simp only [bracket?, hi, hq]
  simp

/-- What has no blanks at its ends and no bracket stands in brackets as it is. -/
theorem step_bracket {segment : Segment} (ht : Trimmed s) (hs : ']' ∉ s)
    (hb : bracket? s = some segment) (first : Bool) (rest : List Char) :
    Step first ('[' :: (s ++ ']' :: rest)) segment rest :=
  .bracket hs (by rwa [trimmed_iff.mp ht]) rest

namespace Segment

variable {segment : Segment}

/-- A step is read as it is written, where nothing follows that belongs to its name. -/
theorem step_render (hs : segment.Renderable) (hr : Follows rest) (first : Bool) :
    Step first (segment.render ++ rest) segment rest := by
  cases segment with
  | key name =>
    have ht : Trimmed ('\'' :: name.toList ++ ['\'']) := by
      constructor
      · rintro c ⟨⟩
        decide
      · intro c hc
        rw [List.getLast?_concat] at hc
        cases hc
        decide
    have hm : ']' ∉ '\'' :: name.toList ++ ['\''] := by
      simpa [Renderable] using hs
    simpa [render] using step_bracket ht hm (bracket?_quoted name) first rest
  | index i =>
    have ht : Trimmed (renderInt i.toInt) :=
      ⟨fun c hc => isBlank_of_mem_renderInt (List.mem_of_head? hc),
        fun c hc => isBlank_of_mem_renderInt (List.mem_of_getLast? hc)⟩
    have hm : ']' ∉ renderInt i.toInt := by
      intro h
      have := mem_renderInt h
      revert this
      decide
    simpa [render] using step_bracket ht hm (bracket?_renderInt i) first rest
  | wildcard =>
    have ht : Trimmed ['*'] := trimmed_iff.mpr (by decide)
    exact step_bracket ht (by decide) rfl first rest
  | descendant name =>
    obtain ⟨hn, hd, ho, -⟩ := hs
    have hstop : ∀ c ∈ name.toList, isStop c = false := by
      intro c hc
      rw [isStop, Bool.or_eq_false_iff, beq_eq_false_iff_ne, beq_eq_false_iff_ne]
      exact ⟨fun he => hd (he ▸ hc), fun he => ho (he ▸ hc)⟩
    have hne : name.toList ≠ [] := by simpa using hn
    simpa [render] using Step.descendant hne hstop hr

theorem follows_render (segments : List Segment) : Follows (segments.flatMap render) := by
  cases segments with
  | nil =>
    rintro c ⟨⟩
  | cons segment segments =>
    cases segment <;> rintro c ⟨⟩ <;> rfl

theorem getLast_render (hs : segment.Renderable) {c : Char} (h : segment.render.getLast? = some c) :
    isBlank c = false := by
  cases segment with
  | descendant name =>
    obtain ⟨-, -, -, hl⟩ := hs
    refine getLast_append (s := ['.', '.']) ?_ hl c h
    rintro c ⟨⟩
    decide
  | wildcard =>
    cases h
    decide
  | key name | index i =>
    -- the bracket
    rw [render, List.getLast?_append] at h
    cases h
    decide

end Segment

theorem steps_render (h : ∀ s ∈ segments, s.Renderable) (first : Bool) :
    steps first (segments.flatMap Segment.render) = .ok segments := by
  induction segments generalizing first with
  | nil => simp [steps]
  | cons segment segments ih =>
    obtain ⟨hs, h⟩ := List.forall_mem_cons.mp h
    have hstep := Segment.step_render hs (Segment.follows_render segments) first
    rw [List.flatMap_cons, hstep.steps_eq, ih h]
    rfl

theorem trimmed_render (h : ∀ s ∈ segments, s.Renderable) :
    Trimmed ('$' :: segments.flatMap Segment.render) := by
  have hlast : ∀ c, (segments.flatMap Segment.render).getLast? = some c → isBlank c = false := by
    induction segments with
    | nil =>
      rintro c ⟨⟩
    | cons segment segments ih =>
      obtain ⟨hs, h⟩ := List.forall_mem_cons.mp h
      rw [List.flatMap_cons]
      exact getLast_append (fun c => Segment.getLast_render hs) (ih h)
  constructor
  · rintro c ⟨⟩
    decide
  · refine getLast_append (s := ['$']) ?_ hlast
    rintro c ⟨⟩
    decide

theorem Path.parse_of_renderable {path : Path} (h : ∀ s ∈ path.segments, s.Renderable) :
    parse path.render = .ok path := by
  have htrim : trim path.render.toList = '$' :: path.segments.flatMap Segment.render := by
    rw [render, String.toList_ofList]
    exact trimmed_iff.mp (trimmed_render h)
  rw [parse_eq_ok, htrim]
  exact steps_render h true

/-- A path is read as it is written, whatever its names hold that does not end them there; and a
path that goes on with another one, in front of which it has no blanks, has the steps of both. -/
theorem Path.parse_render :
    (∀ path : Path, (∀ s ∈ path.segments, s.Renderable) → parse path.render = .ok path) ∧
    ∀ (p q : Path) (text more : String), parse text = .ok p → parse more = .ok q →
      (∀ c, text.toList.getLast? = some c → isBlank c = false) →
      (∃ c, more.toList.head? = some c ∧ (c = '.' ∨ c = '[')) →
      parse (text ++ more) = .ok ⟨p.segments ++ q.segments⟩ := by
  refine ⟨fun path => parse_of_renderable, fun p q text more hp hq hl hm => ?_⟩
  obtain ⟨c, hc, hs⟩ := hm
  have hstop : isStop c = true := by
    rcases hs with rfl | rfl <;> rfl
  exact parse_append hp (trimEnd_of_getLast hl) hq ⟨c, hc, hstop⟩

/-- Names with quotes, brackets, points, dollar signs and stars, an empty one, and the least number
of an item. -/
theorem Path.parse_render_marks :
    let path : Path :=
      ⟨[.key "a'.$[*", .index Int64.minValue, .wildcard, .descendant " ]'*$", .key ""]⟩
    path.render = "$['a'.$[*'][-9223372036854775808][*].. ]'*$['']" ∧
    parse path.render = .ok path ∧
    parse (" $a.b" ++ "..c[-1]\n") = .ok ⟨[.key "a", .key "b", .descendant "c", .index (-1)]⟩ := by
  refine ⟨by decide +kernel, parse_render.1 _ ?_,
    parse_render.2 ⟨[.key "a", .key "b"]⟩ ⟨[.descendant "c", .index (-1)]⟩ " $a.b" "..c[-1]\n"
      ?_ ?_ ?_ ?_⟩
  · simp only [List.forall_mem_cons, List.not_mem_nil, false_imp_iff, implies_true, and_true]
    refine ⟨?_, trivial, trivial, ⟨by decide, by decide, by decide, ?_⟩, ?_⟩
    · change ']' ∉ "a'.$[*".toList
      decide
    · rintro c ⟨⟩
      decide
    · exact List.not_mem_nil
  · decide +kernel
  · decide +kernel
  · rintro c ⟨⟩
    decide
  · exact ⟨'.', rfl, .inl rfl⟩

end Catalog.Json
