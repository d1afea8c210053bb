import Mathlib.Data.List.Basic
import Catalog.Json.Written

/-! # The grammar of JSON

Which texts are JSON, and which tree each of them is, without regard to how it is read: blanks may
stand around every value and every name, characters of strings may be escaped, and numerals have
fractions and exponents. The reader accepts every such text and finds its tree. Every token is read
whole, as nothing that stands behind it continues it, and takes the reader on as its place says.
-/

namespace Catalog.Json

variable {rest : List Char}

def Blank (s : List Char) : Prop := ∀ c ∈ s, isSpace c = true

theorem blank_nil : Blank [] := List.forall_mem_nil _

/-- The rest of a string up to its closing quote, behind what has been read of it, and the text of
the whole string. -/
inductive Quoted.Spells : Quoted → List Char → Option (List Char) → Prop where
  | close (q : Quoted) : Spells q ['"'] q.finish
  | plain {q : Quoted} {c : Char} {t : List Char} {s : Option (List Char)} (hq : c ≠ '"')
      (hb : c ≠ '\\') (hc : ¬c.toNat < 0x20) (h : Spells (q.put c) t s) : Spells q (c :: t) s
  | escape {q : Quoted} {c d : Char} {t : List Char} {s : Option (List Char)}
      (hd : shortEscape? c = some d) (h : Spells (q.put d) t s) : Spells q ('\\' :: c :: t) s
  | unit {q : Quoted} {a b c d : Char} {n : Nat} {t : List Char} {s : Option (List Char)}
      (hn : unit? a b c d = some n) (h : Spells (q.putUnit n) t s) :
      Spells q ('\\' :: 'u' :: a :: b :: c :: d :: t) s

theorem stringStep_plain {c : Char} (hq : c ≠ '"') (hb : c ≠ '\\') (hc : ¬c.toNat < 0x20) :
    stringStep (c :: rest) = some (.plain c, rest) := by
  unfold stringStep
  split <;> simp_all

theorem stringStep_escape {c d : Char} (h : shortEscape? c = some d) (r : List Char) :
    stringStep ('\\' :: c :: r) = some (.plain d, r) := by
  have hu : c ≠ 'u' := by
    rintro rfl
    cases h
  unfold stringStep
  split
  · rename_i he
    cases he
  · rename_i he
    cases he
    exact absurd rfl hu
  · rename_i he
    cases he
    rw [h]
    rfl
  · next hn he =>
    cases he
    exact (hn c r rfl rfl).elim
  · next he =>
    cases he

theorem Quoted.Spells.scanString {q : Quoted} {t : List Char} {s : Option (List Char)}
    (h : q.Spells t s) {n : Nat} (hn : t.length ≤ n) :
    scanString n q (t ++ rest) = some (s, rest) := by
  induction h generalizing n with
  | close q =>
    cases n with
    | zero => cases hn
    | succ n => rfl
  | plain hq hb hc _ ih =>
    cases n with
    | zero => cases hn
    | succ n =>
      rw [List.cons_append, Json.scanString, stringStep_plain hq hb hc]
      exact ih (Nat.le_of_succ_le_succ hn)
  | escape hd _ ih =>
    cases n with
    | zero => cases hn
    | succ n =>
      rw [List.cons_append, List.cons_append, Json.scanString, stringStep_escape hd]
      exact ih (by simp only [List.length_cons] at hn; omega)
  | @unit q a b c d u t s hu _ ih =>
    cases n with
    | zero => cases hn
    | succ n =>
      have hs : stringStep ('\\' :: 'u' :: a :: b :: c :: d :: (t ++ rest)) =
          some (.unit u, t ++ rest) := by
        rw [stringStep, hu]
        rfl
      rw [show '\\' :: 'u' :: a :: b :: c :: d :: t ++ rest =
        '\\' :: 'u' :: a :: b :: c :: d :: (t ++ rest) from rfl, Json.scanString, hs]
      exact ih (by simp only [List.length_cons] at hn; omega)

theorem Quoted.Spells.of_plain {q : Quoted} {u t : List Char} {c : Char}
    {s : Option (List Char)} (hs : stringStep u = some (.plain c, t)) (h : (q.put c).Spells t s) :
    q.Spells u s := by
  unfold stringStep at hs
  split at hs
  · cases hs
  · obtain ⟨_, -, hs⟩ := Option.map_eq_some_iff.mp hs
    cases hs
  · obtain ⟨d, hd, hs⟩ := Option.map_eq_some_iff.mp hs
    cases hs
    exact .escape hd h
  · next hq _ _ =>
    split at hs
    · cases hs
    · next hc =>
      cases hs
      simp only [Bool.or_eq_true, decide_eq_true_eq, beq_iff_eq, not_or] at hc
      exact .plain (fun he => hq he) hc.2 hc.1 h
  · cases hs

theorem Quoted.Spells.of_unit {q : Quoted} {u t : List Char} {n : Nat} {s : Option (List Char)}
    (hs : stringStep u = some (.unit n, t)) (h : (q.putUnit n).Spells t s) : q.Spells u s := by
  unfold stringStep at hs
  split at hs
  · cases hs
  · obtain ⟨m, hm, hs⟩ := Option.map_eq_some_iff.mp hs
    cases hs
    exact .unit hm h
  · obtain ⟨_, -, hs⟩ := Option.map_eq_some_iff.mp hs
    cases hs
  · split at hs <;> cases hs
  · cases hs

def Delimited (rest : List Char) : Prop :=
  ∀ c, rest.head? = some c → c.isDigit = false ∧ c ≠ '.' ∧ c ≠ 'e' ∧ c ≠ 'E'

namespace Numeral

theorem spanDigits_append {ds : List Char} (hd : ∀ c ∈ ds, c.isDigit = true)
    (hr : ∀ c, rest.head? = some c → c.isDigit = false) : spanDigits (ds ++ rest) = (ds, rest) := by
  induction ds with
  | nil =>
    cases rest with
    | nil => rfl
    | cons c rest => simp [spanDigits, hr c rfl]
  | cons d ds ih =>
    obtain ⟨h, hs⟩ := List.forall_mem_cons.mp hd
    simp [spanDigits, h, ih hs]

end Numeral

structure Digits (ds : List Char) : Prop where
  nonempty : ds ≠ []
  digits : ∀ c ∈ ds, c.isDigit = true

namespace Digits

variable {ds : List Char}

theorem span (h : Digits ds) (hr : ∀ c, rest.head? = some c → c.isDigit = false) :
    Numeral.spanDigits (ds ++ rest) = (ds, rest) := Numeral.spanDigits_append h.digits hr

theorem append_ne (h : Digits ds) {c : Char} (hc : c.isDigit = false) (s t : List Char) :
    ds ++ s ≠ c :: t := by
  obtain ⟨d, ds, rfl⟩ := List.exists_cons_of_ne_nil h.nonempty
  intro he
  cases he
  exact absurd (h.digits c List.mem_cons_self) (by rw [hc]; decide)

end Digits

namespace Numeral

inductive SpellsExponent : Option (Bool × List Char) → List Char → Prop where
  | none : SpellsExponent none []
  | plain {e : Char} {ds : List Char} (he : e = 'e' ∨ e = 'E') (h : Digits ds) :
      SpellsExponent (some (false, ds)) (e :: ds)
  | up {e : Char} {ds : List Char} (he : e = 'e' ∨ e = 'E') (h : Digits ds) :
      SpellsExponent (some (false, ds)) (e :: '+' :: ds)
  | down {e : Char} {ds : List Char} (he : e = 'e' ∨ e = 'E') (h : Digits ds) :
      SpellsExponent (some (true, ds)) (e :: '-' :: ds)

def mantissa (n : Numeral) : List Char :=
  (if n.negative then ['-'] else []) ++ n.whole ++
    if n.fraction.isEmpty then [] else '.' :: n.fraction

structure Spells (n : Numeral) (t : List Char) : Prop where
  whole : Digits n.whole
  /-- A leading zero stands alone. -/
  zero : n.whole.head? = some '0' → n.whole = ['0']
  fraction : ∀ c ∈ n.fraction, c.isDigit = true
  exponent : ∃ e, SpellsExponent n.exponent e ∧ t = n.mantissa ++ e

theorem SpellsExponent.head {x : Option (Bool × List Char)} {e : List Char}
    (h : SpellsExponent x e) (hr : Delimited rest) (c : Char) (hc : (e ++ rest).head? = some c) :
    c.isDigit = false ∧ c ≠ '.' := by
  have he {e c : Char} (he : e = 'e' ∨ e = 'E') (hc : some e = some c) :
      c.isDigit = false ∧ c ≠ '.' := by
    cases hc
    rcases he with rfl | rfl <;> decide
  cases h with
  | none => exact ⟨(hr c hc).1, (hr c hc).2.1⟩
  | plain h _ | up h _ | down h _ => exact he h hc

theorem Spells.scan {n : Numeral} {t : List Char} (h : n.Spells t) (hr : Delimited rest) :
    scan (t ++ rest) = some (n, rest) := by
  obtain ⟨negative, whole, fraction, exponent⟩ := n
  obtain ⟨hw, hz, hf, e, he, rfl⟩ := h
  dsimp only at hw hz hf he
  have hne := hw.nonempty
  have hzero : ¬(whole.head? = some '0' ∧ 1 < whole.length) := by
    rintro ⟨h, hl⟩
    simp [hz h] at hl
  have hbare (t : List Char) : whole ≠ '-' :: t := by simpa using hw.append_ne (c := '-') rfl [] t
  have hplus {ds : List Char} (h : Digits ds) := h.append_ne (c := '+') rfl rest
  have hminus {ds : List Char} (h : Digits ds) := h.append_ne (c := '-') rfl
  have hexp {ds : List Char} (h : Digits ds) : spanDigits (ds ++ rest) = (ds, rest) :=
    h.span fun c hc => (hr c hc).1
  -- what stands behind the digits of the mantissa neither is a digit nor a point
  have hx := he.head hr
  have hfrac : spanDigits (fraction ++ (e ++ rest)) = (fraction, e ++ rest) :=
    spanDigits_append hf fun c hc => (hx c hc).1
  have hwhole : spanDigits (whole ++ (e ++ rest)) = (whole, e ++ rest) :=
    hw.span fun c hc => (hx c hc).1
  have hpoint (y : List Char) : spanDigits (whole ++ '.' :: y) = (whole, '.' :: y) :=
    hw.span fun c hc => by cases hc; decide
  have hds {ds : List Char} (h : Digits ds) : ds ≠ [] := h.nonempty
  cases he with
  | none =>
    cases rest with
    | nil => cases negative <;> cases fraction <;> simp_all [Numeral.scan, mantissa]
    | cons c r =>
      obtain ⟨-, -, he, hE⟩ := hr c rfl
      cases negative <;> cases fraction <;> simp_all [Numeral.scan, mantissa]
  | plain | up | down =>
    cases negative <;> cases fraction <;> simp_all [Numeral.scan, mantissa]

theorem Spells.head {n : Numeral} {t : List Char} (h : n.Spells t) :
    ∃ c r, t = c :: r ∧ (c = '-' ∨ c.isDigit = true) := by
  obtain ⟨hw, -, -, e, -, rfl⟩ := h
  obtain ⟨d, ds, hd⟩ := List.exists_cons_of_ne_nil hw.nonempty
  have hdigit : d.isDigit = true := hw.digits d (hd ▸ List.mem_cons_self)
  cases hn : n.negative with
  | true => exact ⟨'-', _, by simp [mantissa, hn]; rfl, .inl rfl⟩
  | false => exact ⟨d, _, by simp [mantissa, hn, hd]; rfl, .inr hdigit⟩

end Numeral

theorem Token.scan_numeral {c : Char} {r : List Char} (h : c = '-' ∨ c.isDigit = true) (n : Nat) :
    Token.scan n (c :: r) = (Numeral.scan (c :: r)).map fun (n, t) => (.number n, t) := by
  unfold Token.scan
  split
  case h_11 => rfl
  all_goals
    rename_i he
    cases he
    exact absurd h (by decide)

/-- A text starts with a token, behind which the rest stands. -/
structure Scans (s : List Char) (t : Token) (rest : List Char) : Prop where
  head : ∃ c, s.head? = some c ∧ isSpace c = false
  shorter : rest.length < s.length
  scan_eq : ∀ n, s.length ≤ n → Token.scan n s = some (t, rest)

def sign? : Char → Option Token
  | '\x7b' => some .openBrace
  | '\x7d' => some .closeBrace
  | '[' => some .openBracket
  | ']' => some .closeBracket
  | ',' => some .comma
  | ':' => some .colon
  | _ => none

namespace Scans

theorem sign {c : Char} {t : Token} (h : sign? c = some t) : Scans (c :: rest) t rest := by
  unfold sign? at h
  split at h <;> cases h
  all_goals exact ⟨⟨_, rfl, by decide⟩, by simp, fun _ _ => rfl⟩

theorem word_null : Scans ('n' :: 'u' :: 'l' :: 'l' :: rest) .null rest :=
  ⟨⟨_, rfl, by decide⟩, by simp only [List.length_cons]; omega, fun _ _ => rfl⟩

theorem word_true : Scans ('t' :: 'r' :: 'u' :: 'e' :: rest) (.bool true) rest :=
  ⟨⟨_, rfl, by decide⟩, by simp only [List.length_cons]; omega, fun _ _ => rfl⟩

theorem word_false : Scans ('f' :: 'a' :: 'l' :: 's' :: 'e' :: rest) (.bool false) rest :=
  ⟨⟨_, rfl, by decide⟩, by simp only [List.length_cons]; omega, fun _ _ => rfl⟩

theorem string {t : List Char} {s : Option (List Char)} (h : Quoted.Spells {} t s) :
    Scans ('"' :: (t ++ rest)) (.string s) rest where
  head := ⟨'"', rfl, by decide⟩
  shorter := by
    simp only [List.length_cons, List.length_append]
    omega
  scan_eq n hn := by
    simp only [List.length_cons, List.length_append] at hn
    change (scanString n {} (t ++ rest)).map _ = _
    rw [h.scanString (by omega)]
    rfl

theorem number {n : Numeral} {t : List Char} (h : n.Spells t) (hr : Delimited rest) :
    Scans (t ++ rest) (.number n) rest := by
  have hs := h.scan hr
  obtain ⟨c, r, rfl, hc⟩ := h.head
  refine ⟨⟨c, rfl, ?_⟩, by simp only [List.length_append, List.length_cons]; omega, fun k _ => ?_⟩
  · rcases hc with rfl | hc
    · rfl
    · simp only [isSpace, Bool.or_eq_false_iff, beq_eq_false_iff_ne]
      refine ⟨⟨⟨?_, ?_⟩, ?_⟩, ?_⟩ <;> rintro rfl <;> exact absurd hc (by decide)
  · rw [List.cons_append] at hs ⊢
    rw [Token.scan_numeral hc, hs]
    rfl

end Scans

mutual

/-- A text is a value, without blanks around it. -/
inductive Spells : Written → List Char → Prop where
  | null : Spells .null "null".toList
  | true : Spells (.bool .true) "true".toList
  | false : Spells (.bool .false) "false".toList
  | number {n : Numeral} {t : List Char} (h : n.Spells t) : Spells (.number n) t
  | string {s : Option (List Char)} {t : List Char} (h : Quoted.Spells {} t s) :
      Spells (.string s) ('"' :: t)
  | emptyArray {b : List Char} (hb : Blank b) : Spells (.array []) ('[' :: (b ++ [']']))
  | array {items : List Written} {t : List Char} (h : SpellsItems items t) :
      Spells (.array items) ('[' :: (t ++ [']']))
  | emptyObject {b : List Char} (hb : Blank b) :
      Spells (.object []) ('\x7b' :: (b ++ ['\x7d']))
  | object {members : List (Option (List Char) × Written)} {t : List Char}
      (h : SpellsMembers members t) : Spells (.object members) ('\x7b' :: (t ++ ['\x7d']))

inductive SpellsPadded : Written → List Char → Prop where
  | mk {v : Written} {a t b : List Char} (ha : Blank a) (h : Spells v t) (hb : Blank b) :
      SpellsPadded v (a ++ (t ++ b))

inductive SpellsItems : List Written → List Char → Prop where
  | last {v : Written} {t : List Char} (h : SpellsPadded v t) : SpellsItems [v] t
  | cons {v : Written} {items : List Written} {t u : List Char} (h : SpellsPadded v t)
      (hs : SpellsItems items u) : SpellsItems (v :: items) (t ++ ',' :: u)

inductive SpellsMember : Option (List Char) → Written → List Char → Prop where
  | mk {name : Option (List Char)} {v : Written} {a k b t : List Char} (ha : Blank a)
      (hk : Quoted.Spells {} k name) (hb : Blank b) (h : SpellsPadded v t) :
      SpellsMember name v (a ++ '"' :: (k ++ (b ++ ':' :: t)))

inductive SpellsMembers : List (Option (List Char) × Written) → List Char → Prop where
  | last {name : Option (List Char)} {v : Written} {t : List Char} (h : SpellsMember name v t) :
      SpellsMembers [(name, v)] t
  | cons {name : Option (List Char)} {v : Written}
      {members : List (Option (List Char) × Written)} {t u : List Char}
      (h : SpellsMember name v t) (hs : SpellsMembers members u) :
      SpellsMembers ((name, v) :: members) (t ++ ',' :: u)

end

theorem SpellsPadded.bare {v : Written} {t : List Char} (h : Spells v t) : SpellsPadded v t := by
  have hp := SpellsPadded.mk blank_nil h blank_nil
  rwa [List.append_nil] at hp

/-- From some point on a text is read to its end as a tree. -/
def Progress.Reads (p : Progress) (s : List Char) (w : Written) : Prop :=
  ∀ n, s.length < n → readTokens n p s = some w

/-- From some point on a text cannot be read to its end. -/
def Progress.Stuck (p : Progress) (s : List Char) : Prop :=
  ∀ n, s.length < n → readTokens n p s = none

/-- What is read from a text is what is read from the rest of it, further on. -/
def Progress.Goes (p : Progress) (s : List Char) (q : Progress) (rest : List Char) : Prop :=
  ∀ n, s.length < n → ∃ k, rest.length < k ∧ readTokens n p s = readTokens k q rest

namespace Progress

variable {p q : Progress} {s b : List Char} {w : Written} {t : Token} {open_ : List Container}
  {mayClose : Bool}

/-- What reads a token goes on behind it. -/
theorem Goes.of_scans (hs : Scans s t rest) (hp : p.step t = some q) : p.Goes s q rest := by
  intro n hn
  obtain ⟨c, hc, hb⟩ := hs.head
  obtain ⟨r, rfl⟩ : ∃ r, s = c :: r := by
    cases s with
    | nil => cases hc
    | cons d r => exact ⟨r, by cases hc; rfl⟩
  cases n with
  | zero => omega
  | succ n =>
    have hl := hs.shorter
    have hd : (c :: r).dropWhile isSpace = c :: r := by simp [hb]
    refine ⟨n, by omega, ?_⟩
    rw [readTokens, hd]
    simp only [hs.scan_eq n (by omega), hp]

theorem Goes.of_sign {c : Char} (hc : sign? c = some t) (hp : p.step t = some q) :
    p.Goes (c :: rest) q rest := of_scans (.sign hc) hp

theorem Goes.trans {r : Progress} {u : List Char} (h : p.Goes s q u) (hq : q.Goes u r rest) :
    p.Goes s r rest := by
  intro n hn
  obtain ⟨k, hk, he⟩ := h n hn
  obtain ⟨l, hl, hr⟩ := hq k hk
  exact ⟨l, hl, he.trans hr⟩

theorem Reads.of_goes (hg : p.Goes s q rest) (h : q.Reads rest w) : p.Reads s w := by
  intro n hn
  obtain ⟨k, hk, he⟩ := hg n hn
  exact he.trans (h k hk)

theorem Stuck.of_goes (hg : p.Goes s q rest) (h : q.Stuck rest) : p.Stuck s := by
  intro n hn
  obtain ⟨k, hk, he⟩ := hg n hn
  exact he.trans (h k hk)

theorem Reads.of_scans (hs : Scans s t rest) (hp : p.step t = some q) (h : q.Reads rest w) :
    p.Reads s w := .of_goes (.of_scans hs hp) h

theorem Reads.of_sign {c : Char} (hc : sign? c = some t) (hp : p.step t = some q)
    (h : q.Reads rest w) : p.Reads (c :: rest) w :=
  of_scans (.sign hc) hp h

theorem step_value (ht : t ≠ .closeBracket) :
    step ⟨open_, .value mayClose⟩ t = start open_ t := by
  unfold step
  split
  · rename_i h
    cases h
    split
    · exact absurd rfl ht
    · rfl
  all_goals
    rename_i h
    cases h

theorem Reads.of_blank (hb : Blank b) (h : p.Reads s w) : p.Reads (b ++ s) w := by
  intro n hn
  have hd : (b ++ s).dropWhile isSpace = s.dropWhile isSpace := by
    rw [List.dropWhile_append_of_pos hb]
  rw [List.length_append] at hn
  rw [← h n (by omega)]
  cases n with
  | zero => rfl
  | succ n => rw [readTokens, readTokens, hd]

end Progress

theorem delimited_of_sign {c : Char} {t : Token} (h : sign? c = some t) (r : List Char) :
    Delimited (c :: r) := by
  rintro d hd
  cases hd
  unfold sign? at h
  split at h <;> cases h
  all_goals decide

theorem Delimited.of_blank {b : List Char} (hb : Blank b) (h : Delimited rest) :
    Delimited (b ++ rest) := by
  cases b with
  | nil => exact h
  | cons c b =>
    rintro d hd
    cases hd
    have := hb c List.mem_cons_self
    simp only [isSpace, Bool.or_eq_true, beq_iff_eq] at this
    rcases this with ((rfl | rfl) | rfl) | rfl <;> decide

open Progress

variable {w : Written}

mutual

/-- Where a value is expected, a value is read as its tree. -/
theorem Spells.reads {v : Written} {t rest : List Char} {open_ : List Container} {mayClose : Bool}
    (h : Spells v t) (hr : Delimited rest) (hv : Reads ⟨open_, .separator v⟩ rest w) :
    Reads ⟨open_, .value mayClose⟩ (t ++ rest) w := by
  match h with
  | .null => exact .of_scans .word_null (step_value nofun) hv
  | .true => exact .of_scans .word_true (step_value nofun) hv
  | .false => exact .of_scans .word_false (step_value nofun) hv
  | .number h => exact .of_scans (.number h hr) (step_value nofun) hv
  | .string h => exact .of_scans (.string h) (step_value nofun) hv
  | .emptyArray hb =>
    rw [List.cons_append, List.append_assoc]
    exact .of_sign rfl (step_value nofun) (.of_blank hb (.of_sign rfl rfl hv))
  | .array h =>
    rw [List.cons_append, List.append_assoc]
    exact .of_sign rfl (step_value nofun) (h.reads [] hv)
  | .emptyObject hb =>
    rw [List.cons_append, List.append_assoc]
    exact .of_sign rfl (step_value nofun) (.of_blank hb (.of_sign rfl rfl hv))
  | .object h =>
    rw [List.cons_append, List.append_assoc]
    exact .of_sign rfl (step_value nofun) (h.reads [] hv)

theorem SpellsPadded.reads {v : Written} {t rest : List Char} {open_ : List Container}
    {mayClose : Bool} (h : SpellsPadded v t) (hr : Delimited rest)
    (hv : Reads ⟨open_, .separator v⟩ rest w) : Reads ⟨open_, .value mayClose⟩ (t ++ rest) w := by
  match h with
  | .mk ha h hb =>
    rw [List.append_assoc, List.append_assoc]
    exact .of_blank ha (h.reads (hr.of_blank hb) (.of_blank hb hv))

theorem SpellsItems.reads {items : List Written} {t rest : List Char} {open_ : List Container}
    {mayClose : Bool} (h : SpellsItems items t) (done : List Written)
    (hv : Reads ⟨open_, .separator (.array (done.reverse ++ items))⟩ rest w) :
    Reads ⟨.array done :: open_, .value mayClose⟩ (t ++ ']' :: rest) w := by
  match h with
  | .last h =>
    refine h.reads (delimited_of_sign rfl rest) (.of_sign rfl rfl ?_)
    rwa [List.reverse_cons]
  | .cons h hs =>
    rw [List.append_assoc, List.cons_append]
    refine h.reads (delimited_of_sign rfl _) (.of_sign rfl rfl (hs.reads (_ :: done) ?_))
    rwa [List.reverse_cons, List.append_assoc]

theorem SpellsMember.reads {name : Option (List Char)} {v : Written} {t rest : List Char}
    {open_ : List Container} {mayClose : Bool} (h : SpellsMember name v t)
    (done : List (Option (List Char) × Written)) (hr : Delimited rest)
    (hv : Reads ⟨.object done name :: open_, .separator v⟩ rest w) :
    Reads ⟨open_, .name done mayClose⟩ (t ++ rest) w := by
  match h with
  | .mk ha hk hb h =>
    simp only [List.append_assoc, List.cons_append]
    refine .of_blank ha (.of_scans (.string hk) rfl (.of_blank hb (.of_sign rfl rfl ?_)))
    exact h.reads hr hv

theorem SpellsMembers.reads {members : List (Option (List Char) × Written)} {t rest : List Char}
    {open_ : List Container} {mayClose : Bool} (h : SpellsMembers members t)
    (done : List (Option (List Char) × Written))
    (hv : Reads ⟨open_, .separator (.object (done.reverse ++ members))⟩ rest w) :
    Reads ⟨open_, .name done mayClose⟩ (t ++ '\x7d' :: rest) w := by
  match h with
  | .last h =>
    refine h.reads done (delimited_of_sign rfl rest) (.of_sign rfl rfl ?_)
    rwa [List.reverse_cons]
  | .cons h hs =>
    rw [List.append_assoc, List.cons_append]
    refine h.reads done (delimited_of_sign rfl _)
      (.of_sign rfl rfl (hs.reads (_ :: done) ?_))
    rwa [List.reverse_cons, List.append_assoc]

end

/-- A text of the grammar is read as its tree. -/
theorem SpellsPadded.parse? {t : List Char} (h : SpellsPadded w t) :
    Written.parse? t = some w := by
  have he : Reads ⟨[], .separator w⟩ [] w := by
    intro n hn
    obtain ⟨n, rfl⟩ := Nat.exists_eq_succ_of_ne_zero (Nat.ne_of_gt hn)
    rfl
  have hr : Reads ⟨[], .value false⟩ (t ++ []) w := h.reads (fun _ hc => nomatch hc) he
  rw [List.append_nil] at hr
  exact hr _ (Nat.lt_succ_self _)

end Catalog.Json
