import Catalog.Proofs.Json.Record
import Catalog.Proofs.Rule.Fragment
import Catalog.Proofs.Rule.Grouping
import Catalog.Proofs.Rule.Split

/-! # Assignments behind a query

A rule may set variables: behind a query stands `@put:` and an object that is printed as JSON, which
gives the names of the variables and the rules of their values. Splitting counts the braces of the
object, but the object itself is found as a pair of braces with no brace between them. It is found
exactly if no name and no rule in it holds a brace.
-/

namespace Catalog.Rule

open Text Json

variable {s t y z : List Char} {b c : Char}

def isBrace (c : Char) : Bool := c == '\x7b' || c == '\x7d'

def Braceless (s : List Char) : Prop := ∀ c ∈ s, isBrace c = false

instance (s : List Char) : Decidable (Braceless s) :=
  List.decidableBAll (fun c => isBrace c = false) s

/-- A query of the default dialect, in which nothing separates, nests, starts a script or cuts off a
replacement. -/
structure BareQuery (t : List Char) : Prop extends Plain t where
  nonempty : t ≠ []
  trimmed : trim t = t
  hash : '#' ∉ t
  dialect : (detectDialect t).1 = .default

instance (t : List Char) : Decidable (BareQuery t) :=
  decidable_of_iff (Plain t ∧ t ≠ [] ∧ trim t = t ∧ '#' ∉ t ∧ (detectDialect t).1 = .default)
    ⟨fun ⟨hp, hn, ht, hh, hd⟩ => ⟨hp, hn, ht, hh, hd⟩,
      fun ⟨hp, hn, ht, hh, hd⟩ => ⟨hp, hn, ht, hh, hd⟩⟩

/-- A query and, behind `@put:`, the object of the variables that are set before it is read. -/
def assigning (t : List Char) (entries : List (String × String)) : List Char :=
  t ++ ("@put:".toList ++ (Value.object (entries.map fun e => (e.1, .string e.2))).render)

theorem isBrace_iff : isBrace c = true ↔ c = '\x7b' ∨ c = '\x7d' := by
  simp [isBrace]

@[simp]
theorem braceless_nil : Braceless [] := by simp [Braceless]

@[simp]
theorem braceless_cons : Braceless (c :: s) ↔ isBrace c = false ∧ Braceless s :=
  List.forall_mem_cons

@[simp]
theorem braceless_append : Braceless (s ++ t) ↔ Braceless s ∧ Braceless t := List.forall_mem_append

theorem exists_brace (h : ¬Braceless s) :
    ∃ u b v, s = u ++ b :: v ∧ Braceless u ∧ isBrace b = true := by
  induction s with
  | nil => exact absurd braceless_nil h
  | cons c s ih =>
    cases hc : isBrace c with
    | true => exact ⟨[], c, s, rfl, braceless_nil, hc⟩
    | false =>
      obtain ⟨u, b, v, rfl, hu, hb⟩ := ih fun hs => h (braceless_cons.mpr ⟨hc, hs⟩)
      exact ⟨c :: u, b, v, rfl, braceless_cons.mpr ⟨hc, hu⟩, hb⟩

theorem escapeChar_brace (h : isBrace c = true) : escapeChar c = [c] := by
  rcases isBrace_iff.mp h with rfl | rfl <;> rfl

theorem isBrace_hexDigit : ∀ n < 16, isBrace (hexDigit n) = false := by decide

theorem braceless_escapeChar (h : isBrace c = false) : Braceless (escapeChar c) := by
  by_cases hs : c ∈ shortEscaped
  · simp only [shortEscaped, List.mem_cons, List.not_mem_nil, or_false] at hs
    rcases hs with rfl | rfl | rfl | rfl | rfl | rfl | rfl <;> decide
  · simp only [shortEscaped, List.mem_cons, List.not_mem_nil, or_false, not_or] at hs
    simp only [escapeChar, beq_iff_eq, hs, if_false]
    split
    · have hx := isBrace_hexDigit (c.toNat / 16) (by omega)
      have hy := isBrace_hexDigit (c.toNat % 16) (by omega)
      simp only [braceless_cons, hx, hy, braceless_nil, and_true]
      decide
    · simpa using h

theorem braceless_escaped (h : Braceless s) : Braceless (s.flatMap escapeChar) := by
  intro c hc
  obtain ⟨d, hd, hc⟩ := List.mem_flatMap.mp hc
  exact braceless_escapeChar (h d hd) c hc

theorem braceless_quote {s : String} (h : Braceless s.toList) : Braceless (quote s) := by
  simp only [quote, braceless_append, braceless_cons, braceless_escaped h, braceless_nil, and_true]
  decide

theorem exists_brace_quote {s : String} (h : ¬Braceless s.toList) :
    ∃ u b v, quote s = '"' :: (u.flatMap escapeChar ++ b :: v) ∧ Braceless u ∧
      isBrace b = true := by
  obtain ⟨u, b, v, hs, hu, hb⟩ := exists_brace h
  refine ⟨u, b, v.flatMap escapeChar ++ ['"'], ?_, hu, hb⟩
  simp [quote, hs, escapeChar_brace hb]

section

variable {entries : List (String × String)}

theorem braceless_members (h : ∀ e ∈ entries, Braceless e.1.toList ∧ Braceless e.2.toList) :
    Braceless (renderMembers (entries.map fun e => (e.1, .string e.2))) := by
  have hc : isBrace ':' = false ∧ isBrace ',' = false := by decide
  induction entries with
  | nil => exact braceless_nil
  | cons e entries ih =>
    obtain ⟨⟨hn, hv⟩, hr⟩ := List.forall_mem_cons.mp h
    have hr := ih hr
    cases entries with
    | nil =>
      simp [renderMembers, Value.render, braceless_quote hn, braceless_quote hv, hc]
    | cons f entries =>
      simp only [List.map_cons] at hr ⊢
      simp [renderMembers, Value.render, braceless_quote hn, braceless_quote hv, hc, hr]

theorem renderMembers_cons (name : String) (v : Value) (members : List (String × Value)) :
    ∃ more, renderMembers ((name, v) :: members) = quote name ++ ':' :: (v.render ++ more) := by
  cases members with
  | nil => exact ⟨[], by simp [renderMembers]⟩
  | cons m members => exact ⟨',' :: renderMembers (m :: members), by simp [renderMembers]⟩

/-- The first brace in printed members stands in a text, so that members which are cut off in front
of it are not closed by a brace. -/
theorem exists_brace_members (h : ¬∀ e ∈ entries, Braceless e.1.toList ∧ Braceless e.2.toList) :
    ∃ y b z, renderMembers (entries.map fun e => (e.1, .string e.2)) = y ++ b :: z ∧
      Braceless y ∧ isBrace b = true ∧
      ∀ open_ done mayClose, Progress.Stuck ⟨open_, .name done mayClose⟩ (y ++ ['\x7d']) := by
  induction entries with
  | nil => exact absurd (fun e he => nomatch he) h
  | cons e entries ih =>
    obtain ⟨more, hm⟩ := renderMembers_cons e.1 (.string e.2)
      (entries.map fun e => (e.1, .string e.2))
    rw [List.map_cons]
    -- the first brace is in the name, in the text behind it or in a later member
    by_cases hn : Braceless e.1.toList
    · by_cases hv : Braceless e.2.toList
      · obtain ⟨y, b, z, hr, hy, hb, hs⟩ :=
          ih fun hall => h (List.forall_mem_cons.mpr ⟨⟨hn, hv⟩, hall⟩)
        cases entries with
        | nil => simp [renderMembers] at hr
        | cons f entries =>
        refine ⟨quote e.1 ++ ':' :: (quote e.2 ++ ',' :: y), b, z, ?_, ?_, hb, ?_⟩
        · simp only [List.map_cons] at hr
          simp [renderMembers, Value.render, hr]
        · simp only [braceless_append, braceless_cons, braceless_quote hn, braceless_quote hv, hy]
          decide
        · intro open_ done mayClose
          simp only [List.append_assoc, List.cons_append]
          exact .of_goes (.of_name e.1 done)
            (.of_goes (.of_scans (.quote e.2) (Progress.step_value nofun))
              (.of_goes (.of_sign rfl rfl) (hs open_ _ false)))
      · obtain ⟨u, b, v, hq, hu, hb⟩ := exists_brace_quote hv
        refine ⟨quote e.1 ++ ':' :: '"' :: u.flatMap escapeChar, b, v ++ more, ?_, ?_, hb, ?_⟩
        · simp [hm, Value.render, hq]
        · simp only [braceless_append, braceless_cons, braceless_quote hn, braceless_escaped hu]
          decide
        · intro open_ done mayClose
          rw [List.append_assoc]
          refine .of_goes (.of_name e.1 done) ?_
          exact .of_unclosed (by decide) (by decide) (by decide) u
    · obtain ⟨u, b, v, hq, hu, hb⟩ := exists_brace_quote hn
      refine ⟨'"' :: u.flatMap escapeChar, b, v ++ ':' :: (quote e.2 ++ more), ?_, ?_, hb, ?_⟩
      · simp [hm, Value.render, hq]
      · simp only [braceless_cons, braceless_escaped hu]
        decide
      · intro open_ done mayClose
        exact .of_unclosed (by decide) (by decide) (by decide) u

end

theorem parse?_eq_none {y : List Char}
    (h : ∀ open_ done mayClose, Progress.Stuck ⟨open_, .name done mayClose⟩ (y ++ ['\x7d'])) :
    Value.parse? ('\x7b' :: y ++ ['\x7d']) = none := by
  have hs : Progress.Stuck ⟨[], .value false⟩ ('\x7b' :: y ++ ['\x7d']) :=
    .of_goes (.of_sign rfl rfl) (h [] [] true)
  rw [Value.parse?, Written.parse?, hs _ (Nat.lt_succ_self _), Option.bind_none]

/-- While a brace is open nothing is cut up to the next brace, in a script or not. -/
theorem exists_marks (hy : Braceless y) (hb : isBrace b = true) {depth : Nat} (hd : 0 < depth)
    (script : Bool) (z : List Char) :
    ∃ depth' script', marks depth script (y ++ b :: z) =
      (y ++ [b]).map .char ++ marks depth' script' z := by
  have ho : b ∉ scriptOpen := by rcases isBrace_iff.mp hb with rfl | rfl <;> decide
  have hc : b ∉ scriptClose := by rcases isBrace_iff.mp hb with rfl | rfl <;> decide
  induction hl : y.length using Nat.strongRecOn generalizing y script with
  | ind n ih =>
    -- a script tag holds no brace, so it ends in front of `b`
    have htag : ∀ {tag : List Char} (next : Bool), tag ≠ [] → b ∉ tag →
        (∀ s, marks depth script (tag ++ s) = tag.map .char ++ marks depth next s) →
        tag <+: y ++ b :: z → ∃ depth' script', marks depth script (y ++ b :: z) =
          (y ++ [b]).map .char ++ marks depth' script' z := by
      intro tag next hne ht hm hp
      obtain ⟨r, rfl⟩ := prefix_of_append_cons hp ht
      have hlt : r.length < n := by
        have hpos := List.length_pos_iff.mpr hne
        rw [List.length_append] at hl
        omega
      obtain ⟨depth', script', hr⟩ := ih r.length hlt (braceless_append.mp hy).2 next rfl
      refine ⟨depth', script', ?_⟩
      rw [List.append_assoc, hm, hr, ← List.append_assoc, ← List.map_append, ← List.append_assoc]
    cases script with
    | true =>
      by_cases hp : scriptClose <+: y ++ b :: z
      · exact htag false (List.cons_ne_nil _ _) hc (marks_close depth) hp
      · cases y with
        | nil => exact ⟨depth, true, marks_inside hp⟩
        | cons c y =>
          obtain ⟨-, hy⟩ := braceless_cons.mp hy
          obtain ⟨depth', script', hm⟩ := ih y.length (by simp [← hl]) hy true rfl
          refine ⟨depth', script', ?_⟩
          rw [List.cons_append] at hp ⊢
          rw [marks_inside hp, hm]
          rfl
    | false =>
      by_cases hp : scriptOpen <+: y ++ b :: z
      · exact htag true (List.cons_ne_nil _ _) ho (marks_open depth) hp
      · cases y with
        | nil =>
          refine ⟨braceDepth depth b, false, marks_char hp (by omega) fun _ => ?_⟩
          rcases isBrace_iff.mp hb with rfl | rfl <;> rfl
        | cons c y =>
          obtain ⟨hn, hy⟩ := braceless_cons.mp hy
          have hdc : braceDepth depth c = depth := by
            simp only [isBrace, Bool.or_eq_false_iff] at hn
            simp only [braceDepth, hn, Bool.false_eq_true, if_false]
          obtain ⟨depth', script', hm⟩ := ih y.length (by simp [← hl]) hy false rfl
          refine ⟨depth', script', ?_⟩
          rw [List.cons_append] at hp ⊢
          rw [marks_char hp (by omega) (by omega), hdc, hm]
          rfl

theorem exists_marks_assigning (ht : Plain t) (hy : Braceless y) (hb : isBrace b = true)
    (z : List Char) :
    ∃ depth script, marks 0 false (t ++ ("@put:\x7b".toList ++ (y ++ b :: z))) =
      (t ++ ("@put:\x7b".toList ++ (y ++ [b]))).map .char ++ marks depth script z := by
  have hclear : Clear t ("@put:\x7b".toList ++ (y ++ b :: z)) := by
    refine ht.clear ?_
    rintro d _ - ⟨⟩ mark hm hi
    have ha : '@' ∈ mark.tail := mem_tail_of_pair hi
    simp only [stops, List.mem_cons, List.not_mem_nil, or_false] at hm
    rcases hm with rfl | rfl | rfl | rfl <;> exact absurd ha (by decide)
  have hput : Clear ['@', 'p', 'u', 't', ':'] ('\x7b' :: (y ++ b :: z)) := by
    refine .cons (by decide) (by decide) (by simp [scriptOpen]) (by simp [scriptMark]) rfl ?_
    iterate 4 refine .cons_of_notMem (by decide) ?_
    exact .nil
  have hopen : marks 0 false ('\x7b' :: (y ++ b :: z)) =
      .char '\x7b' :: marks 1 false (y ++ b :: z) :=
    marks_char (by simp [scriptOpen]) (by simp [scriptMark]) (by simp [braceDepth])
  obtain ⟨depth, script, hm⟩ := exists_marks hy hb Nat.one_pos false z
  refine ⟨depth, script, ?_⟩
  have hp : "@put:\x7b".toList ++ (y ++ b :: z) =
      ['@', 'p', 'u', 't', ':'] ++ '\x7b' :: (y ++ b :: z) := rfl
  rw [hclear, hp, hput, hopen, hm]
  simp

theorem pieces_chars_append {ms : List Mark} (hm : .cut .first ∉ ms) (link : Link)
    (s : List Char) : ∃ p rest, pieces link (s.map .char ++ ms) = (link, s ++ p) :: rest := by
  induction s with
  | nil =>
    obtain ⟨p, rest, hp, -⟩ := pieces_links hm link
    exact ⟨p, rest, hp⟩
  | cons c s ih =>
    obtain ⟨p, rest, hp⟩ := ih
    exact ⟨p, rest, by simp only [List.map_cons, List.cons_append, pieces, hp]⟩

theorem putObject?_brace (hy : Braceless y) (hb : isBrace b = true) (z : List Char) :
    putObject? ("@put:\x7b".toList ++ (y ++ b :: z)) =
      if b = '\x7d' then some ('\x7b' :: y ++ ['\x7d'], z) else none := by
  have ht : (y ++ b :: z).takeWhile (fun c => c != '\x7b' && c != '\x7d') = y := by
    rw [List.takeWhile_append_of_pos]
    · rcases isBrace_iff.mp hb with rfl | rfl <;> simp
    · intro c hc
      have hn := hy c hc
      simpa [isBrace] using hn
  have hp : "@put:".toList.isPrefixOf? ("@put:\x7b".toList ++ (y ++ b :: z)) =
      some ('\x7b' :: (y ++ b :: z)) := rfl
  simp only [putObject?, hp, ht, List.drop_left]
  rcases isBrace_iff.mp hb with rfl | rfl <;> rfl

theorem takePuts_append (ht : '\x7b' ∉ t) (n : Nat) (s : List Char) :
    takePuts (t.length + n) (t ++ '@' :: s) =
      ((takePuts n ('@' :: s)).1, t ++ (takePuts n ('@' :: s)).2) := by
  induction t with
  | nil => simp
  | cons c t ih =>
    have hc := ih fun hm => ht (List.mem_cons_of_mem c hm)
    have hn : putObject? (c :: (t ++ '@' :: s)) = none := by
      rw [Option.eq_none_iff_forall_ne_some]
      rintro ⟨object, rest⟩ hp
      obtain ⟨inner, -, -, rfl, hs⟩ := putObject?_eq_some hp
      have hq : "@put:\x7b".toList <+: c :: t := by
        have hi : "@put:\x7b".toList <+: (c :: t) ++ '@' :: s :=
          ⟨inner ++ ['\x7d'] ++ rest, by rw [List.cons_append, hs]; simp⟩
        refine prefix_of_prefix_append hi (List.cons_ne_nil c t) ?_
        rintro d _ - ⟨⟩ hi
        exact absurd (mem_tail_of_pair hi) (by decide)
      exact ht (hq.subset (by simp))
    rw [List.length_cons, Nat.add_right_comm, List.cons_append, takePuts]
    simp only [hn, hc]
    rfl

theorem takePuts_mark (ht : '\x7b' ∉ t) (s : List Char) :
    ∃ n, takePuts (t ++ '@' :: s).length (t ++ '@' :: s) =
      match putObject? ('@' :: s) with
      | some (object, z) => (object :: (takePuts n z).1, t ++ (takePuts n z).2)
      | none => ((takePuts n s).1, t ++ '@' :: (takePuts n s).2) := by
  refine ⟨s.length, ?_⟩
  rw [List.length_append, List.length_cons, takePuts_append ht, takePuts]
  cases putObject? ('@' :: s) <;> rfl

theorem assignments_texts (rule : String) (entries : List (String × String)) :
    assignments rule (entries.map fun e => (e.1, .string e.2)) = .ok entries := by
  induction entries with
  | nil => rfl
  | cons e entries ih =>
    rw [List.map_cons, assignments, ih]
    rfl

theorem splitReplacement_bare (h : BareQuery t) : splitReplacement t = .ok (t, none) := by
  rw [splitReplacement, cutAt?_eq_none (by decide) fun hi => h.hash (hi.subset (by simp)),
    h.trimmed]

theorem text_of_splitReplacement {text : List Char} {replacement : Option Replacement}
    (h : splitReplacement s = .ok (text, replacement)) :
    text = trim (((cutAt? ['#', '#'] s).map Prod.fst).getD s) := by
  unfold splitReplacement at h
  split at h
  · next hc =>
    rw [hc]
    cases h
    rfl
  · next a tail hc =>
    have hr : ∀ r : Except Error Replacement,
        (r >>= fun r => .ok (trim a, some r)) = .ok (text, replacement) → text = trim a := by
      rintro (e | r) h <;> cases h
      rfl
    rw [hc]
    dsimp only at h
    split at h <;> split at h
    · cases h; rfl
    · exact hr _ h
    · cases h; rfl
    · exact hr _ h

theorem prefix_of_splitReplacement {u r text : List Char} {replacement : Option Replacement}
    (hu : Trimmed u) (hn : u ≠ []) (hh : '#' ∉ u)
    (h : splitReplacement (u ++ r) = .ok (text, replacement)) : u <+: text := by
  have ht := text_of_splitReplacement h
  rw [cutAt?_append_of_notMem hh] at ht
  cases hc : cutAt? ['#', '#'] r with
  | none =>
    rw [hc] at ht
    exact ⟨trimEnd r, by rw [ht, ← hu.trim_append hn]; rfl⟩
  | some cut =>
    rw [hc] at ht
    exact ⟨trimEnd cut.1, by rw [ht, ← hu.trim_append hn]; rfl⟩

theorem takePuts_nil (n : Nat) : takePuts n [] = ([], []) := by cases n <;> rfl

theorem readFragment_assigning (h : BareQuery t) {entries : List (String × String)}
    (hb : ∀ e ∈ entries, Braceless e.1.toList ∧ Braceless e.2.toList) (link : Link) :
    readFragment link (assigning t entries) =
      .ok (some ⟨.default, String.ofList t, link, sortMembers entries, none⟩) := by
  let object := (Value.object (entries.map fun e => (e.1, .string e.2))).render
  have hp : putObject? ('@' :: ("put:".toList ++ object)) = some (object, []) := by
    have ho : object =
        '\x7b' :: renderMembers (entries.map fun e => (e.1, .string e.2)) ++ ['\x7d'] := by
      rw [← Value.render]
    rw [ho]
    exact putObject?_brace (braceless_members hb) (by decide) []
  have ht : takePuts (assigning t entries).length (assigning t entries) = ([object], t) := by
    obtain ⟨n, hn⟩ := takePuts_mark h.opening ("put:".toList ++ object)
    simp only [hp, takePuts_nil, List.append_nil] at hn
    exact hn
  have hd : detectDialect t = (.default, t) := (undialected_of_default h.dialect).2
  have hne : t.isEmpty = false := by simpa using h.nonempty
  have hj : Value.parse? object =
      some (.object ((sortMembers entries).map fun e => (e.1, .string e.2))) := by
    rw [← sortMembers_map]
    exact Value.parse?_texts entries
  unfold readFragment
  simp only [ht, readPuts, hj, assignments_texts, h.trimmed, hd, reduceCtorEq, if_false,
    splitReplacement_bare h, bind, Except.bind, pure, Except.pure, hne, Bool.false_and,
    Bool.false_eq_true, List.append_nil]

theorem readFragment_closed (h : BareQuery t) (hy : Braceless y)
    (hj : Value.parse? ('\x7b' :: y ++ ['\x7d']) = none) (link : Link) (z : List Char)
    (o : Option Fragment) :
    readFragment link (t ++ '@' :: ("put:\x7b".toList ++ (y ++ '\x7d' :: z))) ≠ .ok o := by
  have hp : putObject? ('@' :: ("put:\x7b".toList ++ (y ++ '\x7d' :: z))) =
      some ('\x7b' :: y ++ ['\x7d'], z) := putObject?_brace hy (by decide) z
  obtain ⟨n, hn⟩ := takePuts_mark h.opening ("put:\x7b".toList ++ (y ++ '\x7d' :: z))
  simp only [hp] at hn
  intro ho
  simp only [readFragment, hn, readPuts, hj] at ho
  cases ho

namespace BareQuery

variable (h : BareQuery t)
include h

theorem trimmed_mark : Trimmed (t ++ ['@']) := by
  obtain ⟨hf, -⟩ := trimmed_iff.mpr h.trimmed
  refine ⟨head_append hf ?_, fun c hc => ?_⟩
  · rintro _ ⟨⟩
    decide
  · obtain rfl : '@' = c := by simpa using hc
    decide

theorem trim_mark (r : List Char) : trim (t ++ '@' :: r) = t ++ '@' :: trimEnd r := by
  have hr := h.trimmed_mark.trim_append (by simp) r
  rwa [List.append_assoc, List.append_assoc] at hr

theorem detectDialect_mark (r : List Char) :
    detectDialect (t ++ '@' :: r) = (.default, t ++ '@' :: r) ∨
      ∃ body, detectDialect (t ++ '@' :: r) = (.script, body) ∧ body ≠ [] := by
  have hr : ∀ c, ('@' :: r).head? = some c → c = '#' ∨ c = '@' := by
    rintro _ ⟨⟩
    exact .inr rfl
  have hd := detectDialect_append h.nonempty (undialected_of_default h.dialect).1 hr
  cases hb : scriptBody? (t ++ '@' :: r) with
  | none =>
    rw [hb] at hd
    exact .inl hd
  | some body =>
    rw [hb] at hd
    obtain ⟨o, c, hs, ho, hc⟩ := exists_of_scriptBody? hb
    have ha : '@' ∈ o ++ (body ++ c) := hs ▸ by simp
    have hbody : '@' ∈ body := by
      simp only [List.mem_append] at ha
      rcases ha with ha | ha | ha
      · exact absurd (mem_of_isScriptTag ho ha) (by decide)
      · exact ha
      · exact absurd (mem_of_isScriptTag hc ha) (by decide)
    exact .inr ⟨trim body, hd, List.ne_nil_of_mem (mem_trim hbody (by decide))⟩

theorem length_lt_text {r text : List Char} {replacement : Option Replacement}
    (hs : splitReplacement (t ++ '@' :: r) = .ok (text, replacement)) : t.length < text.length := by
  have hh : '#' ∉ t ++ ['@'] := by simp [h.hash]
  have hp : t ++ ['@'] <+: text :=
    prefix_of_splitReplacement (r := r) h.trimmed_mark (by simp) hh (by simpa using hs)
  exact Nat.lt_of_succ_le (by simpa using hp.length_le)

end BareQuery

/-- A piece in whose object another brace opens has another text, or is no query. -/
theorem readFragment_opened (h : BareQuery t) (hy : Braceless y) (link : Link) (z : List Char)
    {o : Option Fragment}
    (ho : readFragment link (t ++ '@' :: ("put:\x7b".toList ++ (y ++ '\x7b' :: z))) = .ok o) :
    ∃ f, o = some f ∧ ¬(f.dialect = .default ∧ f.text = String.ofList t) := by
  have hp : putObject? ('@' :: ("put:\x7b".toList ++ (y ++ '\x7b' :: z))) = none :=
    putObject?_brace hy (by decide) z
  obtain ⟨objects, r, hr⟩ : ∃ objects r,
      takePuts (t ++ '@' :: ("put:\x7b".toList ++ (y ++ '\x7b' :: z))).length
        (t ++ '@' :: ("put:\x7b".toList ++ (y ++ '\x7b' :: z))) = (objects, t ++ '@' :: r) := by
    obtain ⟨n, hn⟩ := takePuts_mark h.opening ("put:\x7b".toList ++ (y ++ '\x7b' :: z))
    simp only [hp] at hn
    exact ⟨_, _, hn⟩
  simp only [readFragment, hr, h.trim_mark, bind, Except.bind, pure, Except.pure] at ho
  split at ho
  · cases ho
  · rcases h.detectDialect_mark (trimEnd r) with hd | ⟨body, hd, hb⟩
    · simp only [hd, reduceCtorEq, if_false] at ho
      cases hs : splitReplacement (t ++ '@' :: trimEnd r) with
      | error e =>
        rw [hs] at ho
        cases ho
      | ok v =>
        have hl : t.length < v.1.length := h.length_lt_text hs
        have hne : v.1.isEmpty = false := by
          simpa using List.ne_nil_of_length_pos (Nat.zero_lt_of_lt hl)
        simp only [hs, hne, Bool.false_and, Bool.false_eq_true, if_false] at ho
        cases ho
        refine ⟨_, rfl, ?_⟩
        rintro ⟨-, hf⟩
        rw [String.ofList_injective hf] at hl
        exact absurd hl (Nat.lt_irrefl _)
    · have hne : body.isEmpty = false := by simpa using hb
      simp only [hd, if_true, hne, Bool.false_and, Bool.false_eq_true, if_false] at ho
      cases ho
      refine ⟨_, rfl, ?_⟩
      rintro ⟨hf, -⟩
      cases hf

/-- A query with a segment behind it is read as the query, with the variables of the segment,
exactly if no name and no rule in the segment holds a brace. -/
theorem resolve_assigning (h : BareQuery t) {entries : List (String × String)}
    (hn : (entries.map Prod.fst).Nodup) :
    (∃ puts, puts.Perm entries ∧ resolve (String.ofList (assigning t entries)) =
        .ok ⟨[⟨.default, String.ofList t, .first, puts, none⟩]⟩) ↔
      ∀ e ∈ entries, Braceless e.1.toList ∧ Braceless e.2.toList := by
  have ha : assigning t entries = t ++ ("@put:\x7b".toList ++
      (renderMembers (entries.map fun e => (e.1, .string e.2)) ++ ['\x7d'])) := by
    rw [assigning, Value.render]
    rfl
  constructor
  · rintro ⟨puts, -, hr⟩
    by_contra hb
    obtain ⟨y, b, z, hm, hy, hb, hstuck⟩ := exists_brace_members hb
    rw [hm, List.append_assoc, List.cons_append] at ha
    obtain ⟨depth, script, hmarks⟩ := exists_marks_assigning h.toPlain hy hb (z ++ ['\x7d'])
    obtain ⟨p, ps, hp⟩ := pieces_chars_append (marks_cut_ne_first depth script (z ++ ['\x7d']))
      .first (t ++ ("@put:\x7b".toList ++ (y ++ [b])))
    have hs : split (String.ofList (assigning t entries)).toList =
        (.first, t ++ '@' :: ("put:\x7b".toList ++ (y ++ b :: p))) :: ps := by
      rw [String.toList_ofList, ha, split, hmarks, hp]
      simp
    obtain ⟨o, ho, hg⟩ := resolve_eq_singleton hs hr
    -- whatever the first piece goes on with, its first brace inside of the object decides
    rcases isBrace_iff.mp hb with rfl | rfl
    · obtain ⟨f, rfl, hf⟩ := readFragment_opened h hy .first p ho
      exact hf (hg f rfl)
    · exact readFragment_closed h hy (parse?_eq_none hstuck) .first p o ho
  · intro hb
    refine ⟨_, sortMembers_perm hn, ?_⟩
    obtain ⟨depth, script, hm⟩ :=
      exists_marks_assigning h.toPlain (braceless_members hb) (by decide : isBrace '\x7d' = true) []
    rw [marks, List.append_nil, ← ha] at hm
    refine resolve_of_split ?_ (readFragment_assigning h hb .first) rfl
    rw [String.toList_ofList, split, hm, pieces_chars]

theorem bareQuery_text : BareQuery ".a@text".toList := by decide

/-- Two variables, the rule of one of which has a quote and separators in it. -/
theorem resolve_assigning_separators : BareQuery ".a@text".toList ∧
    ([("l", "x"), ("k", "a||b&&\"c\"")].map Prod.fst).Nodup ∧
    ∃ puts : List (String × String), puts.Perm [("l", "x"), ("k", "a||b&&\"c\"")] ∧
      resolve (String.ofList (assigning ".a@text".toList [("l", "x"), ("k", "a||b&&\"c\"")])) =
        .ok ⟨[⟨.default, ".a@text", .first, puts, none⟩]⟩ := by
  have hn : ([("l", "x"), ("k", "a||b&&\"c\"")].map Prod.fst).Nodup := by decide
  exact ⟨bareQuery_text, hn, (resolve_assigning bareQuery_text hn).mpr (by decide)⟩

/-- A rule that refers to another variable has braces in it, and the segment stays in the text. -/
theorem resolve_leaves_reference : BareQuery ".a@text".toList ∧
    ".a@text@put:\x7b\"k\":\"@get:\x7bx\x7d\"\x7d" =
      String.ofList (assigning ".a@text".toList [("k", "@get:\x7bx\x7d")]) ∧
    resolve ".a@text@put:\x7b\"k\":\"@get:\x7bx\x7d\"\x7d" =
      .ok ⟨[⟨.default, ".a@text@put:\x7b\"k\":\"@get:\x7bx\x7d\"\x7d", .first, [], none⟩]⟩ := by
  have hs : split ".a@text@put:\x7b\"k\":\"@get:\x7bx\x7d\"\x7d".toList =
      [(.first, ".a@text@put:\x7b\"k\":\"@get:\x7bx\x7d\"\x7d".toList)] := by decide +kernel
  refine ⟨bareQuery_text, by decide +kernel, ?_⟩
  rw [resolve, hs]
  rfl

end Catalog.Rule
