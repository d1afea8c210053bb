import Catalog.Proofs.Rule.Fragment
import Catalog.Proofs.Rule.Joining

/-! # Scripts in rules

A script stands behind `@js:` or between script tags, and the dialect of a piece knows these marks
in letters of any case. Splitting knows them in lower case only: a script that is marked in other
letters stays in one piece only if what stands behind the mark does so by itself.
-/

namespace Catalog.Rule

open Text

/-- The mark in front of a script, in letters of any case, and what stands behind the mark: the
script, or the script and the tag that ends it. A script block does not end before its end. -/
inductive Marked (body : List Char) : List Char → List Char → Prop where
  | mark {m : List Char} (h : m.map Char.toLower = scriptMark) : Marked body m body
  | block {o c : List Char} (ho : isScriptTag scriptOpen o = true)
      (hc : isScriptTag scriptClose c = true)
      (hb : ¬scriptClose <:+: body) : Marked body o (body ++ c)

variable {s body m rest : List Char}

theorem exists_of_mark (h : m.map Char.toLower = scriptMark) :
    ∃ j s, m = ['@', j, s, ':'] ∧ j.toLower = 'j' ∧ s.toLower = 's' := by
  obtain ⟨a, m, rfl, ha, h⟩ := List.map_eq_cons_iff.mp h
  obtain ⟨j, m, rfl, hj, h⟩ := List.map_eq_cons_iff.mp h
  obtain ⟨s, m, rfl, hs, h⟩ := List.map_eq_cons_iff.mp h
  obtain ⟨z, m, rfl, hz, h⟩ := List.map_eq_cons_iff.mp h
  obtain rfl := List.map_eq_nil_iff.mp h
  obtain rfl := eq_of_toLower ha rfl
  obtain rfl := eq_of_toLower hz rfl
  exact ⟨j, s, rfl, hj, hs⟩

theorem detectDialect_scriptMark (h : m.map Char.toLower = scriptMark) (s : List Char) :
    detectDialect (m ++ s) = (.script, trim s) := by
  have hm : dropStartAnyCase? scriptMark (m ++ s) = some s := dropStartAnyCase?_append h
  obtain ⟨j, s', rfl, hj, hs⟩ := exists_of_mark h
  have hcss : dropStartAnyCase? "@css:".toList (['@', j, s', ':'] ++ s) = none := by
    simp [dropStartAnyCase?, hj]
  have hxpath : dropStartAnyCase? "@xpath:".toList (['@', j, s', ':'] ++ s) = none := by
    simp [dropStartAnyCase?, hj]
  have hjson : dropStartAnyCase? "@json:".toList (['@', j, s', ':'] ++ s) = none := by
    simp [dropStartAnyCase?, hj, hs]
  simp only [detectDialect, hcss, hxpath, hjson, hm]

theorem putFree_marked (h : Marked body m rest) (hp : PutFree body) : PutFree (m ++ rest) := by
  cases h with
  | mark h =>
    obtain ⟨j, s, rfl, hj, hs⟩ := exists_of_mark h
    have hm : '@' ∉ [j, s, ':'] := by
      intro hm
      have hl : '@' ∈ [j, s, ':'].map Char.toLower := List.mem_map_of_mem hm
      simp [hj, hs] at hl
    have ht : PutFree ([j, s, ':'] ++ (body ++ [])) := hp.between hm List.not_mem_nil
    rw [List.append_nil] at ht
    intro inner ho hc hi
    rcases List.infix_cons_iff.mp hi with ⟨t, hi⟩ | hi
    · cases hi
    · exact ht inner ho hc hi
  | block ho hc =>
    exact hp.between (fun hm => absurd (mem_of_isScriptTag ho hm) (by decide))
      fun hm => absurd (mem_of_isScriptTag hc hm) (by decide)

theorem trim_tags {o c : List Char} (ho : isScriptTag scriptOpen o = true)
    (hc : isScriptTag scriptClose c = true) (s : List Char) :
    trim (o ++ (s ++ c)) = o ++ (s ++ c) := by
  obtain ⟨_, _, rfl, -⟩ := exists_of_opening ho
  obtain ⟨_, _, rfl⟩ := exists_of_closing hc
  rw [← trimmed_iff]
  constructor
  · rintro _ ⟨⟩
    decide
  · intro d hd
    rw [← List.append_assoc, List.getLast?_append_of_ne_nil _ (by simp)] at hd
    obtain rfl : '>' = d := Option.some.inj hd
    decide

theorem trim_mark (h : m.map Char.toLower = scriptMark) (s : List Char) :
    trim (m ++ s) = m ++ trimEnd s := by
  obtain ⟨_, _, rfl, -⟩ := exists_of_mark h
  refine Trimmed.trim_append ⟨?_, ?_⟩ (List.cons_ne_nil _ _) s
  · rintro _ ⟨⟩
    decide
  · intro c hc
    obtain rfl : ':' = c := Option.some.inj hc
    decide

theorem detectDialect_marked (h : Marked body m rest) :
    detectDialect (trim (m ++ rest)) = (.script, trim body) := by
  cases h with
  | mark h => rw [trim_mark h, detectDialect_scriptMark h, trim_trimEnd]
  | block ho hc => rw [trim_tags ho hc, detectDialect_tags ho hc]

theorem readFragment_marked (h : Marked body m rest) (hb : ∃ c ∈ body, isBlank c = false)
    (hp : PutFree body) (link : Link) :
    readFragment link (m ++ rest) =
      .ok (some ⟨.script, String.ofList (trim body), link, [], none⟩) := by
  obtain ⟨c, hc, hn⟩ := hb
  have hne : (trim body).isEmpty = false := by
    simpa using List.ne_nil_of_mem (mem_trim hc hn)
  unfold readFragment
  simp only [takePuts_eq (putFree_marked h hp), readPuts, detectDialect_marked h, if_true, bind,
    Except.bind, pure, Except.pure, hne, Bool.false_and, Bool.false_eq_true, if_false]

theorem marks_scriptMark (s : List Char) :
    marks 0 false (scriptMark ++ s) = (scriptMark ++ s).map .char := by
  change marks 0 false ('@' :: 'j' :: 's' :: ':' :: s) = _
  rw [marks]
  simp [scriptMark, scriptOpen]

theorem marks_unclosed {depth : Nat} (h : ¬scriptClose <:+: s) :
    marks depth true s = s.map .char := by
  induction s with
  | nil => rw [marks]; rfl
  | cons c r ih =>
    rw [List.infix_cons_iff, not_or] at h
    rw [marks_inside h.1, ih h.2]
    rfl

theorem eq_of_infix_close {c : List Char} (hc : isScriptTag scriptClose c = true)
    (hb : ¬scriptClose <:+: body) (h : scriptClose <:+: body ++ c) : c = scriptClose := by
  have hl : scriptClose.length = c.length := by
    simpa [scriptClose] using (congrArg List.length (eq_of_beq hc)).symm
  rcases List.infix_append_iff.mp h with h | h | ⟨u, v, huv, hu, hv⟩
  · exact absurd h hb
  · exact (h.eq_of_length hl).symm
  · obtain ⟨j, s, rfl⟩ := exists_of_closing hc
    cases v with
    | nil =>
      rw [List.append_nil] at huv
      exact absurd (huv ▸ hu.isInfix) hb
    | cons d v =>
      obtain ⟨rfl, -⟩ := List.cons_prefix_cons.mp hv
      cases u with
      | nil => exact ((huv.symm ▸ hv : scriptClose <+: _).eq_of_length hl).symm
      | cons e u =>
        have hm : '<' ∈ ['/', 'j', 's', '>'] := by
          rw [(List.cons.inj huv).2]
          simp
        exact absurd hm (by decide)

/-- Behind an opening tag nothing is cut, in letters of whatever case the closing tag is. -/
theorem marks_tagged {c : List Char} (hc : isScriptTag scriptClose c = true)
    (hb : ¬scriptClose <:+: body) : marks 0 true (body ++ c) = (body ++ c).map .char := by
  by_cases hi : scriptClose <:+: body ++ c
  · have hm : marks 0 true (body ++ (scriptClose ++ [])) = _ := marks_script hb
    rw [marks, List.append_nil, List.append_nil] at hm
    rw [eq_of_infix_close hc hb hi, hm, List.map_append]
  · exact marks_unclosed hi

theorem eq_of_prefix_append {mark : List Char} (h : mark <+: m ++ s)
    (hl : mark.length = m.length) : mark = m := by
  obtain ⟨t, ht⟩ := h
  exact (List.append_inj ht hl).1

theorem notMem_heads (f : Char → Char) {c d : Char} (h : f c = d) (hd : d ∉ heads.map f) :
    c ∉ heads := fun hc => hd (h ▸ List.mem_map_of_mem hc)

theorem clear_marked (h : Marked body m rest) (hm : m ≠ scriptMark) (ho : m ≠ scriptOpen) :
    Clear m rest := by
  cases h with
  | mark h =>
    obtain ⟨j, s, rfl, hj, hs⟩ := exists_of_mark h
    refine .cons (by decide) (by decide) (fun hp => ?_) (fun hp => ?_) rfl ?_
    · cases (List.cons_prefix_cons.mp hp).1
    · exact hm (eq_of_prefix_append (m := ['@', j, s, ':']) hp rfl).symm
    · refine .cons_of_notMem (notMem_heads Char.toLower hj (by decide)) ?_
      refine .cons_of_notMem (notMem_heads Char.toLower hs (by decide)) ?_
      exact .cons_of_notMem (by decide) .nil
  | block h =>
    obtain ⟨j, s, rfl, hj, hs⟩ := exists_of_opening h
    refine .cons (by decide) (by decide) (fun hp => ?_) (fun hp => ?_) rfl ?_
    · exact ho (eq_of_prefix_append (m := ['<', j, s, '>']) hp rfl).symm
    · cases (List.cons_prefix_cons.mp hp).1
    · let f := fun c : Char => if c == 'ſ' then 's' else c.toLower
      refine .cons_of_notMem (notMem_heads f hj (by decide)) ?_
      refine .cons_of_notMem (notMem_heads f hs (by decide)) ?_
      exact .cons_of_notMem (by decide) .nil

/-- A script is one piece exactly if its mark is in lower case, or what is behind the mark is. -/
theorem split_marked_iff (h : Marked body m rest) :
    split (m ++ rest) = [(.first, m ++ rest)] ↔
      m = scriptMark ∨ m = scriptOpen ∨ split rest = [(.first, rest)] := by
  by_cases hm : m = scriptMark
  · subst hm
    exact iff_of_true (split_eq_singleton_iff.mpr (marks_scriptMark rest)) (.inl rfl)
  · by_cases ho : m = scriptOpen
    · subst ho
      refine iff_of_true (split_eq_singleton_iff.mpr ?_) (.inr (.inl rfl))
      cases h with
      | mark h => exact absurd h (by decide)
      | block _ hc hb => rw [marks_open, marks_tagged hc hb, ← List.map_append]
    · have hc : Clear m rest := clear_marked h hm ho
      rw [split_eq_singleton_iff, hc, split_eq_singleton_iff, List.map_append,
        List.append_cancel_left_eq]
      simp [hm, ho]

def isBar (c : Char) : Bool := c == '|' || c == '&'

theorem isBar_iff {c : Char} : isBar c = true ↔ c = '|' ∨ c = '&' := by
  simp [isBar]

theorem countP_eq_zero (ho : '|' ∉ s) (ha : '&' ∉ s) : s.countP isBar = 0 := by
  rw [List.countP_eq_zero]
  intro c hc hb
  rcases isBar_iff.mp hb with rfl | rfl
  · exact ho hc
  · exact ha hc

theorem countP_dropWhile (s : List Char) : (s.dropWhile isBlank).countP isBar = s.countP isBar := by
  have hz : (s.takeWhile isBlank).countP isBar = 0 :=
    countP_eq_zero (fun hm => absurd (List.mem_takeWhile_imp hm) (by decide))
      fun hm => absurd (List.mem_takeWhile_imp hm) (by decide)
  conv_rhs => rw [← List.takeWhile_append_dropWhile (p := isBlank) (l := s)]
  rw [List.countP_append, hz, Nat.zero_add]

theorem countP_trim (s : List Char) : (trim s).countP isBar = s.countP isBar := by
  rw [trim, trimEnd, List.countP_reverse, countP_dropWhile, List.countP_reverse, trimStart,
    countP_dropWhile]

theorem countP_spell {link : Link} (h : link ≠ .first) : link.spell.countP isBar = 2 := by
  cases link with
  | first => exact absurd rfl h
  | or => decide
  | and => decide

theorem countP_tag {tag : List Char} (h : isScriptTag tag s = true) (ho : '|' ∉ tag)
    (ha : '&' ∉ tag) : s.countP isBar = 0 :=
  countP_eq_zero (fun hm => ho (mem_of_isScriptTag h hm)) fun hm => ha (mem_of_isScriptTag h hm)

theorem Marked.countP_eq (h : Marked body m rest) :
    (m ++ rest).countP isBar = body.countP isBar := by
  cases h with
  | mark h =>
    have hm : ∀ c ∈ m, c.toLower ∈ scriptMark := fun c hc => h ▸ List.mem_map_of_mem hc
    have hz : m.countP isBar = 0 :=
      countP_eq_zero (fun hc => absurd (hm _ hc) (by decide)) fun hc => absurd (hm _ hc) (by decide)
    rw [List.countP_append, hz, Nat.zero_add]
  | block ho hc =>
    rw [List.countP_append, List.countP_append, countP_tag ho (by decide) (by decide),
      countP_tag hc (by decide) (by decide), Nat.zero_add, Nat.add_zero]

theorem sublist_of_detectDialect (h : detectDialect s = (.script, body)) : body.Sublist s := by
  unfold detectDialect at h
  split at h
  · cases h
  split at h
  · cases h
  split at h
  · cases h
  split at h
  · next hm =>
    cases h
    exact (trim_sublist _).trans (suffix_of_dropStartAnyCase? hm).sublist
  split at h
  · next inner hb =>
    cases h
    obtain ⟨o, c, rfl, -⟩ := exists_of_scriptBody? hb
    refine (trim_sublist inner).trans ?_
    exact (List.sublist_append_left inner c).trans (List.sublist_append_right o _)
  split at h <;> cases h

theorem takePuts_sublist (n : Nat) (s : List Char) : (takePuts n s).2.Sublist s := by
  induction n generalizing s with
  | zero => exact .refl s
  | succ n ih =>
    cases s with
    | nil => exact .refl []
    | cons c r =>
      rw [takePuts]
      cases hp : putObject? (c :: r) with
      | none => exact (ih r).cons_cons c
      | some found =>
        obtain ⟨object, t⟩ := found
        obtain ⟨inner, -, -, -, hs⟩ := putObject?_eq_some hp
        rw [hs]
        exact (ih t).trans (List.sublist_append_right _ _)

theorem sublist_of_readFragment {link : Link} {f : Fragment}
    (h : readFragment link s = .ok (some f)) (hd : f.dialect = .script) :
    f.text.toList.Sublist s := by
  have ht : (trim (takePuts s.length s).2).Sublist s :=
    (trim_sublist _).trans (takePuts_sublist s.length s)
  rcases hdet : detectDialect (trim (takePuts s.length s).2) with ⟨d, body⟩
  simp only [readFragment, hdet, bind, Except.bind, pure, Except.pure] at h
  split at h
  · cases h
  by_cases hs : d = .script
  · subst hs
    simp only [if_true] at h
    split at h <;> cases h
    rw [String.toList_ofList]
    exact (sublist_of_detectDialect hdet).trans ht
  · simp only [hs, if_false] at h
    split at h
    · cases h
    · split at h <;> cases h
      exact absurd hd hs

namespace Separated

variable {link : Link} {ps : List Piece}

theorem countP_le (h : Separated link ps) {q : Piece} (hq : q ∈ ps) :
    link.spell.countP isBar + q.2.countP isBar ≤ (join ps).countP isBar := by
  induction h with
  | last =>
    obtain rfl := List.mem_singleton.mp hq
    simp [join]
  | @cons link next s ps _ _ hn hs ih =>
    rw [join, List.flatMap_cons, ← join, List.countP_append, List.countP_append]
    rcases List.mem_cons.mp hq with rfl | hq
    · exact Nat.le_add_right _ _
    · have hle := ih hq
      rw [countP_spell hn] at hle
      dsimp only
      omega

theorem countP_lt {s : List Char} (h : Separated link ps) (hl : ps ≠ [(link, s)])
    (hj : join ps = link.spell ++ s) {q : Piece} (hq : q ∈ ps) :
    q.2.countP isBar < s.countP isBar := by
  have hc := congrArg (List.countP isBar) hj
  rw [List.countP_append] at hc
  cases h with
  | last h =>
    obtain rfl : _ = s := by simpa [join] using hj
    exact absurd rfl hl
  | @cons _ next t ps h _ hn hs =>
    rw [join, List.flatMap_cons, ← join, List.countP_append, List.countP_append] at hc
    rcases List.mem_cons.mp hq with rfl | hq
    · obtain ⟨r, hr⟩ := hs.exists_join
      rw [hr, List.countP_append, countP_spell hn] at hc
      dsimp only at hc ⊢
      omega
    · have hle := hs.countP_le hq
      rw [countP_spell hn] at hle
      dsimp only at hc
      omega

end Separated

/-- A script that is cut is not found in its pieces. -/
theorem ne_of_readFragment_marked (h : Marked body m rest)
    (hs : split (m ++ rest) ≠ [(.first, m ++ rest)]) {link : Link} {p : Piece}
    (hp : p ∈ pieces link (marks 0 false (m ++ rest))) {l : Link} {f : Fragment}
    (hf : readFragment l p.2 = .ok (some f)) (hd : f.dialect = .script) :
    f.text ≠ String.ofList (trim body) := by
  intro ht
  -- a cut takes a separator from the script, so that no piece has as many of its characters
  obtain ⟨hsep, hj⟩ := separated_pieces link (m ++ rest)
  have hne : pieces link (marks 0 false (m ++ rest)) ≠ [(link, m ++ rest)] := fun hp =>
    hs (split_eq_singleton_iff.mpr (pieces_eq_singleton_iff.mp hp))
  have hlt := hsep.countP_lt hne hj hp
  have hle := (sublist_of_readFragment hf hd).countP_le (p := isBar)
  rw [ht, String.toList_ofList, countP_trim] at hle
  rw [h.countP_eq] at hlt
  omega

theorem split_query (s : List Char) :
    split (".a@text||".toList ++ s) =
      (.first, ".a@text".toList) :: pieces .or (marks 0 false s) := by
  have hq : split ".a@text".toList = [(.first, ".a@text".toList)] := by decide +kernel
  have ho : openAtEnd? 0 false ".a@text".toList = some (0, false) := by decide +kernel
  have hl : ∀ c, ".a@text".toList.getLast? = some c → Link.or.spell.head? ≠ some c := by
    rintro _ ⟨⟩
    decide
  obtain ⟨hs, hj⟩ := separated_pieces .or s
  refine (Separated.cons hq ⟨ho, hl⟩ (by decide) hs).pieces_join ?_
  rw [join, List.flatMap_cons, ← join, hj]
  simp [Link.spell]

theorem readFragment_query (link : Link) :
    readFragment link ".a@text".toList = .ok (some ⟨.default, ".a@text", link, [], none⟩) := by
  rfl

theorem notMem_of_cut (h : Marked body m rest)
    (hs : split (m ++ rest) ≠ [(.first, m ++ rest)]) {rule : String} {fragments : List Fragment}
    (hr : resolve rule = .ok ⟨fragments⟩)
    (hp : ∀ p ∈ split rule.toList,
      p.2 = ".a@text".toList ∨ ∃ link, p ∈ pieces link (marks 0 false (m ++ rest))) :
    ∀ f ∈ fragments, ¬(f.dialect = .script ∧ f.text = String.ofList (trim body)) := by
  rintro f hf ⟨hd, ht⟩
  obtain ⟨p, hpm, l, g, hg, hgd, hgt⟩ := exists_of_resolve hr hf
  rcases hp p hpm with hq | ⟨link, hp⟩
  · rw [hq, readFragment_query] at hg
    cases hg
    rw [hd] at hgd
    cases hgd
  · exact ne_of_readFragment_marked h hs hp hg (hgd.trans hd) (hgt.trans ht)

/-- A script is one fragment, by itself and behind a query, exactly if it is one piece: if its mark
is in lower case, or if what stands behind the mark is one piece. -/
theorem resolve_marked (h : Marked body m rest) (hb : ∃ c ∈ body, isBlank c = false)
    (hp : PutFree body) :
    (split (m ++ rest) = [(.first, m ++ rest)] ↔
      m = scriptMark ∨ m = scriptOpen ∨ split rest = [(.first, rest)]) ∧
    (resolve (String.ofList (m ++ rest)) =
        .ok ⟨[⟨.script, String.ofList (trim body), .first, [], none⟩]⟩ ↔
      m = scriptMark ∨ m = scriptOpen ∨ split rest = [(.first, rest)]) ∧
    (resolve (".a@text||" ++ String.ofList (m ++ rest)) =
        .ok ⟨[⟨.default, ".a@text", .first, [], none⟩,
          ⟨.script, String.ofList (trim body), .or, [], none⟩]⟩ ↔
      m = scriptMark ∨ m = scriptOpen ∨ split rest = [(.first, rest)]) := by
  have hl : (".a@text||" ++ String.ofList (m ++ rest)).toList =
      ".a@text||".toList ++ (m ++ rest) := by
    simp only [String.toList_append, String.toList_ofList]
  rw [← split_marked_iff h]
  refine ⟨Iff.rfl, ⟨fun hr => ?_, fun hs => ?_⟩, ⟨fun hr => ?_, fun hs => ?_⟩⟩
  · by_contra hs
    refine notMem_of_cut h hs hr (fun p hp => .inr ⟨.first, ?_⟩) _ List.mem_cons_self ⟨rfl, rfl⟩
    rwa [String.toList_ofList] at hp
  · exact resolve_of_split (by rwa [String.toList_ofList]) (readFragment_marked h hb hp .first) rfl
  · by_contra hs
    refine notMem_of_cut h hs hr (fun p hp => ?_) _ (.tail _ List.mem_cons_self) ⟨rfl, rfl⟩
    rw [hl, split_query] at hp
    rcases List.mem_cons.mp hp with rfl | hp
    · exact .inl rfl
    · exact .inr ⟨.or, hp⟩
  · have hm := split_eq_singleton_iff.mp hs
    rw [resolve, hl, split_query, hm, pieces_chars, readPieces]
    simp only [Bool.false_eq_true, if_false, readFragment_query, readPieces, if_true,
      readFragment_marked h hb hp]
    rfl

/-- A script with a separator in it, between tags of which one is in capitals. -/
theorem resolve_marked_closing : Marked "a||b".toList scriptOpen "a||b</JS>".toList ∧
    (∃ c ∈ "a||b".toList, isBlank c = false) ∧ PutFree "a||b".toList ∧
    resolve "<js>a||b</JS>" = .ok ⟨[⟨.script, "a||b", .first, [], none⟩]⟩ ∧
    resolve ".a@text||<js>a||b</JS>" = .ok ⟨[⟨.default, ".a@text", .first, [], none⟩,
      ⟨.script, "a||b", .or, [], none⟩]⟩ := by
  have h : Marked "a||b".toList scriptOpen "a||b</JS>".toList :=
    .block (c := "</JS>".toList) (by decide) (by decide) (by decide)
  have hb : ∃ c ∈ "a||b".toList, isBlank c = false := ⟨'a', by decide, by decide⟩
  have hp : PutFree "a||b".toList := putFree_of_not_mem (by decide)
  obtain ⟨-, hr, hq⟩ := resolve_marked h hb hp
  exact ⟨h, hb, hp, hr.mpr (.inr (.inl rfl)), hq.mpr (.inr (.inl rfl))⟩

/-- The mark in capitals is one to the dialect, but not to splitting. -/
theorem resolve_cuts_marked : Marked "a||b".toList "@JS:".toList "a||b".toList ∧
    PutFree "a||b".toList ∧ detectDialect "@JS:a||b".toList = (.script, "a||b".toList) ∧
    resolve "@JS:a||b" =
      .ok ⟨[⟨.script, "a", .first, [], none⟩, ⟨.default, "b", .or, [], none⟩]⟩ := by
  have hs : split "@JS:a||b".toList = [(.first, "@JS:a".toList), (.or, ['b'])] := by decide +kernel
  refine ⟨.mark (by decide), putFree_of_not_mem (by decide), by decide +kernel, ?_⟩
  rw [resolve, hs]
  rfl

end Catalog.Rule
