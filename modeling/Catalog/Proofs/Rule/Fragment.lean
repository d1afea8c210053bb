import Mathlib.Data.List.TakeWhile
import Catalog.Proofs.Text.Cut
import Catalog.Rule.Printer

/-! # Reading what was written

A fragment that was written as a piece of a rule is read from the piece: there is nothing that it
would set, the dialect is that of its mark, and the text ends where the replacement begins.
-/

namespace Catalog.Rule

open Text

variable {s t rest mark : List Char}

instance (s : List Char) : Decidable (Plain s) :=
  decidable_of_iff (¬['|', '|'] <:+: s ∧ ¬['&', '&'] <:+: s ∧ '\x7b' ∉ s ∧ '\x7d' ∉ s ∧
      ¬scriptMark <:+: s ∧ ¬scriptOpen <:+: s)
    ⟨fun ⟨ho, ha, hl, hr, hm, hb⟩ => ⟨ho, ha, hl, hr, hm, hb⟩,
      fun ⟨ho, ha, hl, hr, hm, hb⟩ => ⟨ho, ha, hl, hr, hm, hb⟩⟩

instance (s : List Char) : Decidable (Unhashed s) :=
  decidable_of_iff (¬['#', '#'] <:+: s ∧ s.getLast? ≠ some '#')
    ⟨fun ⟨hh, hl⟩ => ⟨hh, hl⟩, fun ⟨hh, hl⟩ => ⟨hh, hl⟩⟩

theorem putObject?_eq_some {object : List Char} (h : putObject? s = some (object, rest)) :
    ∃ inner : List Char, '\x7b' ∉ inner ∧ '\x7d' ∉ inner ∧ object = '\x7b' :: inner ++ ['\x7d'] ∧
      s = "@put:".toList ++ object ++ rest := by
  unfold putObject? at h
  split at h
  · next r hp =>
    rw [List.isPrefixOf?_eq_some_iff_append_eq] at hp
    dsimp only at h
    split at h
    · next t hd =>
      cases h
      have hr := List.prefix_iff_eq_append.mp
        (List.takeWhile_prefix (l := r) fun c => c != '\x7b' && c != '\x7d')
      rw [hd] at hr
      refine ⟨_, ?_, ?_, rfl, ?_⟩
      · exact fun hm => by simpa using List.mem_takeWhile_imp hm
      · exact fun hm => by simpa using List.mem_takeWhile_imp hm
      · rw [← hp]
        conv_lhs => rw [← hr]
        simp
    · cases h
  · cases h

theorem takePuts_eq (h : PutFree s) (n : Nat) : takePuts n s = ([], s) := by
  induction n generalizing s with
  | zero => rfl
  | succ n ih =>
    cases s with
    | nil => rfl
    | cons c r =>
      have hn : putObject? (c :: r) = none := by
        rw [Option.eq_none_iff_forall_ne_some]
        rintro ⟨object, rest⟩ hp
        obtain ⟨inner, ho, hc, rfl, hs⟩ := putObject?_eq_some hp
        exact h inner ho hc ⟨[], rest, by rw [hs]; simp⟩
      have hr : PutFree r := fun inner ho hc hi => h inner ho hc (List.infix_cons hi)
      simp only [takePuts, hn, ih hr]

theorem putFree_of_not_mem (h : '\x7b' ∉ s) : PutFree s :=
  fun _ _ _ hi => h (hi.subset (by simp))

theorem PutFree.between {o c : List Char} (h : PutFree s) (ho : '@' ∉ o) (hc : '\x7d' ∉ c) :
    PutFree (o ++ (s ++ c)) := by
  intro inner hno hnc hi
  have hl : '@' :: ("put:\x7b".toList ++ inner ++ ['\x7d']) <:+: s ++ c :=
    infix_of_append_left hi ho
  have hr : "@put:\x7b".toList ++ inner ++ ['\x7d'] <:+: s :=
    infix_of_append_right hl hc
  exact h inner hno hnc hr

theorem mem_of_isScriptTag {tag : List Char} {c : Char} (h : isScriptTag tag s = true)
    (hc : c ∈ s) : (if c == 'ſ' then 's' else c.toLower) ∈ tag :=
  eq_of_beq h ▸ List.mem_map_of_mem hc

theorem isScriptTag_of_hash (h : '#' ∈ s) : isScriptTag scriptOpen s = false := by
  rw [← Bool.not_eq_true]
  exact fun ht => absurd (mem_of_isScriptTag ht h) (by decide)

theorem scriptBody?_eq_none (h : isScriptTag scriptOpen (s.take 4) = false) :
    scriptBody? s = none := by
  simp [scriptBody?, h]

theorem QueryText.scriptBody? (h : QueryText s) (hr : ∀ c, rest.head? = some c → c = '#') :
    scriptBody? (s ++ rest) = none := by
  refine scriptBody?_eq_none ?_
  rw [List.take_append]
  cases hc : rest.take (4 - s.length) with
  | nil =>
    rw [List.append_nil]
    exact h.tag _ (List.take_prefix 4 s).isInfix
  | cons c r =>
    have hh : rest.head? = some c := by
      obtain ⟨t, ht⟩ := List.take_prefix (4 - s.length) rest
      rw [← ht, hc]
      rfl
    refine isScriptTag_of_hash ?_
    rw [hr c hh]
    simp

theorem detectDialect_mark {d : Dialect} (hd : d = .css ∨ d = .xpath ∨ d = .jsonPath)
    (h : trimStart s = s) : detectDialect (d.spell ++ s) = (d, s) := by
  have hmark : ∀ mark, d.spell.map Char.toLower = mark →
      dropStartAnyCase? mark (d.spell ++ s) = some s := fun _ => dropStartAnyCase?_append
  rcases hd with rfl | rfl | rfl
  · simp only [detectDialect, hmark "@css:".toList (by decide), h]
  · have hc : dropStartAnyCase? "@css:".toList (Dialect.xpath.spell ++ s) = none := by rfl
    simp only [detectDialect, hc, hmark "@xpath:".toList (by decide), h]
  · have hc : dropStartAnyCase? "@css:".toList (Dialect.jsonPath.spell ++ s) = none := by rfl
    have hx : dropStartAnyCase? "@xpath:".toList (Dialect.jsonPath.spell ++ s) = none := by rfl
    simp only [detectDialect, hc, hx, hmark "@json:".toList (by decide), h]

theorem detectDialect_regex (s : List Char) :
    detectDialect (Dialect.regex.spell ++ s) = (.regex, s) := by
  have hb : scriptBody? (':' :: s) = none := by
    refine scriptBody?_eq_none ?_
    simp [isScriptTag, scriptOpen]
  change detectDialect (':' :: s) = _
  simp only [detectDialect, hb]
  rfl

theorem eq_of_tagLetter {c d : Char} (h : (if c == 'ſ' then 's' else c.toLower) = d)
    (hd : d.isLower = false) : c = d := by
  split at h
  · subst h
    cases hd
  · exact eq_of_toLower h hd

theorem exists_of_opening {o : List Char} (h : isScriptTag scriptOpen o = true) :
    ∃ j s, o = ['<', j, s, '>'] ∧ (if j == 'ſ' then 's' else j.toLower) = 'j' ∧
      (if s == 'ſ' then 's' else s.toLower) = 's' := by
  obtain ⟨a, o, rfl, ha, h⟩ := List.map_eq_cons_iff.mp (eq_of_beq h)
  obtain ⟨j, o, rfl, hj, h⟩ := List.map_eq_cons_iff.mp h
  obtain ⟨s, o, rfl, hs, h⟩ := List.map_eq_cons_iff.mp h
  obtain ⟨z, o, rfl, hz, h⟩ := List.map_eq_cons_iff.mp h
  obtain rfl := List.map_eq_nil_iff.mp h
  obtain rfl := eq_of_tagLetter ha rfl
  obtain rfl := eq_of_tagLetter hz rfl
  exact ⟨j, s, rfl, hj, hs⟩

theorem exists_of_closing {c : List Char} (h : isScriptTag scriptClose c = true) :
    ∃ j s, c = ['<', '/', j, s, '>'] := by
  obtain ⟨a, c, rfl, ha, h⟩ := List.map_eq_cons_iff.mp (eq_of_beq h)
  obtain ⟨b, c, rfl, hb, h⟩ := List.map_eq_cons_iff.mp h
  obtain ⟨j, c, rfl, -, h⟩ := List.map_eq_cons_iff.mp h
  obtain ⟨s, c, rfl, -, h⟩ := List.map_eq_cons_iff.mp h
  obtain ⟨z, c, rfl, hz, h⟩ := List.map_eq_cons_iff.mp h
  obtain rfl := List.map_eq_nil_iff.mp h
  obtain rfl := eq_of_tagLetter ha rfl
  obtain rfl := eq_of_tagLetter hb rfl
  obtain rfl := eq_of_tagLetter hz rfl
  exact ⟨j, s, rfl⟩

theorem scriptBody?_tags {o c : List Char} (ho : isScriptTag scriptOpen o = true)
    (hc : isScriptTag scriptClose c = true) (s : List Char) :
    scriptBody? (o ++ (s ++ c)) = some s := by
  have hlo : o.length = 4 := by simpa [scriptOpen] using congrArg List.length (eq_of_beq ho)
  have hlc : c.length = 5 := by simpa [scriptClose] using congrArg List.length (eq_of_beq hc)
  have ht : (o ++ (s ++ c)).take 4 = o := List.take_left' hlo
  have hd : (o ++ (s ++ c)).drop 4 = s ++ c := List.drop_left' hlo
  have hl : (s ++ c).length - 5 = s.length := by simp [hlc]
  have hn : 9 ≤ (o ++ (s ++ c)).length := by
    simp only [List.length_append]
    omega
  simp only [scriptBody?, ht, hd, hl, ho, hc, hn, List.take_left, List.drop_left, decide_true,
    Bool.and_self, if_true]

theorem detectDialect_tags {o c : List Char} (ho : isScriptTag scriptOpen o = true)
    (hc : isScriptTag scriptClose c = true) (s : List Char) :
    detectDialect (o ++ (s ++ c)) = (.script, trim s) := by
  have hb := scriptBody?_tags ho hc s
  obtain ⟨_, _, rfl, -⟩ := exists_of_opening ho
  unfold detectDialect
  simp only [List.cons_append] at hb ⊢
  have hn : ∀ (mark r : List Char), dropStartAnyCase? ('@' :: mark) ('<' :: r) = none :=
    fun _ _ => rfl
  rw [show "@css:".toList = '@' :: "css:".toList from rfl, hn,
    show "@xpath:".toList = '@' :: "xpath:".toList from rfl, hn,
    show "@json:".toList = '@' :: "json:".toList from rfl, hn,
    show scriptMark = '@' :: "js:".toList from rfl, hn, hb]

theorem exists_of_scriptBody? {body : List Char} (h : scriptBody? s = some body) :
    ∃ o c, s = o ++ (body ++ c) ∧ isScriptTag scriptOpen o = true ∧
      isScriptTag scriptClose c = true := by
  simp only [scriptBody?, Option.ite_none_right_eq_some, Option.some.injEq,
    Bool.and_eq_true] at h
  obtain ⟨⟨⟨-, ho⟩, hc⟩, rfl⟩ := h
  refine ⟨s.take 4, _, ?_, ho, hc⟩
  rw [List.take_append_drop, List.take_append_drop]

/-- Behind a text in no dialect that has a mark, no mark is completed by what goes on with the
start of another: only a script block may end there. -/
theorem detectDialect_append (hn : s ≠ []) (hd : Undialected s)
    (hr : ∀ c, rest.head? = some c → c = '#' ∨ c = '@') :
    detectDialect (s ++ rest) =
      ((scriptBody? (s ++ rest)).map fun body => (.script, trim body)).getD
        (.default, s ++ rest) := by
  -- a mark that is completed behind `s` holds `#` or, behind its start, `@`, and no mark does
  have hm : ∀ mark, '#' ∉ mark → '@' ∉ mark → dropStartAnyCase? ('@' :: mark) s = none →
      dropStartAnyCase? ('@' :: mark) (s ++ rest) = none := by
    intro mark hh ha hs
    refine dropStartAnyCase?_cons_append_eq_none hs hn fun c hc => ?_
    rcases hr c hc with rfl | rfl <;> assumption
  have hp : ∀ mark, '#' ∉ mark → '@' ∉ mark → ¬mark <+: s → ¬mark <+: s ++ rest := by
    intro mark hh ha hs hi
    refine hs (prefix_of_prefix_append hi hn fun d c _ hc hi => ?_)
    have hmem : c ∈ mark := hi.subset (by simp)
    rcases hr c hc with rfl | rfl <;> contradiction
  have hc := hm "css:".toList (by decide) (by decide) hd.css
  have hx := hm "xpath:".toList (by decide) (by decide) hd.xpath
  have hj := hm "json:".toList (by decide) (by decide) hd.json
  have hs := hm "js:".toList (by decide) (by decide) hd.script
  unfold detectDialect
  simp only [show "@css:".toList = '@' :: "css:".toList from rfl, hc,
    show "@xpath:".toList = '@' :: "xpath:".toList from rfl, hx,
    show "@json:".toList = '@' :: "json:".toList from rfl, hj,
    show scriptMark = '@' :: "js:".toList from rfl, hs]
  cases scriptBody? (s ++ rest) with
  | some body => rfl
  | none =>
    dsimp only
    split
    · next r he => exact absurd ⟨r, he.symm⟩ (hp ['/'] (by decide) (by decide) hd.slash)
    · next r he => exact absurd ⟨r, he.symm⟩ (hp ['$', '.'] (by decide) (by decide) hd.path)
    · next r he => exact absurd ⟨r, he.symm⟩ (hp ['$', '['] (by decide) (by decide) hd.item)
    · next r he => exact absurd ⟨r, he.symm⟩ (hp [':'] (by decide) (by decide) hd.colon)
    · rfl

theorem undialected_of_default (h : (detectDialect s).1 = .default) :
    Undialected s ∧ detectDialect s = (.default, s) := by
  cases hc : dropStartAnyCase? "@css:".toList s with
  | some r => simp only [detectDialect, hc, reduceCtorEq] at h
  | none =>
  cases hx : dropStartAnyCase? "@xpath:".toList s with
  | some r => simp only [detectDialect, hc, hx, reduceCtorEq] at h
  | none =>
  cases hj : dropStartAnyCase? "@json:".toList s with
  | some r => simp only [detectDialect, hc, hx, hj, reduceCtorEq] at h
  | none =>
  cases hs : dropStartAnyCase? scriptMark s with
  | some r => simp only [detectDialect, hc, hx, hj, hs, reduceCtorEq] at h
  | none =>
  cases hb : scriptBody? s with
  | some r => simp only [detectDialect, hc, hx, hj, hs, hb, reduceCtorEq] at h
  | none =>
    unfold detectDialect at h ⊢
    simp only [hc, hx, hj, hs, hb] at h ⊢
    split at h <;> cases h
    next h₁ h₂ h₃ h₄ =>
    refine ⟨⟨?_, ?_, ?_, ?_, hc, hx, hj, hs⟩, ?_⟩
    · exact fun ⟨r, he⟩ => h₁ r he.symm
    · exact fun ⟨r, he⟩ => h₂ r he.symm
    · exact fun ⟨r, he⟩ => h₃ r he.symm
    · exact fun ⟨r, he⟩ => h₄ r he.symm
    · rfl

theorem splitReplacement_text (h : QueryText s) : splitReplacement s = .ok (s, none) := by
  rw [splitReplacement, cutAt?_eq_none (by decide) h.hashes]
  simp only [h.trimmed]

theorem dropEnd?_tail {r : Replacement} (h : r.Printable) (hf : r.firstOnly = false) :
    dropEnd? ['#', '#', '#'] (r.pattern.source.toList ++ (['#', '#'] ++ r.text.toList)) = none := by
  refine dropEnd?_eq_none fun hs => ?_
  by_cases hw : r.text.toList = []
  · rw [hw, List.append_nil] at hs
    obtain ⟨u, hu⟩ := hs
    have he : u ++ ['#'] ++ ['#', '#'] = r.pattern.source.toList ++ ['#', '#'] := by
      rw [← hu, List.append_assoc]
      rfl
    have hp : u ++ ['#'] = r.pattern.source.toList := List.append_cancel_right he
    exact h.unhashed.last (by rw [← hp, List.getLast?_concat])
  · refine h.last hf (List.suffix_of_suffix_length_le hs (List.suffix_append _ _) ?_)
    have hl := List.length_pos_iff.mpr hw
    simp only [List.length_append, List.length_cons, List.length_nil]
    omega

theorem make_of_printable {r : Replacement} (h : r.Printable) :
    Replacement.make r.pattern.source r.text r.firstOnly = .ok r := by
  simp only [Replacement.make, h.compiles]

/-- A replacement is cut off a text, and the pattern off the text that stands for its matches. -/
theorem splitReplacement_spell (hs : Unhashed s) (ht : trim s = s) {r : Replacement}
    (h : r.Printable) : splitReplacement (s ++ r.spell) = .ok (s, some r) := by
  have hcut : cutAt? ['#', '#'] (s ++ r.spell) = some (s, r.spell.drop 2) :=
    cutAt?_append hs.hashes hs.last
  have hpattern : cutAt? ['#', '#'] (r.pattern.source.toList ++ (['#', '#'] ++ r.text.toList)) =
      some (r.pattern.source.toList, r.text.toList) :=
    cutAt?_append h.unhashed.hashes h.unhashed.last
  have hne : r.pattern.source.toList.isEmpty = false := by
    simpa using h.nonempty
  have hmake := make_of_printable h
  have htail : r.spell.drop 2 = r.pattern.source.toList ++ (['#', '#'] ++ r.text.toList) ++
      if r.firstOnly then ['#', '#', '#'] else [] := by
    simp only [Replacement.spell, List.append_assoc]
    rfl
  cases hf : r.firstOnly with
  | true =>
    have hend : dropEnd? ['#', '#', '#'] (r.spell.drop 2) =
        some (r.pattern.source.toList ++ (['#', '#'] ++ r.text.toList)) := by
      rw [htail, hf]
      exact dropEnd?_append _ _
    rw [hf] at hmake
    simp only [splitReplacement, hcut, hend, hpattern, ht, hne, hmake, Option.getD_some,
      Bool.false_eq_true, if_false, String.ofList_toList]
    rfl
  | false =>
    rw [hf, if_neg Bool.false_ne_true, List.append_nil] at htail
    rw [hf] at hmake
    simp only [splitReplacement, hcut, htail, dropEnd?_tail h hf, hpattern, ht, hne, hmake,
      Option.getD_some, Bool.false_eq_true, if_false, String.ofList_toList]
    rfl

variable {f : Fragment}

theorem spell_script (hd : f.dialect = .script) :
    f.spell = scriptOpen ++ (f.text.toList ++ scriptClose) := by
  simp only [Fragment.spell, Fragment.spellEnd, hd, if_true]
  rfl

theorem spellEnd_query (hd : f.dialect ≠ .script) :
    f.spellEnd = f.replacement.elim [] Replacement.spell := if_neg hd

theorem head_spellEnd (hd : f.dialect ≠ .script) (c : Char) (h : f.spellEnd.head? = some c) :
    c = '#' := by
  rw [spellEnd_query hd] at h
  cases hr : f.replacement with
  | none => simp [hr] at h
  | some r =>
    simp only [hr, Option.elim_some] at h
    cases h
    rfl

theorem getLast_spell {r : Replacement} (h : r.Printable) (c : Char)
    (hc : r.spell.getLast? = some c) : isBlank c = false := by
  have hs : r.spell = (['#', '#'] ++ r.pattern.source.toList) ++
      (['#', '#'] ++ (r.text.toList ++ if r.firstOnly then ['#', '#', '#'] else [])) := by
    simp only [Replacement.spell, List.append_assoc]
  rw [hs, List.getLast?_append_of_ne_nil _ (by simp)] at hc
  refine getLast_append ?_ ?_ c hc
  · rintro _ ⟨⟩
    decide
  · intro d hd
    cases hf : r.firstOnly with
    | true =>
      rw [hf, if_pos rfl, List.getLast?_append_of_ne_nil _ (by simp)] at hd
      cases hd
      decide
    | false =>
      rw [hf, if_neg Bool.false_ne_true, List.append_nil, ← h.trimmed hf] at hd
      exact getLast_trimEnd hd

theorem trim_spell (h : f.Printable) : trim f.spell = f.spell := by
  by_cases hd : f.dialect = .script
  · rw [spell_script hd, ← trimmed_iff]
    constructor
    · rintro _ ⟨⟩
      decide
    · intro c hc
      rw [← List.append_assoc, List.getLast?_append_of_ne_nil _ (by simp [scriptClose])] at hc
      cases hc
      decide
  · have ht := h.query hd
    obtain ⟨hfirst, hlast⟩ := trimmed_iff.mpr ht.trimmed
    rw [← trimmed_iff]
    constructor
    · refine head_append ?_ (head_append hfirst ?_)
      · cases hf : f.dialect with
        | default => rintro _ ⟨⟩
        | _ => rintro _ ⟨⟩; decide
      · intro c hc
        rw [head_spellEnd hd c hc]
        decide
    · intro c hc
      rw [Fragment.spell, List.getLast?_append_of_ne_nil _ (by simp [ht.nonempty])] at hc
      refine getLast_append hlast ?_ c hc
      rw [spellEnd_query hd]
      cases hr : f.replacement with
      | none => rintro _ ⟨⟩
      | some r => exact getLast_spell (h.replacement r hr)

theorem putFree_spell (h : f.Printable) : PutFree f.spell := by
  by_cases hd : f.dialect = .script
  · rw [spell_script hd]
    exact (h.script hd).1.putFree.between (by decide) (by decide)
  · refine putFree_of_not_mem ?_
    rw [Fragment.spell, spellEnd_query hd]
    simp only [List.mem_append, not_or]
    refine ⟨?_, (h.query hd).opening, ?_⟩
    · cases hf : f.dialect <;> decide
    · cases hr : f.replacement with
      | none => exact List.not_mem_nil
      | some r =>
        have hp := h.replacement r hr
        simp only [Option.elim_some, Replacement.spell, List.mem_append, not_or]
        refine ⟨by decide, hp.pattern.opening, by decide, hp.text.opening, ?_⟩
        split <;> decide

theorem detectDialect_spell (h : f.Printable) (hd : f.dialect ≠ .script) :
    detectDialect f.spell = (f.dialect, f.text.toList ++ f.spellEnd) := by
  have ht := h.query hd
  have hs : trimStart (f.text.toList ++ f.spellEnd) = f.text.toList ++ f.spellEnd := by
    refine trimStart_of_head (head_append (trimmed_iff.mpr ht.trimmed).1 fun c hc => ?_)
    rw [head_spellEnd hd c hc]
    decide
  rw [Fragment.spell]
  cases hf : f.dialect with
  | default =>
    change detectDialect (f.text.toList ++ f.spellEnd) = _
    have hr := head_spellEnd hd
    rw [detectDialect_append ht.nonempty (h.default hf) fun c hc => .inl (hr c hc),
      ht.scriptBody? hr]
    rfl
  | css => exact detectDialect_mark (.inl rfl) hs
  | xpath => exact detectDialect_mark (.inr (.inl rfl)) hs
  | jsonPath => exact detectDialect_mark (.inr (.inr rfl)) hs
  | regex => exact detectDialect_regex _
  | script => exact absurd hf hd

theorem splitReplacement_spellEnd (h : f.Printable) (hd : f.dialect ≠ .script) :
    splitReplacement (f.text.toList ++ f.spellEnd) = .ok (f.text.toList, f.replacement) := by
  have ht := h.query hd
  rw [spellEnd_query hd]
  cases hr : f.replacement with
  | none =>
    rw [Option.elim_none, List.append_nil]
    exact splitReplacement_text ht
  | some r => exact splitReplacement_spell ht.toUnhashed ht.trimmed (h.replacement r hr)

/-- A fragment is read from the piece that it was written as. -/
theorem readFragment_spell (h : f.Printable) (link : Link) :
    readFragment link f.spell = .ok (some { f with link }) := by
  unfold readFragment
  simp only [takePuts_eq (putFree_spell h), readPuts, trim_spell h]
  by_cases hd : f.dialect = .script
  · obtain ⟨ht, hr⟩ := h.script hd
    have hdet : detectDialect f.spell = (.script, f.text.toList) := by
      rw [spell_script hd]
      rw [detectDialect_tags (by decide) (by decide), ht.trimmed]
    have hne : f.text.toList.isEmpty = false := by simpa using ht.nonempty
    simp only [hdet, if_true, bind, Except.bind, pure, Except.pure, hne, Bool.false_and,
      Bool.false_eq_true, if_false, String.ofList_toList, hd, hr, h.puts]
  · have hne : f.text.toList.isEmpty = false := by simpa using (h.query hd).nonempty
    simp only [detectDialect_spell h hd, hd, if_false, splitReplacement_spellEnd h hd, bind,
      Except.bind, pure, Except.pure, hne, Bool.false_and, Bool.false_eq_true,
      String.ofList_toList, h.puts]

theorem resolve_of_split {rule : String} {p : List Char} (hs : split rule.toList = [(.first, p)])
    (hf : readFragment .first p = .ok (some f)) (hl : f.link = .first) :
    resolve rule = .ok ⟨[f]⟩ := by
  rw [resolve, hs, readPieces]
  simp only [Bool.false_eq_true, if_false, hf]
  change Except.ok (Chain.ofFragments [f]) = .ok ⟨[f]⟩
  rw [Chain.ofFragments, ← hl]

theorem resolve_eq_singleton {rule : String} {p : List Char} {ps : List Piece} {g : Fragment}
    (hs : split rule.toList = (.first, p) :: ps) (h : resolve rule = .ok ⟨[g]⟩) :
    ∃ o, readFragment .first p = .ok o ∧
      ∀ f, o = some f → f.dialect = g.dialect ∧ f.text = g.text := by
  rw [resolve, hs, readPieces] at h
  cases hf : readFragment .first p with
  | error e =>
    simp only [Bool.false_eq_true, if_false, hf] at h
    cases h
  | ok o =>
    refine ⟨o, rfl, ?_⟩
    rintro f rfl
    simp only [Bool.false_eq_true, if_false, hf, bind, Except.bind] at h
    cases hm : readPieces true ps with
    | error e =>
      simp only [hm] at h
      cases h
    | ok more =>
      simp only [hm, pure, Except.pure, Chain.ofFragments] at h
      cases h
      exact ⟨rfl, rfl⟩

theorem exists_of_readPieces {started : Bool} {ps : List Piece} {fs : List Fragment}
    (h : readPieces started ps = .ok fs) {f : Fragment} (hf : f ∈ fs) :
    ∃ p ∈ ps, ∃ link, readFragment link p.2 = .ok (some f) := by
  induction ps generalizing started fs with
  | nil =>
    cases h
    cases hf
  | cons p ps ih =>
    rw [readPieces] at h
    cases hr : readFragment (if started then p.1 else .first) p.2 with
    | error e =>
      rw [hr] at h
      cases h
    | ok o =>
      rw [hr] at h
      cases o with
      | none =>
        obtain ⟨q, hq, link, hl⟩ := ih h hf
        exact ⟨q, List.mem_cons_of_mem p hq, link, hl⟩
      | some g =>
        cases hm : readPieces true ps with
        | error e =>
          simp only [hm, bind, Except.bind] at h
          cases h
        | ok more =>
          simp only [hm, bind, Except.bind] at h
          cases h
          rcases List.mem_cons.mp hf with rfl | hf
          · exact ⟨p, List.mem_cons_self, _, hr⟩
          · obtain ⟨q, hq, link, hl⟩ := ih hm hf
            exact ⟨q, List.mem_cons_of_mem p hq, link, hl⟩

theorem exists_of_resolve {rule : String} {fragments : List Fragment}
    (h : resolve rule = .ok ⟨fragments⟩) {g : Fragment} (hg : g ∈ fragments) :
    ∃ p ∈ split rule.toList, ∃ link f, readFragment link p.2 = .ok (some f) ∧
      f.dialect = g.dialect ∧ f.text = g.text := by
  rw [resolve] at h
  cases hr : readPieces false (split rule.toList) with
  | error e =>
    rw [hr] at h
    cases h
  | ok fs =>
    rw [hr] at h
    cases fs with
    | nil =>
      cases h
      cases hg
    | cons f fs =>
      cases h
      rcases List.mem_cons.mp hg with rfl | hg
      · obtain ⟨p, hp, link, hl⟩ := exists_of_readPieces hr List.mem_cons_self
        exact ⟨p, hp, link, f, hl, rfl, rfl⟩
      · obtain ⟨p, hp, link, hl⟩ := exists_of_readPieces hr (List.mem_cons_of_mem f hg)
        exact ⟨p, hp, link, g, hl, rfl, rfl⟩

end Catalog.Rule
