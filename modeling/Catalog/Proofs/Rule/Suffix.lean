import Catalog.Proofs.Rule.Assignment

/-! # Replacements behind a query

Behind a query stand a pattern and the text that is put for its matches. A piece is trimmed before it
is taken apart: blanks at the end of the text are lost, unless a third mark closes it. A query that
opens a script block, and a text that ends one, are no query and no replacement at all.
-/

namespace Catalog

open Rule Text

/-- A replacement in which nothing separates, nests, starts a script or is cut off. -/
structure Replacement.Bare (r : Replacement) : Prop where
  compiles : Pattern.compile? r.pattern.source = some r.pattern
  nonempty : r.pattern.source ≠ ""
  pattern : Plain r.pattern.source.toList
  patternHash : '#' ∉ r.pattern.source.toList
  text : Plain r.text.toList
  textHash : '#' ∉ r.text.toList

/-- What is read of a replacement that ends a piece. -/
def Replacement.asRead (r : Replacement) : Replacement :=
  if r.firstOnly then r else { r with text := String.ofList (trimEnd r.text.toList) }

def Replacement.ending (r : Replacement) : List Char := if r.firstOnly then [] else r.text.toList

namespace Rule

variable {s t w x : List Char} {r : Replacement}

/-- A query opens a script block in letters of any case, and what stands behind it closes one. -/
def Enclosed (t w : List Char) : Prop :=
  ∃ o s u c, t = o ++ s ∧ w = u ++ c ∧ isScriptTag scriptOpen o = true ∧
    isScriptTag scriptClose c = true

theorem not_enclosed_nil : ¬Enclosed t [] := by
  rintro ⟨o, s, u, c, -, hw, -, hc⟩
  obtain ⟨rfl, rfl⟩ := List.append_eq_nil_iff.mp hw.symm
  cases hc

theorem enclosed_of_scriptBody? {body : List Char}
    (h : scriptBody? (t ++ '#' :: (x ++ '#' :: w)) = some body) : Enclosed t w := by
  obtain ⟨o, c, hs, ho, hc⟩ := exists_of_scriptBody? h
  have hno : '#' ∉ o := fun hm => absurd (mem_of_isScriptTag ho hm) (by decide)
  have hnc : '#' ∉ c := fun hm => absurd (mem_of_isScriptTag hc hm) (by decide)
  obtain ⟨s, rfl⟩ : o <+: t := prefix_of_append_cons ⟨body ++ c, hs.symm⟩ hno
  obtain ⟨u, rfl⟩ : c <:+ w := by
    refine suffix_of_append_cons (s := (o ++ s) ++ '#' :: x) ⟨o ++ body, ?_⟩ hnc
    rw [List.append_assoc, ← hs]
    simp
  exact ⟨o, s, u, c, rfl, rfl, ho, hc⟩

theorem detectDialect_enclosed (h : Enclosed t w) (x : List Char) :
    ∃ body ≠ [], detectDialect (t ++ '#' :: (x ++ '#' :: w)) = (.script, body) := by
  obtain ⟨o, s, u, c, rfl, rfl, ho, hc⟩ := h
  refine ⟨trim (s ++ '#' :: (x ++ '#' :: u)), ?_, ?_⟩
  · exact List.ne_nil_of_mem (mem_trim (c := '#') (by simp) (by decide))
  · rw [← detectDialect_tags ho hc]
    simp

theorem detectDialect_bare (h : BareQuery t) (he : ¬Enclosed t w) (x : List Char) :
    detectDialect (t ++ '#' :: (x ++ '#' :: w)) = (.default, t ++ '#' :: (x ++ '#' :: w)) := by
  have hr : ∀ c, ('#' :: (x ++ '#' :: w)).head? = some c → c = '#' ∨ c = '@' := by
    rintro _ ⟨⟩
    exact .inl rfl
  rw [detectDialect_append h.nonempty (undialected_of_default h.dialect).1 hr]
  cases hb : scriptBody? (t ++ '#' :: (x ++ '#' :: w)) with
  | none => rfl
  | some body => exact absurd (enclosed_of_scriptBody? hb) he

theorem unhashed_of_notMem (h : '#' ∉ s) : Unhashed s where
  hashes := fun hi => h (hi.subset (by simp))
  last := fun hl => h (List.mem_of_getLast? hl)

end Rule

namespace Replacement

variable {r : Replacement}

theorem exists_spell (r : Replacement) :
    ∃ x, r.spell = '#' :: (x ++ '#' :: r.ending) := by
  cases hf : r.firstOnly with
  | false =>
    refine ⟨'#' :: (r.pattern.source.toList ++ ['#']), ?_⟩
    simp [spell, ending, hf]
  | true =>
    refine ⟨'#' :: (r.pattern.source.toList ++ ('#' :: '#' :: (r.text.toList ++ ['#', '#']))), ?_⟩
    simp [spell, ending, hf]

theorem asRead_of_firstOnly (h : r.firstOnly = true) : r.asRead = r := if_pos h

theorem asRead_of_all (h : r.firstOnly = false) :
    r.asRead = { r with text := String.ofList (trimEnd r.text.toList) } :=
  if_neg (Bool.eq_false_iff.mp h)

theorem firstOnly_asRead (r : Replacement) : r.asRead.firstOnly = r.firstOnly := by
  unfold asRead
  split <;> rfl

theorem ending_asRead (h : r.firstOnly = false) : r.asRead.ending = trimEnd r.text.toList := by
  rw [asRead_of_all h, ending, if_neg (Bool.eq_false_iff.mp h), String.toList_ofList]

theorem asRead_eq_iff (h : r.firstOnly = false) :
    r.asRead = r ↔ trimEnd r.text.toList = r.text.toList := by
  rw [asRead_of_all h]
  constructor
  · intro he
    have ht := congrArg (fun r : Replacement => r.text.toList) he
    rwa [String.toList_ofList] at ht
  · intro ht
    rw [ht, String.ofList_toList]

theorem trimEnd_spell (r : Replacement) : trimEnd r.spell = r.asRead.spell := by
  have hhash : ∀ s : List Char, ∀ c, (s ++ ['#', '#']).getLast? = some c → isBlank c = false := by
    intro s c hc
    rw [List.getLast?_append_of_ne_nil _ (by simp)] at hc
    cases hc
    decide
  cases hf : r.firstOnly with
  | true =>
    rw [asRead_of_firstOnly hf]
    refine trimEnd_of_getLast fun c hc => hhash
      (['#', '#'] ++ (r.pattern.source.toList ++ (['#', '#'] ++ (r.text.toList ++ ['#'])))) c ?_
    simpa [spell, hf] using hc
  | false =>
    have hs : r.spell =
        ['#', '#'] ++ r.pattern.source.toList ++ ['#', '#'] ++ r.text.toList := by
      simp [spell, hf]
    rw [asRead_of_all hf, hs, trimEnd_append (hhash _)]
    simp [spell, hf]

namespace Bare

variable (h : r.Bare)
include h

theorem printable : r.asRead.Printable := by
  have hw : r.asRead.text.toList <+: r.text.toList := by
    cases hf : r.firstOnly with
    | true => rw [asRead_of_firstOnly hf]
    | false =>
      rw [asRead_of_all hf, String.toList_ofList]
      exact trimEnd_prefix _
  have hp : r.asRead.pattern = r.pattern := by
    unfold asRead
    split <;> rfl
  have hhash : '#' ∉ r.asRead.text.toList := fun hm => h.textHash (hw.subset hm)
  refine
    { compiles := hp ▸ h.compiles
      nonempty := hp ▸ h.nonempty
      pattern := hp ▸ h.pattern
      unhashed := hp ▸ unhashed_of_notMem h.patternHash
      text := h.text.of_infix hw.isInfix
      trimmed := fun hf => ?_
      last := fun _ hs => ?_ }
  · rw [firstOnly_asRead] at hf
    rw [asRead_of_all hf, String.toList_ofList]
    exact trimEnd_of_getLast fun c hc => getLast_trimEnd hc
  · have hle := hs.sublist.count_le '#'
    rw [List.count_append, List.count_eq_zero.mpr hhash] at hle
    exact absurd hle (by decide)

theorem opening_spell : '\x7b' ∉ r.spell := by
  simp only [spell, List.mem_append, not_or]
  refine ⟨by decide, h.pattern.opening, by decide, h.text.opening, ?_⟩
  split <;> decide

end Bare

end Replacement

namespace Rule

variable {t : List Char} {r : Replacement}

/-- A query with a replacement behind it is one piece. -/
theorem split_suffix (h : BareQuery t) (hr : r.Bare) :
    split (t ++ r.spell) = [(.first, t ++ r.spell)] := by
  have hc : Clear (t ++ r.spell) [] :=
    .append (h.toPlain.clear .hash) (clear_replacement hr.pattern hr.text .nil)
  rw [Clear, marks, List.append_nil, List.append_nil] at hc
  rw [split, hc, pieces_chars]

theorem trim_suffix (h : BareQuery t) (r : Replacement) :
    trim (t ++ r.spell) = t ++ r.asRead.spell := by
  rw [(trimmed_iff.mpr h.trimmed).trim_append h.nonempty, r.trimEnd_spell]

theorem takePuts_suffix (h : BareQuery t) (hr : r.Bare) (n : Nat) :
    takePuts n (t ++ r.spell) = ([], t ++ r.spell) := by
  refine takePuts_eq (putFree_of_not_mem ?_) n
  rw [List.mem_append, not_or]
  exact ⟨h.opening, hr.opening_spell⟩

/-- A piece is read as its query and replacement, as far as they are left by trimming. -/
theorem readFragment_suffix (h : BareQuery t) (hr : r.Bare) (he : ¬Enclosed t r.asRead.ending)
    (link : Link) : readFragment link (t ++ r.spell) =
      .ok (some ⟨.default, String.ofList t, link, [], some r.asRead⟩) := by
  obtain ⟨x, hx⟩ := r.asRead.exists_spell
  have hd : detectDialect (t ++ r.asRead.spell) = (.default, t ++ r.asRead.spell) := by
    rw [hx]
    exact detectDialect_bare h he x
  have hs := splitReplacement_spell (unhashed_of_notMem h.hash) h.trimmed hr.printable
  have hne : t.isEmpty = false := by simpa using h.nonempty
  unfold readFragment
  simp only [takePuts_suffix h hr, readPuts, trim_suffix h, hd, reduceCtorEq, if_false, hs, bind,
    Except.bind, pure, Except.pure, hne, Bool.false_and, Bool.false_eq_true]

theorem readFragment_enclosed (h : BareQuery t) (hr : r.Bare) (he : Enclosed t r.asRead.ending)
    (link : Link) : ∃ body, readFragment link (t ++ r.spell) =
      .ok (some ⟨.script, body, link, [], none⟩) := by
  obtain ⟨x, hx⟩ := r.asRead.exists_spell
  obtain ⟨body, hb, hd⟩ := detectDialect_enclosed he x
  rw [← hx] at hd
  have hne : body.isEmpty = false := by simpa using hb
  refine ⟨String.ofList body, ?_⟩
  unfold readFragment
  simp only [takePuts_suffix h hr, readPuts, trim_suffix h, hd, if_true, bind,
    Except.bind, pure, Except.pure, hne, Bool.false_and, Bool.false_eq_true, if_false]

theorem resolve_asRead (h : BareQuery t) (hr : r.Bare) (he : ¬Enclosed t r.asRead.ending) :
    resolve (String.ofList (t ++ r.spell)) =
      .ok ⟨[⟨.default, String.ofList t, .first, [], some r.asRead⟩]⟩ := by
  refine resolve_of_split ?_ (readFragment_suffix h hr he .first) rfl
  rw [String.toList_ofList, split_suffix h hr]

theorem resolve_enclosed (h : BareQuery t) (hr : r.Bare) (he : Enclosed t r.asRead.ending) :
    ∃ script, resolve (String.ofList (t ++ r.spell)) =
      .ok ⟨[⟨.script, script, .first, [], none⟩]⟩ := by
  obtain ⟨script, hs⟩ := readFragment_enclosed h hr he .first
  refine ⟨script, resolve_of_split ?_ hs rfl⟩
  rw [String.toList_ofList, split_suffix h hr]

/-- A replacement that is closed by a third mark is read as it is written. Any other one is read so
exactly if its text neither ends in a blank nor closes a script block that the query opens; the
blanks at the end of a text are lost. -/
theorem resolve_suffix (h : BareQuery t) (hr : r.Bare) :
    let rule := String.ofList (t ++ r.spell)
    let chain (r : Replacement) : Chain := ⟨[⟨.default, String.ofList t, .first, [], some r⟩]⟩
    (r.firstOnly = true → resolve rule = .ok (chain r)) ∧
    (r.firstOnly = false →
      (resolve rule = .ok (chain r) ↔
        trimEnd r.text.toList = r.text.toList ∧ ¬Enclosed t r.text.toList) ∧
      (¬Enclosed t (trimEnd r.text.toList) →
        resolve rule = .ok (chain { r with text := String.ofList (trimEnd r.text.toList) })) ∧
      (Enclosed t (trimEnd r.text.toList) →
        ∃ script, resolve rule = .ok ⟨[⟨.script, script, .first, [], none⟩]⟩)) := by
  intro rule chain
  refine ⟨fun hf => ?_, fun hf => ?_⟩
  · have he : ¬Enclosed t r.asRead.ending := by
      rw [Replacement.asRead_of_firstOnly hf, Replacement.ending, if_pos hf]
      exact not_enclosed_nil
    have hread := resolve_asRead h hr he
    rwa [Replacement.asRead_of_firstOnly hf] at hread
  · have hread := resolve_asRead h hr
    have hscript := resolve_enclosed h hr
    rw [Replacement.ending_asRead hf] at hread hscript
    -- what is read is `r` without the blanks at its end, so it is `r` exactly if there are none
    refine ⟨⟨fun hresolve => ?_, fun ⟨ht, he⟩ => ?_⟩, fun he => ?_, hscript⟩
    · by_cases he : Enclosed t (trimEnd r.text.toList)
      · obtain ⟨script, hs⟩ := hscript he
        cases hs.symm.trans hresolve
      · have heq : chain r.asRead = chain r := Except.ok.inj ((hread he).symm.trans hresolve)
        have ht : trimEnd r.text.toList = r.text.toList :=
          (Replacement.asRead_eq_iff hf).mp (by simpa [chain] using heq)
        exact ⟨ht, ht ▸ he⟩
    · rw [hread (ht.symm ▸ he), (Replacement.asRead_eq_iff hf).mpr ht]
    · rw [hread he, Replacement.asRead_of_all hf]

theorem bareQuery_intro : BareQuery "p.intro@text".toList := by decide

theorem bare_blanks {p : Pattern} (hp : Pattern.compile? "\\s+" = some p) {w : String}
    (hw : Plain w.toList) (hh : '#' ∉ w.toList) (firstOnly : Bool) :
    Replacement.Bare ⟨p, w, firstOnly⟩ := by
  have hs : p.source = "\\s+" := Pattern.source_of_compile? hp
  exact ⟨hs ▸ hp, by rw [hs]; decide, by rw [hs]; decide, by rw [hs]; decide, hw, hh⟩

/-- A blank for all blanks, closed by a third mark, and a text that ends in none. -/
theorem resolve_suffix_blank : ∃ p, Pattern.compile? "\\s+" = some p ∧
    BareQuery "p.intro@text".toList ∧ Replacement.Bare ⟨p, " ", true⟩ ∧
    Replacement.Bare ⟨p, " -", false⟩ ∧
    resolve "p.intro@text##\\s+## ###" =
      .ok ⟨[⟨.default, "p.intro@text", .first, [], some ⟨p, " ", true⟩⟩]⟩ ∧
    resolve "p.intro@text##\\s+## -" =
      .ok ⟨[⟨.default, "p.intro@text", .first, [], some ⟨p, " -", false⟩⟩]⟩ := by
  obtain ⟨p, hp⟩ : ∃ p, Pattern.compile? "\\s+" = some p :=
    Option.isSome_iff_exists.mp (by decide +kernel)
  have hs : p.source = "\\s+" := Pattern.source_of_compile? hp
  have hblank : Replacement.Bare ⟨p, " ", true⟩ := bare_blanks hp (by decide) (by decide) true
  have hdash : Replacement.Bare ⟨p, " -", false⟩ := bare_blanks hp (by decide) (by decide) false
  refine ⟨p, hp, bareQuery_intro, hblank, hdash, ?_, ?_⟩
  · obtain ⟨hfirst, -⟩ := resolve_suffix bareQuery_intro hblank
    have hr := hfirst rfl
    simp only [Replacement.spell, hs] at hr
    exact hr
  · obtain ⟨-, hall⟩ := resolve_suffix bareQuery_intro hdash
    have he : ¬Enclosed "p.intro@text".toList " -".toList := by
      rintro ⟨o, s, u, c, ho, -, htag, -⟩
      obtain ⟨_, _, rfl, -⟩ := exists_of_opening htag
      cases ho
    have ht : trimEnd " -".toList = " -".toList := by decide
    have hr := (hall rfl).1.mpr ⟨ht, he⟩
    simp only [Replacement.spell, hs] at hr
    exact hr

/-- A blank that ends the rule is not put for the blanks: they are all left out. -/
theorem resolve_loses_blank : ∃ p, Pattern.compile? "\\s+" = some p ∧
    BareQuery "p.intro@text".toList ∧ Replacement.Bare ⟨p, " ", false⟩ ∧
    resolve "p.intro@text##\\s+## " =
      .ok ⟨[⟨.default, "p.intro@text", .first, [], some ⟨p, "", false⟩⟩]⟩ := by
  obtain ⟨p, hp⟩ : ∃ p, Pattern.compile? "\\s+" = some p :=
    Option.isSome_iff_exists.mp (by decide +kernel)
  have hs : p.source = "\\s+" := Pattern.source_of_compile? hp
  have hblank : Replacement.Bare ⟨p, " ", false⟩ := bare_blanks hp (by decide) (by decide) false
  refine ⟨p, hp, bareQuery_intro, hblank, ?_⟩
  have ht : trimEnd " ".toList = [] := by decide
  have he : ¬Enclosed "p.intro@text".toList (Replacement.asRead ⟨p, " ", false⟩).ending := by
    rw [Replacement.ending_asRead rfl, ht]
    exact not_enclosed_nil
  have hr := resolve_asRead bareQuery_intro hblank he
  simp only [Replacement.asRead_of_all, Replacement.spell, hs, ht] at hr
  exact hr

end Rule

end Catalog
