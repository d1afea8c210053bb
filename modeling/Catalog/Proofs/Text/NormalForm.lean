import Mathlib.Data.List.Chain
import Catalog.Proofs.Text.Cut
import Catalog.Text.Author

/-! # The normal form of blanks

A text is in normal form if it neither starts nor ends with a blank and every blank in it is a
single space. Texts are put into this form, and nothing else is changed: a text in normal form stays
as it is, and a word in the result stands in the text. The name in an author line is the normal form
of a part of the line.
-/

namespace Catalog.Text

variable {s mark : List Char} {gap : Bool}

/-- No blank stands at an end, and each one inside is a space between two characters that are no
blanks. -/
structure IsNormal (s : List Char) : Prop where
  trimmed : Trimmed s
  space : ∀ c ∈ s, isBlank c = true → c = ' '
  single : s.IsChain fun c d => isBlank c = true → isBlank d = false

theorem IsNormal.newline_notMem (h : IsNormal s) : '\n' ∉ s :=
  fun hm => absurd (h.space '\n' hm rfl) (by decide)

theorem squeezeFrom_space {c : Char} (hm : c ∈ squeezeFrom gap s) (hc : isBlank c = true) :
    c = ' ' := by
  induction s generalizing gap with
  | nil => cases hm
  | cons d r ih =>
    rw [squeezeFrom] at hm
    split at hm
    · split at hm
      · exact ih hm
      · exact (List.mem_cons.mp hm).elim id ih
    · next hd =>
      rcases List.mem_cons.mp hm with rfl | hm
      · exact absurd hc hd
      · exact ih hm

theorem head_squeezeFrom_true {c : Char} (h : (squeezeFrom true s).head? = some c) :
    isBlank c = false := by
  induction s with
  | nil => cases h
  | cons d r ih =>
    rw [squeezeFrom] at h
    split at h
    · exact ih h
    · next hd =>
      cases h
      simpa using hd

theorem squeezeFrom_single (gap : Bool) (s : List Char) :
    (squeezeFrom gap s).IsChain fun c d => isBlank c = true → isBlank d = false := by
  induction s generalizing gap with
  | nil => exact .nil
  | cons c r ih =>
    rw [squeezeFrom]
    split
    · split
      · exact ih true
      · exact List.isChain_cons.mpr ⟨fun d hd _ => head_squeezeFrom_true hd, ih true⟩
    · next hc => exact List.isChain_cons.mpr ⟨fun d _ hb => absurd hb hc, ih false⟩

theorem head_squeezeFrom_false {c : Char} (h : s.head? = some c) (hc : isBlank c = false) :
    (squeezeFrom false s).head? = some c := by
  cases s with
  | nil => cases h
  | cons d r =>
    cases h
    simp [squeezeFrom, hc]

theorem getLast_squeezeFrom {c : Char} (h : s.getLast? = some c) (hc : isBlank c = false) :
    (squeezeFrom gap s).getLast? = some c := by
  induction s generalizing gap with
  | nil => cases h
  | cons d r ih =>
    cases r with
    | nil =>
      obtain rfl : d = c := by simpa using h
      simp [squeezeFrom, hc]
    | cons e r =>
      rw [List.getLast?_cons_cons] at h
      have hs {d : Char} {gap : Bool} :
          (d :: squeezeFrom gap (e :: r)).getLast? = some c := by
        rw [List.getLast?_cons, ih h]
        rfl
      rw [squeezeFrom]
      split
      · split
        · exact ih h
        · exact hs
      · exact hs

theorem Trimmed.squeeze (h : Trimmed s) : Trimmed (squeeze s) := by
  cases hf : s.head? with
  | none =>
    rw [List.head?_eq_none_iff.mp hf]
    exact ⟨nofun, nofun⟩
  | some c =>
    obtain ⟨d, hl⟩ : ∃ d, s.getLast? = some d := by
      cases s with
      | nil => cases hf
      | cons c r => exact ⟨_, List.getLast?_eq_some_getLast (List.cons_ne_nil c r)⟩
    refine ⟨fun e he => ?_, fun e he => ?_⟩
    · cases (head_squeezeFrom_false hf (h.1 c hf)).symm.trans he
      exact h.1 c hf
    · cases (getLast_squeezeFrom hl (h.2 d hl)).symm.trans he
      exact h.2 d hl

theorem isNormal_normalize (s : List Char) : IsNormal (normalize s) where
  trimmed := (trimmed_trim s).squeeze
  space _ := squeezeFrom_space
  single := squeezeFrom_single false (trim s)

theorem squeezeFrom_of_single (hs : ∀ c ∈ s, isBlank c = true → c = ' ')
    (hc : s.IsChain fun c d => isBlank c = true → isBlank d = false)
    (hg : gap = true → ∀ c, s.head? = some c → isBlank c = false) : squeezeFrom gap s = s := by
  induction s generalizing gap with
  | nil => rfl
  | cons c r ih =>
    obtain ⟨hd, hr⟩ := List.isChain_cons.mp hc
    have hs' : ∀ c ∈ r, isBlank c = true → c = ' ' := fun c hm => hs c (List.mem_cons_of_mem _ hm)
    rw [squeezeFrom]
    split
    · next hb =>
      have hn : ¬gap = true := fun h => by simp [hg h c rfl] at hb
      rw [if_neg hn, ih hs' hr fun _ d hm => hd d hm hb, hs c List.mem_cons_self hb]
    · have hq : squeezeFrom false r = r := ih hs' hr nofun
      rw [hq]

/-- The normal form is what normalizing does not change. -/
theorem normalize_eq_self_iff : normalize s = s ↔ IsNormal s := by
  constructor
  · intro h
    exact h ▸ isNormal_normalize s
  · intro h
    rw [normalize, trimmed_iff.mp h.trimmed]
    exact squeezeFrom_of_single h.space h.single fun hg => nomatch hg

theorem prefix_of_squeezeFrom (h : mark <+: squeezeFrom false s)
    (hm : ∀ c ∈ mark, isBlank c = false) : mark <+: s := by
  induction s generalizing mark with
  | nil => exact h
  | cons d r ih =>
    cases mark with
    | nil => exact List.nil_prefix
    | cons c mark =>
      obtain ⟨hc, hm⟩ := List.forall_mem_cons.mp hm
      rw [squeezeFrom] at h
      split at h
      · next hd =>
        have hp : c :: mark <+: ' ' :: squeezeFrom true r := h
        obtain ⟨rfl, -⟩ := List.cons_prefix_cons.mp hp
        cases hc
      · obtain ⟨rfl, hp⟩ := List.cons_prefix_cons.mp h
        exact List.cons_prefix_cons.mpr ⟨rfl, ih hp hm⟩

theorem infix_of_squeezeFrom (h : mark <:+: squeezeFrom gap s) (hn : mark ≠ [])
    (hm : ∀ c ∈ mark, isBlank c = false) : mark <:+: s := by
  induction s generalizing gap with
  | nil => exact h
  | cons d r ih =>
    rw [squeezeFrom] at h
    split at h
    · split at h
      · exact (ih h).trans (List.suffix_cons d r).isInfix
      · rcases List.infix_cons_iff.mp h with hp | h
        · obtain ⟨c, mark, rfl⟩ := List.exists_cons_of_ne_nil hn
          obtain ⟨rfl, -⟩ := List.cons_prefix_cons.mp hp
          exact absurd (hm ' ' List.mem_cons_self) (by decide)
        · exact (ih h).trans (List.suffix_cons d r).isInfix
    · next hd =>
      rcases List.infix_cons_iff.mp h with hp | h
      · have hs : squeezeFrom false (d :: r) = d :: squeezeFrom false r := by
          rw [squeezeFrom, if_neg hd]
        exact (prefix_of_squeezeFrom (hs ▸ hp) hm).isInfix
      · exact (ih h).trans (List.suffix_cons d r).isInfix

theorem trim_infix (s : List Char) : trim s <:+: s :=
  have hp := trimEnd_prefix (trimStart s)
  hp.isInfix.trans (List.dropWhile_suffix isBlank).isInfix

theorem infix_of_normalize (h : mark <:+: normalize s) (hn : mark ≠ [])
    (hm : ∀ c ∈ mark, isBlank c = false) : mark <:+: s :=
  (infix_of_squeezeFrom h hn hm).trans <| trim_infix s

namespace Author

variable {rest : List Char}

theorem trimStart_suffix (s : List Char) : trimStart s <:+ s := List.dropWhile_suffix isBlank

theorem suffix_of_trimStart {c : Char} (h : trimStart s = c :: rest) : rest <:+ s :=
  (List.suffix_cons c rest).trans (h ▸ trimStart_suffix s)

theorem dropColon_suffix (s : List Char) : dropColon s <:+ s := by
  unfold dropColon
  split
  · next c r hs =>
    split
    · exact (trimStart_suffix r).trans (suffix_of_trimStart hs)
    · exact hs ▸ trimStart_suffix s
  · exact List.nil_suffix

theorem suffix_of_afterWord? (h : afterWord? s = some rest) : rest <:+ s := by
  unfold afterWord? at h
  split at h
  · next c t hs =>
    split at h
    · cases h
      exact (trimStart_suffix t).trans (suffix_of_trimStart hs)
    · split at h
      · cases h
        exact hs ▸ trimStart_suffix s
      · cases h
  · split at h <;> cases h
    exact List.nil_suffix

theorem suffix_of_afterLabel? (h : afterLabel? s = some rest) : rest <:+ s := by
  unfold afterLabel? at h
  split at h
  · next r hs =>
    split at h
    · next t hr =>
      cases h
      exact (dropColon_suffix t).trans ((suffix_of_trimStart hr).trans (suffix_of_trimStart hs))
    · cases h
  · refine List.IsSuffix.trans ?_ (trimStart_suffix s)
    split at h
    · next r hr => exact (suffix_of_afterWord? h).trans (suffix_of_dropStartAnyCase? hr)
    · obtain ⟨r, hr, h⟩ := Option.bind_eq_some_iff.mp h
      exact (suffix_of_afterWord? h).trans (suffix_of_dropStartAnyCase? hr)

theorem dropLabel_suffix (s : List Char) : dropLabel s <:+ s := by
  unfold dropLabel
  cases h : afterLabel? s with
  | none => exact List.suffix_rfl
  | some rest => exact suffix_of_afterLabel? h

theorem dropDecoration_prefix (s : List Char) : dropDecoration s <+: s := by
  induction s with
  | nil => exact List.prefix_rfl
  | cons c r ih =>
    rw [dropDecoration]
    split
    · exact List.nil_prefix
    · exact List.cons_prefix_cons.mpr ⟨rfl, ih⟩

/-- A collection is a decoration unless a line follows it. -/
theorem isDecoration_collection (h : '\n' ∉ rest) :
    isDecoration ('作' :: '品' :: '集' :: rest) = true := by
  have hd : rest.dropWhile (· != '\n') = [] := by
    refine List.dropWhile_eq_nil_iff.mpr fun c hc => ?_
    simpa using ne_of_mem_of_not_mem hc h
  simp [isDecoration, trimStart, isBlank, hd]

theorem collection_not_infix (h : '\n' ∉ s) : ¬['作', '品', '集'] <:+: dropDecoration s := by
  induction s with
  | nil => decide
  | cons c r ih =>
    rw [List.mem_cons, not_or] at h
    rw [dropDecoration]
    split
    · decide
    · next hd =>
      intro hi
      rcases List.infix_cons_iff.mp hi with hp | hi
      · have hs : ['作', '品', '集'] <+: c :: r :=
          hp.trans (List.cons_prefix_cons.mpr ⟨rfl, dropDecoration_prefix r⟩)
        obtain ⟨rest, hr⟩ := hs
        cases hr
        exact hd (isDecoration_collection fun hm => h.2 (by simpa using hm))
      · exact ih h.2 hi

end Author

theorem exists_formatAuthor (s : List Char) :
    ∃ part, part <:+: s ∧ formatAuthor s = normalize part :=
  ⟨_, (Author.dropDecoration_prefix _).isInfix.trans (Author.dropLabel_suffix s).isInfix, rfl⟩

theorem formatAuthor_collection (h : '\n' ∉ s) : ¬['作', '品', '集'] <:+: formatAuthor s := fun hi =>
  Author.collection_not_infix (fun hm => h ((Author.dropLabel_suffix s).subset hm))
    (infix_of_normalize hi (by decide) (by simp [isBlank]))

end Catalog.Text
