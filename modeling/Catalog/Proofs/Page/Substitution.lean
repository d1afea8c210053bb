import Catalog.Page.Basic
import Catalog.Proofs.Text.Cut

/-! # Replacing references

A text is read once from left to right, and each reference in it is replaced by the text that its
key stands for. What stands between the references stays as it is. What is put in is not read again,
so it may look like a reference itself.
-/

namespace Catalog

namespace Variables

/-- A text in which no reference to a variable starts anywhere. -/
def Unreferenced (s : List Char) : Prop := ∀ t, t <:+ s → reference? t = none

theorem reference?_of_ne {c : Char} (h : c ≠ '@') (r : List Char) : reference? (c :: r) = none := by
  have hp : ("@get:\x7b".toList).isPrefixOf? (c :: r) = none := by
    simp [List.isPrefixOf?, Ne.symm h]
  rw [reference?, hp]

theorem expandWith_of_unreferenced {s : List Char} (h : Unreferenced s) (value : String → String)
    (n : Nat) : expandWith value n s = s := by
  induction s generalizing n with
  | nil => cases n <;> rfl
  | cons c r ih =>
    cases n with
    | zero => rfl
    | succ n =>
      have hr : Unreferenced r := fun t ht => h t (ht.trans (List.suffix_cons c r))
      simp only [expandWith, h (c :: r) (List.suffix_refl _), ih hr n]

theorem Unreferenced.of_notMem {s : List Char} (h : '@' ∉ s) : Unreferenced s := by
  intro t ht
  cases t with
  | nil => rfl
  | cons c r =>
    have hc : c ≠ '@' := by
      rintro rfl
      exact h (ht.subset List.mem_cons_self)
    exact reference?_of_ne hc r

theorem Unreferenced.of_mark {s t : List Char} (hs : '@' ∉ s) (ht : '@' ∉ t)
    (h : reference? ('@' :: t) = none) : Unreferenced (s ++ '@' :: t) := by
  rintro u ⟨front, hu⟩
  cases u with
  | nil => rfl
  | cons c r =>
    by_cases hc : c = '@'
    · subst hc
      obtain ⟨-, -, rfl⟩ := (List.append_cons_inj_of_notMem hs ht).mp hu.symm
      exact h
    · exact reference?_of_ne hc r

theorem reference?_eq_some_iff {s key rest : List Char} :
    reference? s = some (key, rest) ↔ s = "@get:\x7b".toList ++ (key ++ '\x7d' :: rest) ∧
      key ≠ [] ∧ '\x7b' ∉ key ∧ '\x7d' ∉ key := by
  constructor
  · intro h
    unfold reference? at h
    split at h
    · cases h
    · next r hr =>
      rw [List.isPrefixOf?_eq_some_iff_append_eq] at hr
      have hw := List.prefix_iff_eq_append.mp
        (List.takeWhile_prefix (l := r) fun c => c != '\x7b' && c != '\x7d')
      dsimp only at h
      split at h
      · cases h
      · next hk =>
        split at h
        · next hd =>
          cases h
          rw [hd] at hw
          refine ⟨by rw [← hr, hw], by simpa using hk, ?_, ?_⟩ <;>
            exact fun hm => by simpa using List.mem_takeWhile_imp hm
        · cases h
  · rintro ⟨rfl, hn, ho, hc⟩
    have hp : ("@get:\x7b".toList).isPrefixOf? ("@get:\x7b".toList ++ (key ++ '\x7d' :: rest)) =
        some (key ++ '\x7d' :: rest) := List.isPrefixOf?_eq_some_iff_append_eq.mpr rfl
    have hall : ∀ c ∈ key, (c != '\x7b' && c != '\x7d') = true := by
      intro c hm
      simpa using ⟨fun h => ho (h ▸ hm), fun h => hc (h ▸ hm)⟩
    have hw : (key ++ '\x7d' :: rest).takeWhile (fun c => c != '\x7b' && c != '\x7d') = key := by
      simp [List.takeWhile_append_of_pos hall]
    have he : key.isEmpty = false := by simpa using hn
    simp only [reference?, hp, hw, he, Bool.false_eq_true, if_false, List.drop_left]

theorem Unreferenced.append {s t : List Char} (hs : Unreferenced s) (ht : '\x7d' ∉ t) :
    Unreferenced (s ++ t) := by
  intro u hu
  rw [Option.eq_none_iff_forall_ne_some]
  rintro ⟨key, rest⟩ h
  obtain ⟨rfl, hk⟩ := reference?_eq_some_iff.mp h
  have hi : "@get:\x7b".toList ++ key ++ ['\x7d'] <:+: s ++ t := by
    refine List.IsInfix.trans ⟨[], rest, ?_⟩ hu.isInfix
    simp
  obtain ⟨front, rest, hs'⟩ := Text.infix_of_append_right hi ht
  have hr : reference? ("@get:\x7b".toList ++ (key ++ '\x7d' :: rest)) = none :=
    hs _ ⟨front, by simpa using hs'⟩
  rw [reference?_eq_some_iff.mpr ⟨rfl, hk⟩] at hr
  cases hr

/-- A text in which no reference seems to start. -/
structure Literal where
  text : String
  plain : ¬"@get:\x7b".toList <:+: text.toList

structure Key where
  name : String
  ne_empty : name ≠ ""
  no_brace : '\x7b' ∉ name.toList ∧ '\x7d' ∉ name.toList

/-- Literal texts with a reference between each two of them. -/
inductive Template where
  | last (literal : Literal)
  | before (literal : Literal) (key : Key) (rest : Template)

namespace Template

def text : Template → String
  | last literal => literal.text
  | before literal key rest => literal.text ++ ("@get:\x7b" ++ key.name ++ "\x7d") ++ rest.text

def fill (value : String → String) : Template → String
  | last literal => literal.text
  | before literal key rest => literal.text ++ value key.name ++ rest.fill value

end Template

section

variable {value : String → String} {n : Nat} {s key rest : List Char}

@[simp] theorem expandWith_nil : expandWith value n [] = [] := by
  cases n <;> rfl

/-- Up to the next reference, or to the end, a literal text stays as it is. Its last characters and
the first ones behind it make no reference, as the mark holds its first character only once. -/
theorem expandWith_literal (hs : ¬"@get:\x7b".toList <:+: s)
    (hr : ∀ c, rest.head? = some c → c = '@') (hn : s.length ≤ n) :
    expandWith value n (s ++ rest) = s ++ expandWith value (n - s.length) rest := by
  induction s generalizing n with
  | nil => rfl
  | cons c s ih =>
    have hnone : reference? (c :: (s ++ rest)) = none := by
      rw [Option.eq_none_iff_forall_ne_some]
      rintro ⟨key, more⟩ h
      obtain ⟨he, -⟩ := reference?_eq_some_iff.mp h
      have hp : "@get:\x7b".toList <+: (c :: s) ++ rest := ⟨_, he.symm⟩
      refine hs (Text.prefix_of_prefix_append hp (List.cons_ne_nil c s) ?_).isInfix
      intro d e _ hd hpair
      obtain rfl := hr e hd
      exact absurd (Text.mem_tail_of_pair hpair) (by decide)
    cases n with
    | zero => cases hn
    | succ n =>
      have htail : ¬"@get:\x7b".toList <:+: s := fun h =>
        hs (h.trans (List.suffix_cons c s).isInfix)
      simp only [List.cons_append, expandWith, hnone, List.length_cons, Nat.add_sub_add_right]
      rw [ih htail (Nat.le_of_succ_le_succ hn)]

/-- A reference is replaced, and reading goes on behind it. -/
theorem expandWith_of_reference (h : reference? s = some (key, rest)) (n : Nat) :
    expandWith value (n + 1) s = (value (String.ofList key)).toList ++ expandWith value n rest := by
  cases s with
  | nil => cases h
  | cons c r => simp only [expandWith, h]

theorem expandWith_template (t : Template) (hn : t.text.toList.length ≤ n) :
    expandWith value n t.text.toList = (t.fill value).toList := by
  induction t generalizing n with
  | last literal =>
    have hl : expandWith value n (literal.text.toList ++ []) = _ :=
      expandWith_literal literal.plain (by simp) hn
    simpa [Template.text, Template.fill] using hl
  | before literal key rest ih =>
    have hkey : reference? ("@get:\x7b".toList ++ (key.name.toList ++ '\x7d' :: rest.text.toList)) =
        some (key.name.toList, rest.text.toList) :=
      reference?_eq_some_iff.mpr ⟨rfl, by simpa using key.ne_empty, key.no_brace⟩
    have htext : (Template.before literal key rest).text.toList = literal.text.toList ++
        ("@get:\x7b".toList ++ (key.name.toList ++ '\x7d' :: rest.text.toList)) := by
      simp [Template.text]
    rw [htext] at hn ⊢
    have hlen := hn
    simp only [List.length_append, List.length_cons] at hlen
    obtain ⟨m, hm⟩ : ∃ m, n - literal.text.toList.length = m + 1 :=
      Nat.exists_eq_add_one.mpr (by omega)
    calc expandWith value n _
      _ = literal.text.toList ++ expandWith value (m + 1) _ := by
        rw [expandWith_literal literal.plain (by simp) (by omega), hm]
      _ = literal.text.toList ++ ((value key.name).toList ++ (rest.fill value).toList) := by
        rw [expandWith_of_reference hkey, String.ofList_toList, ih (by omega)]
      _ = ((Template.before literal key rest).fill value).toList := by
        simp [Template.fill]

end

end Variables

theorem Page.expand_of_unreferenced {text : String} (h : Variables.Unreferenced text.toList)
    (p : Page) (vars : Variables) : p.expand vars text = text := by
  rw [expand, Variables.expand, Variables.expandWith_of_unreferenced h, String.ofList_toList]

/-- Replacing references is one pass: each reference of a template yields the text that is stored
under its key, or nothing, and all else stays as it is. On a page the address of the page stands for
`baseUrl` as long as nothing is stored there. -/
theorem Variables.substitute_template (t : Template) :
    (∀ vars : Variables, vars.substitute t.text = t.fill fun key => (vars.get? key).getD "") ∧
    ∀ (p : Page) (vars : Variables), p.expand vars t.text =
      t.fill fun key => (vars.get? key).getD (if key = "baseUrl" then p.baseUrl else "") := by
  have hexpand (value : String → Option String) :
      expand value t.text = t.fill fun key => (value key).getD "" := by
    rw [expand, expandWith_template t (Nat.le_of_eq String.length_toList), String.ofList_toList]
  refine ⟨fun vars => hexpand vars.get?, fun p vars => ?_⟩
  have hvalue :
      (fun key => (vars.get? key <|> if key = "baseUrl" then some p.baseUrl else none).getD "") =
        fun key => (vars.get? key).getD (if key = "baseUrl" then p.baseUrl else "") := by
    funext key
    cases vars.get? key with
    | some stored => rfl
    | none =>
      by_cases hk : key = "baseUrl" <;> simp [hk]
  rw [Page.expand, hexpand, hvalue]

theorem Variables.substitute_template_marks :
    let t : Template := .before ⟨"x@get:", by decide⟩ ⟨"a", by decide, by decide⟩
      (.before ⟨"y\x7d", by decide⟩ ⟨"baseUrl", by decide, by decide⟩ (.last ⟨"\x7b", by decide⟩))
    let vars := ofList [("a", "@get:\x7ba\x7d$1")]
    t.text = "x@get:@get:\x7ba\x7dy\x7d@get:\x7bbaseUrl\x7d\x7b" ∧
      vars.substitute t.text = "x@get:@get:\x7ba\x7d$1y\x7d\x7b" ∧
      ∀ p : Page, p.expand vars t.text = "x@get:@get:\x7ba\x7d$1y\x7d" ++ p.baseUrl ++ "\x7b" := by
  intro t vars
  have ha : vars.get? "a" = some "@get:\x7ba\x7d$1" := by decide +kernel
  have hb : vars.get? "baseUrl" = none := by decide +kernel
  refine ⟨by decide +kernel, ?_, fun p => ?_⟩
  · rw [(substitute_template t).1 vars]
    simp [t, Template.fill, ha, hb]
  · rw [(substitute_template t).2 p vars]
    simp [t, Template.fill, ha, hb, ← String.append_assoc]

end Catalog
