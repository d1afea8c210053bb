import Mathlib
import Catalog.Proofs.Page.Single
import Catalog.Proofs.Pattern.Match

/-! # The text of a pattern

A pattern that is read as a text gives one of its matches. The empty ones are dropped before the
first is taken, so it is the first match unless that is empty and a later one is not.
-/

namespace Catalog

open Pattern

namespace Pattern

/-- What is read off a match: its first group, or all of it where that group took no part. -/
def Match.value (m : Match) (subject : Subject) : String :=
  String.ofList ((m.text? subject 1 <|> m.text? subject 0).getD [])

def texts (pattern : Pattern) (subject : Subject) : List String :=
  (pattern.findAll subject).map (·.value subject)

def firstText (pattern : Pattern) (subject : Subject) : String :=
  ((pattern.find? subject).map (·.value subject)).getD ""

variable {source : String} {pattern : Pattern} {subject : Subject} {m : Match}

theorem head?_texts : (pattern.texts subject).head?.getD "" = pattern.firstText subject := by
  rw [texts, List.head?_map, head?_findAll, firstText]

theorem value_of_mem_findAll (hc : compile? source = some pattern)
    (hm : m ∈ pattern.findAll subject) :
    (m.text? subject 1 <|> m.text? subject 0).map String.ofList = some (m.value subject) := by
  obtain ⟨pos, hpos⟩ := findFrom_of_mem_findAll hm
  obtain ⟨bounds, hb⟩ := exists_group_zero hc hpos
  have h0 : m.text? subject 0 = some (subject.extract bounds.1 bounds.2).toList := by
    rw [Match.text?, hb]
    rfl
  rw [Match.value, h0]
  cases m.text? subject 1 <;> rfl

theorem text?_zero_of_captures (hc : compile? source = some pattern) (hz : pattern.captures = 0)
    (hm : m ∈ pattern.findAll subject) :
    (m.text? subject 0).map String.ofList = some (m.value subject) := by
  obtain ⟨pos, hpos⟩ := findFrom_of_mem_findAll hm
  have h1 : m.text? subject 1 = none := by
    rw [Match.text?, group?_eq_none hpos (by omega)]
    rfl
  rw [← value_of_mem_findAll hc hm, h1]
  rfl

end Pattern

namespace Target

def subject (t : Target) : Subject := t.haystack.toList.toArray

theorem matched_eq {source : String} {pattern : Pattern} (hc : compile? source = some pattern)
    (t : Target) : matched source t.haystack = .ok (pattern.texts t.subject) := by
  have hmap : (pattern.findAll t.subject).filterMap
      (fun m => (m.text? t.subject 1 <|> m.text? t.subject 0).map String.ofList) =
        pattern.texts t.subject := by
    rw [List.filterMap_congr fun m hm => value_of_mem_findAll hc hm, texts, ← List.filterMap_eq_map]
    rfl
  simp only [matched, hc]
  exact congrArg Except.ok hmap

end Target

/-- The first text that is not empty is the first of all unless that is empty. -/
theorem find?_nonempty_eq_head_iff (texts : List String) :
    (texts.find? (!·.isEmpty)).getD "" = texts.head?.getD "" ↔
      texts.head?.getD "" ≠ "" ∨ ∀ text ∈ texts, text = "" := by
  cases hf : texts.find? (!·.isEmpty) with
  | none =>
    have hall : ∀ text ∈ texts, text = "" := by simpa using hf
    refine ⟨fun _ => .inr hall, fun _ => ?_⟩
    cases texts with
    | nil => rfl
    | cons text rest => exact (hall text List.mem_cons_self).symm
  | some found =>
    have hne : found ≠ "" := by simpa using List.find?_some hf
    constructor
    · intro he
      exact .inl (he ▸ hne)
    · rintro (hh | hall)
      · cases texts with
        | nil => cases hf
        | cons text rest =>
          rw [List.find?_cons_of_pos (by simpa using hh)] at hf
          exact (Option.some.inj hf).symm
      · exact absurd (hall found (List.mem_of_find?_eq_some hf)) hne

namespace Page

variable {p : Page} {t : Target} {text : String} {vars : Variables} {pattern : Pattern}

theorem values_regex (ht : p.target = .ok t) (hn : text ≠ "")
    (hc : compile? (p.expand vars text) = some pattern) :
    p.values (.plain .regex text) vars = .ok ((pattern.texts t.subject).filter (!·.isEmpty)) := by
  have he : (Fragment.plain .regex text).text.isEmpty = false := by simpa [Fragment.plain] using hn
  have hm : t.values .regex (p.expand vars text) = _ := Target.matched_eq hc t
  rw [values_of_target ht he, Fragment.plain, hm]
  rfl

theorem queryString_regex (ht : p.target = .ok t) (hn : text ≠ "")
    (hc : compile? (p.expand vars text) = some pattern) :
    (p.queryString ⟨[.plain .regex text]⟩ false).run vars =
      (.ok (((pattern.texts t.subject).find? (!·.isEmpty)).getD ""), vars) := by
  have hkeep (v : String) : "\n".intercalate (Chain.keep (.plain .regex text) [v]) = v := by
    by_cases hv : v.isEmpty = true
    · rw [String.isEmpty_iff.mp hv]
      rfl
    · rw [Chain.keep_of_nonempty rfl (by simpa using hv)]
      exact String.intercalate_singleton
  have hsingle : single .regex false ((pattern.texts t.subject).filter (!·.isEmpty)) =
      ((pattern.texts t.subject).find? (!·.isEmpty)).getD "" := by
    simp only [single, List.head?_filter, if_false, if_true, Bool.false_eq_true]
  rw [run_queryString rfl, values_regex ht hn hc, Except.map, hkeep, ← hsingle]
  rfl

/-- A pattern is read as the first text of its matches that is not empty. This is the text of the
first match exactly if that is not empty, or all are. -/
theorem queryString_firstMatch (ht : p.target = .ok t) (hn : text ≠ "")
    (hc : compile? (p.expand vars text) = some pattern) :
    let answer := (p.queryString ⟨[.plain .regex text]⟩ false).run vars
    let texts := pattern.texts t.subject
    let first := pattern.firstText t.subject
    answer = (.ok ((texts.find? (!·.isEmpty)).getD ""), vars) ∧
      (answer = (.ok first, vars) ↔ first ≠ "" ∨ ∀ s ∈ texts, s = "") ∧
      (pattern.captures = 0 → ∀ m ∈ pattern.findAll t.subject,
        (m.text? t.subject 0).map String.ofList = some (m.value t.subject)) := by
  intro answer texts first
  have ha : answer = _ := queryString_regex ht hn hc
  have hfirst : texts.head?.getD "" = first := head?_texts
  refine ⟨ha, ?_, fun hz m hm => text?_zero_of_captures hc hz hm⟩
  rw [ha, ← hfirst, ← find?_nonempty_eq_head_iff]
  exact ⟨fun h => Except.ok.inj (Prod.mk.inj h).1, fun h => by rw [h]⟩

theorem queryString_firstMatch_member :
    let t : Target := .json (.object [("a", .string "x"), ("b", .string "")])
    let p : Page := ⟨"u", some (.json (.object [("a", .string "x"), ("b", .string "")])), .page⟩
    p.target = .ok t ∧ (compile? (p.expand .empty ":\"([^\"]*)\"")).isSome = true ∧
      (p.queryString ⟨[.plain .regex ":\"([^\"]*)\""]⟩ false).run .empty = (.ok "x", .empty) := by
  intro t p
  have he : p.expand .empty ":\"([^\"]*)\"" = ":\"([^\"]*)\"" := by decide +kernel
  have hv : (compile? ":\"([^\"]*)\"").map (fun pattern => pattern.firstText t.subject) =
      some "x" := by
    cbv
  obtain ⟨pattern, hc, hfirst⟩ := Option.map_eq_some_iff.mp hv
  rw [← he] at hc
  obtain ⟨-, ha, -⟩ := queryString_firstMatch (p := p) (t := t) rfl (by decide) hc
  rw [hfirst] at ha
  exact ⟨rfl, by rw [hc]; rfl, ha.mpr (.inl (by decide))⟩

/-- Where the text of the first match is empty, that of the second one is read. -/
theorem queryString_skips_empty_match :
    let t : Target := .json (.object [("a", .string ""), ("b", .string "x")])
    let p : Page := ⟨"u", some (.json (.object [("a", .string ""), ("b", .string "x")])), .page⟩
    p.target = .ok t ∧
    (∃ pattern m, compile? (p.expand .empty ":\"([^\"]*)\"") = some pattern ∧
      pattern.find? t.subject = some m ∧ m.text? t.subject 1 = some []) ∧
    (p.queryString ⟨[.plain .regex ":\"([^\"]*)\""]⟩ false).run .empty = (.ok "x", .empty) := by
  intro t p
  have he : p.expand .empty ":\"([^\"]*)\"" = ":\"([^\"]*)\"" := by decide +kernel
  have hv : (compile? ":\"([^\"]*)\"").map (fun pattern =>
      ((pattern.find? t.subject).bind fun m => m.text? t.subject 1, pattern.texts t.subject)) =
        some (some [], ["", "x"]) := by
    cbv
  obtain ⟨pattern, hc, hp⟩ := Option.map_eq_some_iff.mp hv
  obtain ⟨hfirst, htexts⟩ := Prod.mk.inj hp
  obtain ⟨m, hm, htext⟩ := Option.bind_eq_some_iff.mp hfirst
  rw [← he] at hc
  refine ⟨rfl, ⟨pattern, m, hc, hm, htext⟩, ?_⟩
  rw [queryString_regex (p := p) (t := t) rfl (by decide) hc, htexts]
  rfl

end Page

end Catalog
