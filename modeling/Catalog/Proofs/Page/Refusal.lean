import Catalog.Proofs.Json.Path
import Catalog.Proofs.Page.Enumeration

/-! # Scripts inside of queries

The text of a query may hold a script. Reading values off markup refuses such a query, whatever stands
behind it in the rule. Reading off JSON takes the text as a path, and finding nodes on markup takes it
as a selector, without a look at the script.
-/

namespace Catalog

theorem Text.occursIn_iff {mark s : List Char} (hm : mark ≠ []) :
    Text.occursIn mark s = true ↔ mark <:+: s := by
  constructor
  · intro h
    by_contra hi
    rw [occursIn, cutAt?_eq_none hm hi] at h
    cases h
  · intro h
    rw [occursIn]
    induction s with
    | nil => exact absurd (List.infix_nil.mp h) hm
    | cons c r ih =>
      rw [cutAt?]
      split
      · rfl
      · next hn =>
        rcases List.infix_cons_iff.mp h with ⟨t, ht⟩ | h
        · rw [List.isPrefixOf?_eq_some_iff_append_eq.mpr ht] at hn
          cases hn
        · rw [Option.isSome_map]
          exact ih h

/-- A script is told by its mark or by the tag in front of it. -/
def HoldsScript (text : String) : Prop :=
  "<js>".toList <:+: text.toList ∨ "@js:".toList <:+: text.toList

theorem Target.hasScript_iff {text : String} : Target.hasScript text = true ↔ HoldsScript text := by
  rw [hasScript, Bool.or_eq_true, Text.occursIn_iff (by decide), Text.occursIn_iff (by decide)]
  rfl

namespace Page

def OnMarkup (p : Page) : Prop := ∃ spots onPage, p.target = .ok (.markup spots onPage)

/-- A query is refused for a script, or because it is a path and is read on markup. -/
def Refuses (p : Page) (f : Fragment) (vars : Variables) (e : Error) : Prop :=
  e = .unsupportedDialect .script ∨
    f.dialect = .jsonPath ∧ p.OnMarkup ∧ e = .invalidRule (p.expand vars f.text) .pathOnMarkup

variable {p : Page} {f : Fragment} {vars : Variables} {e : Error}

theorem isEmpty_of_holdsScript (hs : HoldsScript (p.expand vars f.text)) :
    f.text.isEmpty = false := by
  rw [← Bool.not_eq_true]
  intro he
  have ht : p.expand vars f.text = "" := by
    rw [String.isEmpty_iff.mp he]
    rfl
  rw [ht] at hs
  rcases hs with hs | hs <;> exact absurd (List.infix_nil.mp hs) (by decide)

theorem exists_refuses_values (hd : PathDialect f.dialect)
    (hs : HoldsScript (p.expand vars f.text)) (hm : p.OnMarkup) :
    ∃ e, p.Refuses f vars e ∧ p.values f vars = .error e := by
  obtain ⟨spots, onPage, ht⟩ := id hm
  rcases hd with hd | hd
  · refine ⟨_, .inl rfl, ?_⟩
    have hv : (Target.markup spots onPage).values .default (p.expand vars f.text) =
        .error (.unsupportedDialect .script) := by
      simp only [Target.values, Target.hasScript_iff.mpr hs, if_true]
    rw [values_of_target ht (isEmpty_of_holdsScript hs), hd, hv]
    rfl
  · refine ⟨_, .inr ⟨hd, hm, rfl⟩, ?_⟩
    rw [values_of_target ht (isEmpty_of_holdsScript hs), hd]
    rfl

theorem exists_refuses_nodes (hd : f.dialect = .jsonPath)
    (hs : HoldsScript (p.expand vars f.text)) (hm : p.OnMarkup) :
    ∃ e, p.Refuses f vars e ∧ p.nodes f vars = .error e := by
  obtain ⟨spots, onPage, ht⟩ := id hm
  refine ⟨_, .inr ⟨hd, hm, rfl⟩, ?_⟩
  rw [nodes_of_target ht (isEmpty_of_holdsScript hs), hd]
  rfl

variable {d : Dialect}

theorem target_ne_unsupported : p.target ≠ .error (.unsupportedDialect d) := by
  intro h
  unfold target at h
  split at h
  · cases h
  · split at h
    · cases h
    · cases h
    · split at h <;> cases h
    · cases h
    · cases h
    · cases h

theorem parse_ne_unsupported {text : String} :
    Json.Path.parse text ≠ .error (.unsupportedDialect d) := by
  intro h
  rw [Json.Path.parse_eq] at h
  split at h <;> cases h

theorem select_ne_unsupported {spots : List Markup.Spot} {rule : String} :
    Target.select spots rule ≠ .error (.unsupportedDialect d) := by
  intro h
  unfold Target.select Markup.selector at h
  dsimp only at h
  split at h
  · cases h
  · split at h <;> cases h

/-- Values are refused for a script only where they are read off markup. -/
theorem onMarkup_of_values (hd : PathDialect f.dialect)
    (h : p.values f vars = .error (.unsupportedDialect d)) : p.OnMarkup := by
  unfold values at h
  split at h
  · cases h
  rcases Error.error_of_bind_error h with ht | ⟨t, ht, h⟩
  · exact absurd ht target_ne_unsupported
  rcases Error.error_of_bind_error h with h | ⟨_, -, h⟩
  · cases t with
    | markup spots onPage => exact ⟨spots, onPage, ht⟩
    | json v =>
      have hparse : Json.Path.parse (p.expand vars f.text) ≠ .error (.unsupportedDialect d) :=
        parse_ne_unsupported
      refine absurd ?_ hparse
      rcases hd with hd | hd <;>
      · rw [hd] at h
        exact Error.error_of_map_error h
  · cases h

theorem nodes_ne_unsupported (hd : PathDialect f.dialect) :
    p.nodes f vars ≠ .error (.unsupportedDialect d) := by
  intro h
  unfold nodes at h
  split at h
  · cases h
  rcases Error.error_of_bind_error h with ht | ⟨t, -, h⟩
  · exact target_ne_unsupported ht
  cases t with
  | markup spots onPage =>
    rcases hd with hd | hd <;> simp only [hd, Target.nodes] at h
    · exact select_ne_unsupported (Error.error_of_map_error h)
    · cases h
  | json v =>
    have hparse : Json.Path.parse (p.expand vars f.text) ≠ .error (.unsupportedDialect d) :=
      parse_ne_unsupported
    refine hparse ?_
    rcases hd with hd | hd <;>
    · rw [hd] at h
      exact Error.error_of_map_error h

/-- A query with a script in it is refused, whatever follows it in the rule, exactly where values
are read off markup, or where it is a path that is to find nodes on markup. -/
theorem refuses_script_iff (hd : PathDialect f.dialect) (hf : f.puts = [])
    (hs : HoldsScript (p.expand vars f.text)) :
    (∀ isUrl, (∀ rest, ∃ e, p.Refuses f vars e ∧
      (p.queryString ⟨f :: rest⟩ isUrl).run vars = (.error e, vars)) ↔ p.OnMarkup) ∧
    ((∀ rest, ∃ e, p.Refuses f vars e ∧
      (p.queryList ⟨f :: rest⟩).run vars = (.error e, vars)) ↔ p.OnMarkup) ∧
    ((∀ rest, ∃ e, p.Refuses f vars e ∧
      (p.queryNodes ⟨f :: rest⟩).run vars = (.error e, vars)) ↔
        p.OnMarkup ∧ f.dialect = .jsonPath) := by
  have hmap {α : Type} {g : List String → α} {e : Error}
      (h : ((p.values f vars).map g, vars) = (.error e, vars)) : p.values f vars = .error e := by
    cases hv : p.values f vars <;> rw [hv] at h <;> cases h
    rfl
  have hvalues {e : Error} (hr : p.Refuses f vars e) (he : p.values f vars = .error e) :
      p.OnMarkup := by
    rcases hr with rfl | ⟨-, hm, -⟩
    · exact onMarkup_of_values hd he
    · exact hm
  have hnodes {e : Error} (hr : p.Refuses f vars e) (he : p.nodes f vars = .error e) :
      p.OnMarkup ∧ f.dialect = .jsonPath := by
    rcases hr with rfl | ⟨hj, hm, -⟩
    · exact absurd he (nodes_ne_unsupported hd)
    · exact ⟨hm, hj⟩
  refine ⟨fun isUrl => ⟨fun h => ?_, fun hm rest => ?_⟩, ⟨fun h => ?_, fun hm rest => ?_⟩,
    ⟨fun h => ?_, fun ⟨hm, hj⟩ rest => ?_⟩⟩
  -- the rule that is the query alone decides, as nothing else could be refused in it
  · obtain ⟨e, hr, he⟩ := h []
    exact hvalues hr (hmap ((run_queryString hf).symm.trans he))
  · obtain ⟨e, hr, he⟩ := exists_refuses_values hd hs hm
    exact ⟨e, hr, run_queryString_of_error hf he rest⟩
  · obtain ⟨e, hr, he⟩ := h []
    exact hvalues hr (hmap ((run_queryList hf).symm.trans he))
  · obtain ⟨e, hr, he⟩ := exists_refuses_values hd hs hm
    exact ⟨e, hr, run_queryList_of_error hf he rest⟩
  · obtain ⟨e, hr, he⟩ := h []
    exact hnodes hr (congrArg Prod.fst ((run_queryNodes hf).symm.trans he))
  · obtain ⟨e, hr, he⟩ := exists_refuses_nodes hj hs hm
    exact ⟨e, hr, run_queryNodes_of_error hf he rest⟩

theorem refuses_script_iff_pages :
    let f : Fragment := ⟨.default, "p@js:x", .first, [], none⟩
    let markup : Page := ⟨"u", some (.markup (.parse "<p>x</p>")), .page⟩
    let json : Page := ⟨"u", some (.json (.array [])), .page⟩
    HoldsScript (markup.expand .empty f.text) ∧ HoldsScript (json.expand .empty f.text) ∧
      (∀ rest, ∃ e, markup.Refuses f .empty e ∧
        (markup.queryString ⟨f :: rest⟩ false).run .empty = (.error e, .empty)) ∧
      ¬(∀ rest, ∃ e, json.Refuses f .empty e ∧
        (json.queryList ⟨f :: rest⟩).run .empty = (.error e, .empty)) ∧
      ¬(∀ rest, ∃ e, markup.Refuses f .empty e ∧
        (markup.queryNodes ⟨f :: rest⟩).run .empty = (.error e, .empty)) := by
  intro f markup json
  have hmarkup : markup.OnMarkup := ⟨_, _, rfl⟩
  have hjson : ¬json.OnMarkup := by
    rintro ⟨_, _, h⟩
    cases h
  have hs : HoldsScript (markup.expand .empty f.text) := .inr (by decide +kernel)
  have hs' : HoldsScript (json.expand .empty f.text) := .inr (by decide +kernel)
  obtain ⟨ht, -, hn⟩ := refuses_script_iff (p := markup) (.inl rfl) rfl hs
  obtain ⟨-, hl, -⟩ := refuses_script_iff (p := json) (.inl rfl) rfl hs'
  exact ⟨hs, hs', (ht false).mpr hmarkup, fun h => hjson (hl.mp h), fun h => nomatch (hn.mp h).2⟩

/-- On JSON a path with a script in it is one to a member that is not there. -/
theorem reads_script_as_path :
    let f : Fragment := .plain .jsonPath "$.a@js:b"
    let p : Page := ⟨"u", some (.json (.object [("a", .string "x")])), .page⟩
    HoldsScript (p.expand .empty f.text) ∧
      (p.queryString ⟨[f]⟩ false).run .empty = (.ok "", .empty) ∧
      (p.queryList ⟨[f]⟩).run .empty = (.ok [], .empty) ∧
      (p.queryNodes ⟨[f]⟩).run .empty = (.ok [], .empty) := by
  intro f p
  have ht : p.target = .ok (.json (.object [("a", .string "x")])) := rfl
  have he : p.expand .empty "$.a@js:b" = "$.a@js:b" := by decide +kernel
  have hp : Json.Path.parse "$.a@js:b" = .ok ⟨[.key "a@js:b"]⟩ := by decide +kernel
  have hv : p.values f .empty = .ok [] := by
    rw [values_json ht (.inr rfl) (by decide), he, hp]
    rfl
  have hn : p.nodes f .empty = .ok [] := by
    rw [nodes_json ht (.inr rfl) (by decide), he, hp]
    rfl
  refine ⟨.inr (he ▸ by decide), ?_, ?_, ?_⟩
  · rw [run_queryString rfl, hv]
    rfl
  · rw [run_queryList rfl, hv]
    rfl
  · rw [run_queryNodes rfl, hn]

end Page

end Catalog
