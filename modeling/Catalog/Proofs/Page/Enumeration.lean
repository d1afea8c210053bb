import Catalog.Proofs.Page.Single
import Catalog.Proofs.Page.Substitution

/-! # Finding nodes and reading each of them

A rule is read as a list all at once, or its nodes are found first and then each of them is read. On
JSON each node is read by the path `$`; on markup a rule is a selector and an extractor, and each
node that the selector finds is read by the extractor alone. Both ways give the same values in the
same order, and fail alike.
-/

namespace Catalog

namespace Page

variable {p : Page} {vars : Variables} {log : List (String × String)}

def readEach (p : Page) (found each : Chain) : Reading (List String) := do
  let nodes ← p.queryNodes found
  let lists ← nodes.mapM fun node => (p.bindNode node).queryList each
  return lists.flatten

def valuesEach (p : Page) (found each : Fragment) (vars : Variables) :
    Except Error (List String) :=
  (p.nodes found vars).bind fun nodes =>
    (nodes.mapM fun node => (p.bindNode node).values each vars).map List.flatten

theorem resume_mapM_queryList (d : Dialect) (text : String) (nodes : List Handle) :
    (nodes.mapM fun node => (p.bindNode node).queryList ⟨[.plain d text]⟩).resume vars log =
      (nodes.mapM fun node => (p.bindNode node).values (.plain d text) (vars.putAll log), log) := by
  induction nodes with
  | nil => rfl
  | cons node nodes ih =>
    rw [List.mapM_cons, List.mapM_cons, Reading.resume_bind, resume_queryList]
    cases (p.bindNode node).values (.plain d text) (vars.putAll log) with
    | error e => rfl
    | ok values =>
      simp only [Reading.resume_bind, ih]
      cases nodes.mapM fun n => (p.bindNode n).values (.plain d text) (vars.putAll log) <;> rfl

variable {d₁ d₂ d₃ : Dialect} {whole found each : String}

/-- Rules of one fragment set nothing, so it is enough to compare what they yield. -/
theorem queryList_eq_readEach_of_values (h : ∀ vars, p.values (.plain d₁ whole) vars =
      p.valuesEach (.plain d₂ found) (.plain d₃ each) vars) :
    p.queryList ⟨[.plain d₁ whole]⟩ = p.readEach ⟨[.plain d₂ found]⟩ ⟨[.plain d₃ each]⟩ := by
  refine Reading.ext fun vars log => ?_
  rw [resume_queryList, h, readEach, Reading.resume_bind, resume_queryNodes, valuesEach]
  cases p.nodes (.plain d₂ found) (vars.putAll log) with
  | error e => rfl
  | ok nodes =>
    change (Except.map List.flatten (nodes.mapM _), log) = _
    simp only [Reading.resume_bind, resume_mapM_queryList]
    cases nodes.mapM fun node => (p.bindNode node).values (.plain d₃ each) (vars.putAll log) <;> rfl

theorem valuesEach_eq_flatMap {α : Type} {f g : Fragment} {vars : Variables} {node : α → Handle}
    {valuesOf : α → List String} {found : List α}
    (hn : p.nodes f vars = .ok (found.map node))
    (h : ∀ a ∈ found, (p.bindNode (node a)).values g vars = .ok (valuesOf a)) :
    p.valuesEach f g vars = .ok (found.flatMap valuesOf) := by
  have hm : ((found.map node).mapM fun n => (p.bindNode n).values g vars) =
      .ok (found.map valuesOf) := by
    rw [List.mapM_map]
    exact mapM_eq_pure_map h
  rw [valuesEach, hn]
  change Except.map List.flatten ((found.map node).mapM _) = _
  rw [hm]
  rfl

open Json (Value)

theorem unpack_strings (selected : List Value) :
    ∃ vs : List Value, Target.unpack selected = vs.map Handle.json ∧
      vs.flatMap Value.strings = selected.flatMap Value.strings := by
  have hi (items : List Value) : Json.itemStrings items = items.flatMap Value.strings := by
    induction items with
    | nil => rfl
    | cons v rest ih => rw [Json.itemStrings, ih, List.flatMap_cons]
  unfold Target.unpack
  split
  · rename_i items
    exact ⟨items, rfl, by simp [Value.strings, hi]⟩
  · exact ⟨selected, rfl, rfl⟩

theorem parse_root : Json.Path.parse "$" = .ok ⟨[]⟩ := by
  simp [Json.Path.parse, Json.Path.steps, Text.trim, Text.trimStart, Text.trimEnd, Text.isBlank]

def PathDialect (d : Dialect) : Prop := d = .default ∨ d = .jsonPath

theorem values_json {v : Value} (ht : p.target = .ok (.json v)) (hd : PathDialect d₁)
    {text : String} (hn : text ≠ "") (vars : Variables) :
    p.values (.plain d₁ text) vars = (Json.Path.parse (p.expand vars text)).map fun path =>
      ((path.select v).flatMap Value.strings).filter (!·.isEmpty) := by
  have he : (Fragment.plain d₁ text).text.isEmpty = false := by simpa [Fragment.plain] using hn
  rw [values_of_target ht he]
  rcases hd with rfl | rfl <;>
  · change ((Json.Path.parse (p.expand vars text)).map _).map _ = _
    cases Json.Path.parse (p.expand vars text) <;> rfl

theorem nodes_json {v : Value} (ht : p.target = .ok (.json v)) (hd : PathDialect d₁)
    {text : String} (hn : text ≠ "") (vars : Variables) :
    p.nodes (.plain d₁ text) vars = (Json.Path.parse (p.expand vars text)).map fun path =>
      Target.unpack (path.select v) := by
  have he : (Fragment.plain d₁ text).text.isEmpty = false := by simpa [Fragment.plain] using hn
  rw [nodes_of_target ht he]
  rcases hd with rfl | rfl <;> rfl

theorem target_bindNode_json {t : Target} (ht : p.target = .ok t) (v : Value) :
    (p.bindNode (.json v)).target = .ok (.json v) := by
  cases hc : p.content with
  | none => simp [target, hc] at ht
  | some content => simp [target, bindNode, scopeOf, hc]

theorem values_root {t : Target} (ht : p.target = .ok t) (hd : PathDialect d₁) (v : Value)
    (vars : Variables) :
    (p.bindNode (.json v)).values (.plain d₁ "$") vars =
      .ok (v.strings.filter (!·.isEmpty)) := by
  rw [values_json (target_bindNode_json ht v) hd (by decide),
    expand_of_unreferenced (.of_notMem (by decide)), parse_root]
  simp [Except.map, Json.Path.select, Json.Path.selectAll]

theorem values_eq_valuesEach_json {v : Value} (ht : p.target = .ok (.json v)) (hd : PathDialect d₁)
    (hd' : PathDialect d₂) (hd'' : PathDialect d₃) (path : String) (vars : Variables) :
    p.values (.plain d₁ path) vars = p.valuesEach (.plain d₂ path) (.plain d₃ "$") vars := by
  by_cases hn : path = ""
  · subst hn
    rfl
  · have hv := values_json ht hd hn vars
    have hf := nodes_json ht hd' hn vars
    cases hp : Json.Path.parse (p.expand vars path) with
    | error e => rw [valuesEach, hv, hf, hp]; rfl
    | ok path =>
      rw [hp] at hv hf
      obtain ⟨vs, hu, hs⟩ := unpack_strings (path.select v)
      rw [hv, valuesEach_eq_flatMap (hf.trans (congrArg Except.ok hu)) fun v _ =>
        values_root ht hd'' v vars, ← List.filter_flatMap, hs]
      rfl

theorem isOk_values_json {v : Value} (ht : p.target = .ok (.json v)) (hd : PathDialect d₁)
    {path : String} (hu : Variables.Unreferenced path.toList) (hp : (Json.Path.parse path).isOk)
    (vars : Variables) : (p.values (.plain d₁ path) vars).isOk := by
  by_cases hn : path = ""
  · subst hn
    rfl
  · rw [values_json ht hd hn, expand_of_unreferenced hu, Error.isOk_map]
    exact hp

def SelectorDialect (d : Dialect) : Prop := d = .default ∨ d = .css

/-- A selector and an extractor as they stand on the two sides of a mark. It is the only mark, no
script is told by it or in them, and it starts no reference. -/
structure Marked (selector extractor : String) : Prop where
  mark_notMem_selector : '@' ∉ selector.toList
  mark_notMem_extractor : '@' ∉ extractor.toList
  selector_scriptless : ¬"<js>".toList <:+: selector.toList
  extractor_scriptless : ¬"<js>".toList <:+: extractor.toList
  not_script : ¬"js:".toList <+: extractor.toList
  not_reference : Variables.reference? ('@' :: extractor.toList) = none

namespace Marked

variable {selector extractor : String}

theorem toList_mark (selector extractor : String) :
    (selector ++ "@" ++ extractor).toList = selector.toList ++ '@' :: extractor.toList := by
  simp [String.toList_append]

theorem of_empty (h : Marked selector extractor) : Marked "" extractor where
  mark_notMem_selector := by simp
  mark_notMem_extractor := h.mark_notMem_extractor
  selector_scriptless := by simp
  extractor_scriptless := h.extractor_scriptless
  not_script := h.not_script
  not_reference := h.not_reference

theorem unreferenced (h : Marked selector extractor) :
    Variables.Unreferenced (selector ++ "@" ++ extractor).toList := by
  rw [toList_mark]
  exact .of_mark h.mark_notMem_selector h.mark_notMem_extractor h.not_reference

theorem hasScript (h : Marked selector extractor) :
    Target.hasScript (selector ++ "@" ++ extractor) = false := by
  have hj : ¬"<js>".toList <:+: selector.toList ++ '@' :: extractor.toList := by
    intro hi
    rcases Text.infix_of_append_cons hi (by decide) with hs | hx
    · exact h.selector_scriptless hs
    · exact h.extractor_scriptless hx
  have ha : ¬"@js:".toList <:+: selector.toList ++ '@' :: extractor.toList := by
    intro hi
    rcases List.infix_cons_iff.mp (Text.infix_of_append_left hi h.mark_notMem_selector) with hp | hx
    · exact h.not_script (List.cons_prefix_cons.mp hp).2
    · exact h.mark_notMem_extractor (hx.subset List.mem_cons_self)
  rw [Target.hasScript, Text.occursIn, Text.occursIn, toList_mark,
    Text.cutAt?_eq_none (by decide) hj, Text.cutAt?_eq_none (by decide) ha]
  rfl

theorem splitExtractor (h : Marked selector extractor) :
    Target.splitExtractor (selector ++ "@" ++ extractor) =
      (trimmed selector, trimmed extractor) := by
  rw [Target.splitExtractor, toList_mark, Text.cutLast?_append h.mark_notMem_extractor]
  simp [String.ofList_toList]

end Marked

theorem select_trimmed (spots : List Markup.Spot) (rule : String) :
    Target.select spots (trimmed rule) = Target.select spots rule := by
  have ht : trimmed (trimmed rule) = trimmed rule := by simp [trimmed, Text.trim_trim]
  simp only [Target.select, ht]

variable {spots : List Markup.Spot} {onPage : Bool} {selector extractor : String}

theorem isOk_select (h : (Markup.selector (trimmed selector)).isOk) :
    (Target.select spots selector).isOk := by
  unfold Target.select
  simp only
  split
  · rfl
  · rwa [Error.isOk_map]

theorem values_markup (ht : p.target = .ok (.markup spots onPage)) (hd : SelectorDialect d₁)
    (h : Marked selector extractor) (vars : Variables) :
    p.values (.plain d₁ (selector ++ "@" ++ extractor)) vars =
      (Target.select spots selector).map fun found =>
        (found.map fun s => Target.extract (trimmed extractor) s.node).filter (!·.isEmpty) := by
  have he : (Fragment.plain d₁ (selector ++ "@" ++ extractor)).text.isEmpty = false := by
    simp [Fragment.plain]
  have hv : (Target.markup spots onPage).values d₁ (selector ++ "@" ++ extractor) =
      (Target.select spots selector).map fun found =>
        found.map fun s => Target.extract (trimmed extractor) s.node := by
    rcases hd with rfl | rfl <;>
      simp only [Target.values, h.hasScript, h.splitExtractor, select_trimmed] <;> rfl
  rw [values_of_target ht he, Fragment.plain, expand_of_unreferenced h.unreferenced, hv]
  cases Target.select spots selector <;> rfl

theorem nodes_markup (ht : p.target = .ok (.markup spots true)) (hd : SelectorDialect d₁)
    (hn : selector ≠ "") (hs : '@' ∉ selector.toList) (vars : Variables) :
    p.nodes (.plain d₁ selector) vars =
      (Target.select spots selector).map fun found => found.map fun s => .element s.node.id := by
  have he : (Fragment.plain d₁ selector).text.isEmpty = false := by simpa [Fragment.plain] using hn
  rw [nodes_of_target ht he, Fragment.plain, expand_of_unreferenced (.of_notMem hs)]
  rcases hd with rfl | rfl <;> rfl

def selected (p : Page) (selector : String) : List Markup.Spot :=
  match p.target with
  | .ok (.markup spots true) => (Target.select spots selector).toOption.getD []
  | _ => []

/-- What a selector finds is found again in the document by its number. -/
def FindsAgain (p : Page) (doc : Markup.Document) (selector : String) : Prop :=
  ∀ spot ∈ p.selected selector, (doc.find? spot.node.id).map (·.node) = some spot.node

instance (doc : Markup.Document) : Decidable (p.FindsAgain doc selector) :=
  inferInstanceAs (Decidable (∀ spot ∈ p.selected selector, _ = _))

theorem selected_eq {found : List Markup.Spot} (ht : p.target = .ok (.markup spots true))
    (hs : Target.select spots selector = .ok found) : p.selected selector = found := by
  rw [selected, ht]
  simp only [hs]
  rfl

variable {doc : Markup.Document}

theorem values_element (hc : p.content = some (.markup doc)) (hd : SelectorDialect d₁)
    (h : Marked selector extractor) {n : Markup.Node}
    (hf : (doc.find? n.id).map (·.node) = some n) (vars : Variables) :
    (p.bindNode (.element n.id)).values (.plain d₁ ("@" ++ extractor)) vars =
      .ok ([Target.extract (trimmed extractor) n].filter (!·.isEmpty)) := by
  obtain ⟨spot, hs, rfl⟩ := Option.map_eq_some_iff.mp hf
  have ht : (p.bindNode (.element spot.node.id)).target = .ok (.markup [spot] true) := by
    simp [target, bindNode, scopeOf, hc, hs]
  have hv := values_markup ht hd h.of_empty vars
  rwa [String.empty_append] at hv

theorem values_eq_valuesEach_spots (hc : p.content = some (.markup doc))
    (ht : p.target = .ok (.markup spots true)) (hd : SelectorDialect d₁)
    (hd' : SelectorDialect d₂) (hd'' : SelectorDialect d₃) (hn : selector ≠ "")
    (h : Marked selector extractor) (hf : p.FindsAgain doc selector) (vars : Variables) :
    p.values (.plain d₁ (selector ++ "@" ++ extractor)) vars =
      p.valuesEach (.plain d₂ selector) (.plain d₃ ("@" ++ extractor)) vars := by
  have hv := values_markup ht hd h vars
  have hm := nodes_markup ht hd' hn h.mark_notMem_selector vars
  cases hs : Target.select spots selector with
  | error e => rw [valuesEach, hv, hm, hs]; rfl
  | ok found =>
    rw [hs] at hv hm
    rw [hv, valuesEach_eq_flatMap hm fun s hs' =>
      values_element hc hd'' h (hf s ((selected_eq ht hs).symm ▸ hs')) vars, ← List.filter_flatMap,
      ← List.map_eq_flatMap]
    rfl

theorem values_eq_valuesEach_error {e : Error} (ht : p.target = .error e) {f g : Fragment}
    (hf : f.text.isEmpty = false) (hg : g.text.isEmpty = false) (h : Fragment) (vars : Variables) :
    p.values f vars = p.valuesEach g h vars := by
  rw [valuesEach, values, nodes, hf, hg, ht]
  rfl

theorem onPage_of_content (hc : p.content = some (.markup doc))
    (hs : p.scope = .page ∨ ∃ id, p.scope = .element id) {t : Target} (ht : p.target = .ok t) :
    ∃ spots, t = .markup spots true := by
  rcases hs with hs | ⟨id, hs⟩
  · simp only [target, hc, hs, Except.ok.injEq] at ht
    exact ⟨_, ht.symm⟩
  · simp only [target, hc, hs] at ht
    cases hf : doc.find? id with
    | none => simp [hf] at ht
    | some spot =>
      simp only [hf, Except.ok.injEq] at ht
      exact ⟨_, ht.symm⟩

theorem values_eq_valuesEach_markup (hc : p.content = some (.markup doc))
    (hs : p.scope = .page ∨ ∃ id, p.scope = .element id) (hd : SelectorDialect d₁)
    (hd' : SelectorDialect d₂) (hd'' : SelectorDialect d₃) (hn : selector ≠ "")
    (h : Marked selector extractor) (hf : p.FindsAgain doc selector) (vars : Variables) :
    p.values (.plain d₁ (selector ++ "@" ++ extractor)) vars =
      p.valuesEach (.plain d₂ selector) (.plain d₃ ("@" ++ extractor)) vars := by
  cases ht : p.target with
  | error e =>
    have hw : (Fragment.plain d₁ (selector ++ "@" ++ extractor)).text.isEmpty = false := by
      simp [Fragment.plain]
    have hs : (Fragment.plain d₂ selector).text.isEmpty = false := by simpa [Fragment.plain]
    exact values_eq_valuesEach_error ht hw hs _ vars
  | ok t =>
    obtain ⟨spots, rfl⟩ := onPage_of_content hc hs ht
    exact values_eq_valuesEach_spots hc ht hd hd' hd'' hn h hf vars

theorem isOk_values_markup (hc : p.content = some (.markup doc))
    (hs : p.scope = .page ∨ ∃ id, p.scope = .element id) (hd : SelectorDialect d₁)
    (h : Marked selector extractor) (hsel : (Markup.selector (trimmed selector)).isOk)
    (htarget : p.target.isOk) (vars : Variables) :
    (p.values (.plain d₁ (selector ++ "@" ++ extractor)) vars).isOk := by
  cases ht : p.target with
  | error e => simp [ht, Except.isOk, Except.toBool] at htarget
  | ok t =>
    obtain ⟨spots, rfl⟩ := onPage_of_content hc hs ht
    rw [values_markup ht hd h, Error.isOk_map]
    exact isOk_select hsel

/-- Finding nodes and then reading each of them is the same as reading all at once: the values and
their order, and the failures. On a value each node that a path finds is read by the path `$`; on a
page of markup or one of its elements each node that a selector finds is read by the extractor
alone. A path or a selector that is well-formed does not fail. -/
theorem queryList_eq_readEach (p : Page) :
    (∀ v d₁ d₂ d₃ path, p.target = .ok (.json v) →
      PathDialect d₁ → PathDialect d₂ → PathDialect d₃ →
      let all := p.queryList ⟨[.plain d₁ path]⟩
      all = p.readEach ⟨[.plain d₂ path]⟩ ⟨[.plain d₃ "$"]⟩ ∧
        (Variables.Unreferenced path.toList → (Json.Path.parse path).isOk →
          ∀ vars, (all.answer vars).1.isOk)) ∧
    (∀ doc d₁ d₂ d₃ selector extractor, p.content = some (.markup doc) →
      (p.scope = .page ∨ ∃ id, p.scope = .element id) →
      SelectorDialect d₁ → SelectorDialect d₂ → SelectorDialect d₃ →
      selector ≠ "" → Marked selector extractor → p.FindsAgain doc selector →
      let all := p.queryList ⟨[.plain d₁ (selector ++ "@" ++ extractor)]⟩
      all = p.readEach ⟨[.plain d₂ selector]⟩ ⟨[.plain d₃ ("@" ++ extractor)]⟩ ∧
        ((Markup.selector (trimmed selector)).isOk → p.target.isOk →
          ∀ vars, (all.answer vars).1.isOk)) := by
  constructor
  · intro v d₁ d₂ d₃ path ht hd hd' hd'' all
    refine ⟨queryList_eq_readEach_of_values (values_eq_valuesEach_json ht hd hd' hd'' path), ?_⟩
    intro hu hp vars
    have hr : all.answer vars = _ := resume_queryList d₁ path
    rw [hr]
    exact isOk_values_json ht hd hu hp _
  · intro doc d₁ d₂ d₃ selector extractor hc hs hd hd' hd'' hn hm hf all
    refine ⟨queryList_eq_readEach_of_values
      (values_eq_valuesEach_markup hc hs hd hd' hd'' hn hm hf), ?_⟩
    intro hsel ht vars
    have hr : all.answer vars = _ := resume_queryList d₁ (selector ++ "@" ++ extractor)
    rw [hr]
    exact isOk_values_markup hc hs hd hm hsel ht _

theorem queryList_eq_readEach_nested :
    let value : Value := .object [("l", .array [.string "a", .array [.string "b", .null]])]
    let json : Page := ⟨"u", some (.json value), .page⟩
    let doc := Markup.Document.parse "<ul><li id=a>1</li><li>2</li></ul>"
    let markup : Page := ⟨"u", some (.markup doc), .page⟩
    let items := json.queryList ⟨[.plain .default "l"]⟩
    let texts := markup.queryList ⟨[.plain .default "li@text"]⟩
    (items = json.readEach ⟨[.plain .jsonPath "l"]⟩ ⟨[.plain .default "$"]⟩ ∧
        items.answer .empty = (.ok ["a", "b"], []) ∧ ∀ vars, (items.answer vars).1.isOk) ∧
      Marked "li" "text" ∧ markup.FindsAgain doc "li" ∧
      texts = markup.readEach ⟨[.plain .css "li"]⟩ ⟨[.plain .default "@text"]⟩ ∧
      texts.answer .empty = (.ok ["1", "2"], []) ∧ ∀ vars, (texts.answer vars).1.isOk := by
  intro value json doc markup items texts
  have hu : Variables.Unreferenced "l".toList := .of_notMem (by decide)
  have hm : Marked "li" "text" := by constructor <;> decide
  have hf : markup.FindsAgain doc "li" := by decide +kernel
  obtain ⟨he, hj⟩ := (queryList_eq_readEach json).1 value .default .jsonPath .default "l" rfl
    (.inl rfl) (.inr rfl) (.inl rfl)
  obtain ⟨hx, hs⟩ := (queryList_eq_readEach markup).2 doc .default .css .default "li" "text" rfl
    (.inl rfl) (.inl rfl) (.inr rfl) (.inl rfl) (by decide) hm hf
  exact ⟨⟨he, by decide +kernel, hj hu (by decide +kernel)⟩, hm, hf, hx, by decide +kernel,
    hs (by decide +kernel) rfl⟩

/-- An extractor can complete a reference with the mark before it. The rule is then another selector
and no longer tells what is read off the nodes, while the extractor alone still reads something. -/
theorem queryList_ne_readEach_of_reference :
    let doc := Markup.Document.parse "<x>1</x>"
    let p : Page := ⟨"x", some (.markup doc), .page⟩
    let selector := "body"
    let extractor := "get:\x7bbaseUrl\x7d"
    ('@' ∉ selector.toList ∧ '@' ∉ extractor.toList ∧ ¬"<js>".toList <:+: selector.toList ∧
        ¬"<js>".toList <:+: extractor.toList ∧ ¬"js:".toList <+: extractor.toList) ∧
      (Markup.selector selector).isOk ∧ p.FindsAgain doc selector ∧
      (p.queryList ⟨[.plain .default (selector ++ "@" ++ extractor)]⟩).answer .empty =
        (.ok [], []) ∧
      (p.readEach ⟨[.plain .default selector]⟩ ⟨[.plain .default ("@" ++ extractor)]⟩).answer
        .empty = (.ok ["1"], []) := by
  decide +kernel

end Page

end Catalog
