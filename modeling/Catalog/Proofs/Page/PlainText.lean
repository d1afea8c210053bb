import Catalog.Proofs.Page.Ensures
import Catalog.Proofs.Page.Refusal
import Catalog.Proofs.Text.NormalForm

/-! # Plain text

What is read as text off markup is in the normal form of blanks, so it has no line feed in it. Where
every fragment of a rule reads text, the lines of what the rule reads as one text are what it reads
as a list. Names of authors are in the same form.
-/

namespace Catalog

namespace Target

def ReadsText (text : String) : Prop :=
  (splitExtractor text).2 = "text" ∨ (splitExtractor text).2 = ""

instance (text : String) : Decidable (ReadsText text) := inferInstanceAs (Decidable (_ ∨ _))

variable {text : String} {spots : List Markup.Spot} {onPage : Bool} {d : Dialect}
  {values : List String}

theorem ReadsText.extract_eq (h : ReadsText text) (n : Markup.Node) :
    extract (splitExtractor text).2 n = n.plainText := by
  rcases h with h | h <;> rw [h] <;> rfl

theorem isNormal_of_values (hd : Page.SelectorDialect d) (ht : ReadsText text)
    (h : (markup spots onPage).values d text = .ok values) :
    ∀ v ∈ values, Text.IsNormal v.toList := by
  have hv : (markup spots onPage).values d text =
      if hasScript text then .error (.unsupportedDialect .script)
      else (select spots (splitExtractor text).1).map fun found =>
        found.map fun s => extract (splitExtractor text).2 s.node := by
    rcases hd with rfl | rfl <;> rfl
  rw [hv] at h
  split at h
  · cases h
  · obtain ⟨found, -, rfl⟩ := Error.ok_of_map_ok h
    intro v hm
    obtain ⟨s, -, rfl⟩ := List.mem_map.mp hm
    rw [ht.extract_eq, Markup.Node.plainText, String.toList_ofList]
    exact Text.isNormal_normalize _

end Target

namespace Page

/-- What may have been set by the time a fragment of a chain is read: the assignments of its
fragments are carried out one after the other. -/
inductive Reached (p : Page) (c : Chain) (vars : Variables) : List (String × String) → Prop where
  | start : Reached p c vars []
  | store {log : List (String × String)} {f : Fragment} (h : Reached p c vars log)
      (hf : f ∈ c.fragments) : Reached p c vars ((p.store f).resume vars log).2

/-- A fragment of a rule that is a selector for text, whatever has been set before it is read. -/
structure TextFragment (p : Page) (c : Chain) (vars : Variables) (f : Fragment) : Prop where
  dialect : SelectorDialect f.dialect
  replacement : f.replacement = none
  readsText : ∀ log, p.Reached c vars log → Target.ReadsText (p.expand (vars.putAll log) f.text)

variable {p : Page} {c : Chain} {f : Fragment} {vars : Variables}

theorem isNormal_of_values {values : List String} (hm : p.OnMarkup) (hd : SelectorDialect f.dialect)
    (ht : Target.ReadsText (p.expand vars f.text)) (h : p.values f vars = .ok values) :
    ∀ v ∈ values, Text.IsNormal v.toList := by
  obtain ⟨spots, onPage, hs⟩ := hm
  cases he : f.text.isEmpty with
  | true =>
    rw [Page.values, he] at h
    cases h
    exact fun v hv => absurd hv List.not_mem_nil
  | false =>
    rw [values_of_target hs he] at h
    obtain ⟨all, ha, rfl⟩ := Error.ok_of_map_ok h
    intro v hv
    exact Target.isNormal_of_values hd ht ha v (List.mem_filter.mp hv).1

theorem readList_ensures (hm : p.OnMarkup) (hf : f ∈ c.fragments) (h : p.TextFragment c vars f) :
    Reading.Ensures vars (p.Reached c vars) (fun values => ∀ v ∈ values, Text.IsNormal v.toList)
      (fun _ => True) (p.readList f) := by
  have hstore : Reading.Ensures vars (p.Reached c vars) (fun _ => True) (fun _ => True)
      (p.store f) := by
    intro log hr
    refine ⟨hr.store hf, ?_⟩
    cases ((p.store f).resume vars log).1 <;> trivial
  refine (hstore.bind fun _ _ => Reading.Ensures.current.bind fun v hv => ?_).bind
    (P := fun values => (∀ v ∈ values, Text.IsNormal v.toList) ∧ ∀ v ∈ values, v.isEmpty = false)
    fun values hv => ?_
  · obtain ⟨log, hr, rfl⟩ := hv
    refine .ofExcept ?_
    cases hv : p.values f (vars.putAll log) with
    | error e => trivial
    | ok values =>
      exact ⟨isNormal_of_values hm h.dialect (h.readsText log hr) hv, nonempty_of_values hv⟩
  · rw [Chain.keep_of_nonempty h.replacement hv.2]
    exact .pure hv.1

theorem isNormal_of_queryList {list : List String} (hm : p.OnMarkup)
    (h : ∀ f ∈ c.fragments, p.TextFragment c vars f)
    (hl : ((p.queryList c).run vars).1 = .ok list) : ∀ v ∈ list, Text.IsNormal v.toList := by
  have he : Reading.Ensures vars (p.Reached c vars) (∀ v ∈ ·, Text.IsNormal v.toList)
      (fun _ => True) (p.queryList c) := by
    rw [queryList_eq]
    refine Chain.firstNonempty_ensures fun alternative ha f hf => ?_
    have hc := Chain.mem_of_mem_alternatives ha hf
    exact readList_ensures hm hc (h f hc)
  have ho : Outcome _ _ ((p.queryList c).run vars).1 := (he [] .start).2
  rw [hl] at ho
  exact ho

/-- The text of a rule is its list, joined. -/
theorem queryString_of_queryList {list : List String}
    (h : ∀ f ∈ c.fragments, f.dialect ≠ .regex ∧ f.replacement = none)
    (hl : ((p.queryList c).run vars).1 = .ok list) :
    ((p.queryString c false).run vars).1 = .ok ("\n".intercalate list) := by
  have hj : Reading.Alike Joins (Chain.firstNonempty (p.readText false) c.alternatives)
      (Chain.firstNonempty p.readList c.alternatives) :=
    Chain.firstNonempty_joins fun alternative ha f hf =>
      have hc := h f (Chain.mem_of_mem_alternatives ha hf)
      p.fragment_joins hc.1 hc.2
  obtain ⟨hr, -⟩ := hj.bind (f := fun parts => pure ("\n".intercalate parts)) (g := pure)
    (S := fun text values => text = "\n".intercalate values) (fun _ _ hp => .pure hp.text) vars []
  rw [bind_pure, ← queryString_eq, ← queryList_eq] at hr
  have he : ((p.queryString c false).run vars).1 = ((p.queryList c).run vars).1.map _ := hr.eq_map
  rw [he, hl]
  rfl

end Page

/-- Texts that are read off markup, and names of authors, are in the normal form of blanks: each of
them is its own normal form. So the lines of what is read as one text are what is read as a list. A
name is the normal form of a part of its line, and does not name a collection if that is a single
line. -/
theorem Page.lines_of_queryString :
    (∀ s, Text.normalize s = s ↔ Text.IsNormal s) ∧
    (∀ spots onPage d text values, SelectorDialect d → Target.ReadsText text →
      (Target.markup spots onPage).values d text = .ok values →
        ∀ v ∈ values, Text.IsNormal v.toList) ∧
    (∀ (p : Page) (c : Chain) (vars : Variables) (list : List String), p.OnMarkup →
      (∀ f ∈ c.fragments, p.TextFragment c vars f) →
      ((p.queryList c).run vars).1 = .ok list → list ≠ [] →
        ∃ text, ((p.queryString c false).run vars).1 = .ok text ∧
          (text.split '\n').toList.map (·.copy) = list) ∧
    ∀ line, Text.IsNormal (Text.formatAuthor line) ∧
      (∃ part, part <:+: line ∧ Text.formatAuthor line = Text.normalize part) ∧
      ('\n' ∉ line → ¬['作', '品', '集'] <:+: Text.formatAuthor line) := by
  refine ⟨fun _ => Text.normalize_eq_self_iff,
    fun _ _ _ _ _ hd ht h => Target.isNormal_of_values hd ht h,
    fun p c vars list hm hc hl hn => ?_, fun line => ?_⟩
  · have hq := queryString_of_queryList (fun f hf => ⟨?_, (hc f hf).replacement⟩) hl
    · refine ⟨_, hq, ?_⟩
      have hs := String.toList_split_intercalate (c := '\n') fun v hv =>
        (isNormal_of_queryList hm hc hl v hv).newline_notMem
      rwa [if_neg hn] at hs
    · rcases (hc f hf).dialect with hd | hd <;> rw [hd] <;> decide
  · obtain ⟨part, hp, he⟩ := Text.exists_formatAuthor line
    exact ⟨he ▸ Text.isNormal_normalize part, ⟨part, hp, he⟩, Text.formatAuthor_collection⟩

/-- Two fragments, the first of which sets a variable; and a line with a label and a decoration. -/
theorem Page.lines_of_queryString_and :
    let doc := Markup.Document.parse "<p> a\n b</p><i>c</i>"
    let p : Page := ⟨"u", some (.markup doc), .page⟩
    let c : Chain :=
      ⟨[⟨.default, "p@text", .first, [("k", "i")], none⟩, ⟨.css, "i", .and, [], none⟩]⟩
    let line := "作者： 猫\u3000腻作品集 1".toList
    (p.OnMarkup ∧ (∀ f ∈ c.fragments, p.TextFragment c .empty f) ∧
        ((p.queryList c).run .empty).1 = .ok ["a b", "c"] ∧
        ∃ text, ((p.queryString c false).run .empty).1 = .ok text ∧
          (text.split '\n').toList.map (·.copy) = ["a b", "c"]) ∧
      ((Target.markup doc.roots true).values .default "p" = .ok ["a b"] ∧
        ∀ v ∈ ["a b"], Text.IsNormal v.toList) ∧
      '\n' ∉ line ∧ Text.formatAuthor line = "猫 腻".toList ∧
        ¬['作', '品', '集'] <:+: Text.formatAuthor line := by
  intro doc p c line
  obtain ⟨-, hv, hq, hf⟩ := Page.lines_of_queryString
  have hm : p.OnMarkup := ⟨_, _, rfl⟩
  have he (text : String) (hu : Variables.Unreferenced text.toList) (ht : Target.ReadsText text) :
      ∀ log, p.Reached c .empty log →
        Target.ReadsText (p.expand (Variables.putAll .empty log) text) :=
    fun log _ => by rwa [expand_of_unreferenced hu]
  have hc : ∀ f ∈ c.fragments, p.TextFragment c .empty f := by
    refine List.forall_mem_cons.mpr ⟨⟨.inl rfl, rfl, he _ ?_ (by decide +kernel)⟩,
      List.forall_mem_singleton.mpr ⟨.inr rfl, rfl, he _ ?_ (by decide +kernel)⟩⟩
    · exact .of_mark (s := ['p']) (by decide) (by decide) (by decide)
    · exact .of_notMem (by decide)
  have hl : ((p.queryList c).run .empty).1 = .ok ["a b", "c"] := by decide +kernel
  have hp : (Target.markup doc.roots true).values .default "p" = .ok ["a b"] := by decide +kernel
  have hn : '\n' ∉ line := by decide
  exact ⟨⟨hm, hc, hl, hq p c .empty _ hm hc hl (by decide)⟩,
    ⟨hp, hv _ _ _ _ _ (.inl rfl) (by decide +kernel) hp⟩, hn, by decide +kernel, (hf line).2.2 hn⟩

end Catalog
