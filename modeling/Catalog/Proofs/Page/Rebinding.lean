import Catalog.Proofs.Analysis.Isolation
import Catalog.Proofs.Page.Ensures
import Catalog.Proofs.Page.Nesting
import Catalog.Proofs.Page.Substitution

/-! # Nodes of a page that is bound no more

An element is found again by its number alone, which does not tell the page that it was found on.
Entered after another page has been bound, it is refused exactly if that page is JSON or has no node
with its number; else it is taken for the node of that page which has its number.
-/

namespace Catalog

section

variable {ω ν : Type}

/-- How a backend answers a call in a world, and the world that it leaves behind. -/
inductive Backend.Answers (b : Backend ω ν) (w : ω) : Act ν → ω → Prop where
  | load {body baseUrl answer w'} (h : (b.bind body baseUrl).run.run w = (answer, w')) :
      Answers b w (.load body baseUrl answer) w'
  | enter {node answer w'} (h : (b.bindNode node).run.run w = (answer, w')) :
      Answers b w (.enter node answer) w'
  | findNodes {c vars answer w'} (h : (b.findNodes c vars).run.run w = (answer, w')) :
      Answers b w (.findNodes c vars answer) w'
  | findElement {c vars answer w'} (h : (b.findElement c vars).run.run w = (answer, w')) :
      Answers b w (.findElement c vars answer) w'
  | readString {c isUrl vars answer w'}
      (h : (b.readString c isUrl vars).run.run w = (answer, w')) :
      Answers b w (.readString c isUrl vars answer) w'
  | readList {c vars answer w'} (h : (b.readList c vars).run.run w = (answer, w')) :
      Answers b w (.readList c vars answer) w'

inductive Backend.Session (b : Backend ω ν) : ω → List (Act ν) → ω → Prop where
  | nil {w : ω} : Session b w [] w
  | cons {w w' w'' : ω} {a : Act ν} {acts : List (Act ν)} (h : b.Answers w a w')
      (hs : Session b w' acts w'') : Session b w (a :: acts) w''

theorem Backend.session_append {b : Backend ω ν} {w w'' : ω} {before after : List (Act ν)} :
    b.Session w (before ++ after) w'' ↔ ∃ w', b.Session w before w' ∧ b.Session w' after w'' := by
  induction before generalizing w with
  | nil =>
    refine ⟨fun h => ⟨w, .nil, h⟩, ?_⟩
    rintro ⟨w', ⟨⟩, h⟩
    exact h
  | cons a before ih =>
    constructor
    · rintro (_ | ⟨ha, hs⟩)
      obtain ⟨w', hb, hs⟩ := ih.mp hs
      exact ⟨w', .cons ha hb, hs⟩
    · rintro ⟨w', _ | ⟨ha, hb⟩, hs⟩
      exact .cons ha (ih.mpr ⟨w', hb, hs⟩)

namespace Act

def isLoad : Act ν → Bool
  | load _ _ _ => true
  | _ => false

def rule? : Act ν → Option Chain
  | findNodes c _ _ => some c
  | findElement c _ _ => some c
  | readString c _ _ _ => some c
  | readList c _ _ => some c
  | _ => none

def failure? : Act ν → Option Error
  | load _ _ (.error e) => some e
  | enter _ (.error e) => some e
  | findNodes _ _ (.error e) => some e
  | findElement _ _ (.error e) => some e
  | readString _ _ _ (.error e) => some e
  | readList _ _ (.error e) => some e
  | _ => none

end Act

end

namespace Page

variable {p q : Page} {body baseUrl : String} {a : Act Handle} {acts : List (Act Handle)}

theorem run_ask {α : Type} (p : Page) (query : Page → Reading α) (vars : Variables) :
    (ask query vars).run.run p =
      (((query p).run vars).1.map (·, ((query p).run vars).2), p) := rfl

theorem run_ask_of_ok {α : Type} (query : Page → Reading α) {vars v : Variables} {x : α}
    (h : (query p).run vars = (.ok x, v)) : (ask query vars).run.run p = (.ok (x, v), p) := by
  rw [run_ask, h]
  rfl

theorem run_ask_of_error {α : Type} (query : Page → Reading α) {vars : Variables} {e : Error}
    (h : ((query p).run vars).1 = .error e) : (ask query vars).run.run p = (.error e, p) := by
  rw [run_ask, h]
  rfl

theorem run_findElement (p : Page) (c : Chain) (vars : Variables) :
    (backend.findElement c vars).run.run p =
      (((p.queryNodes c).run vars).1.map fun nodes =>
        (nodes.head?, ((p.queryNodes c).run vars).2), p) := by
  have hf : (backend.findNodes c vars).run.run p = _ := run_ask p (·.queryNodes c) vars
  have hb : backend.findElement c vars =
      (do let r ← backend.findNodes c vars; return (r.1.head?, r.2)) := rfl
  rw [hb, ExceptT.run_bind, StateT.run_bind, hf]
  cases ((p.queryNodes c).run vars).1 <;> rfl

theorem eq_of_query (h : backend.Answers p a q) (ha : a.rule?.isSome) : q = p := by
  cases h with
  | load => cases ha
  | enter => cases ha
  | findNodes h => exact (congrArg Prod.snd h).symm
  | readString h => exact (congrArg Prod.snd h).symm
  | readList h => exact (congrArg Prod.snd h).symm
  | findElement h => exact (congrArg Prod.snd ((run_findElement p _ _).symm.trans h)).symm

theorem Holds.answers (hp : p.Holds body baseUrl) (h : backend.Answers p a q)
    (ha : a.isLoad = false) : q.Holds body baseUrl := by
  cases hr : a.rule? with
  | some c => exact eq_of_query h (by rw [hr]; rfl) ▸ hp
  | none =>
    cases h with
    | load => cases ha
    | enter h =>
      obtain ⟨scope, rfl⟩ := hp
      cases h
      exact ⟨_, rfl⟩
    | findNodes => cases hr
    | findElement => cases hr
    | readString => cases hr
    | readList => cases hr

theorem Holds.session (hp : p.Holds body baseUrl) (h : backend.Session p acts q)
    (ha : ∀ a ∈ acts, a.isLoad = false) : q.Holds body baseUrl := by
  induction h with
  | nil => exact hp
  | cons hstep _ ih =>
    obtain ⟨ha, hs⟩ := List.forall_mem_cons.mp ha
    exact ih (hp.answers hstep ha) hs

/-- Whatever was done before, a node is entered on the page that was bound last. -/
theorem eq_bindNode_of_session {before between : List (Act Handle)} {node : Handle}
    {loaded entered : Except Error Unit}
    (h : backend.Session p (before ++ .load body baseUrl loaded :: between ++ [.enter node entered])
      q) (hb : ∀ a ∈ between, a.isLoad = false) : q = (bind body baseUrl).bindNode node := by
  obtain ⟨r, hr, hn⟩ := Backend.session_append.mp h
  obtain ⟨s, -, hr⟩ := Backend.session_append.mp hr
  cases hr with
  | cons hload hs =>
    cases hload with | load hload =>
    cases hload
    have hold : r.Holds body baseUrl := Holds.session ⟨.page, rfl⟩ hs hb
    cases hn with
    | cons henter hnil =>
      cases hnil
      cases henter with | enter henter =>
      cases henter
      exact hold.bindNode_eq node

end Page

namespace Chain

def HasText (c : Chain) : Prop := ∃ f ∈ c.fragments, f.text ≠ ""

/-- Why a rule fails where nothing can be read: for that reason, or for a rule that is to be read
for an assignment and cannot be resolved. -/
def Refusal (c : Chain) (fault : QueryFault) (e : Error) : Prop :=
  e = .query fault ∨ (∃ f ∈ c.fragments, f.puts ≠ []) ∧ ∃ rule, Rule.resolve rule = .error e

theorem forall_fragments {c : Chain} {S : Fragment → Prop}
    (h : ∀ alternative ∈ c.alternatives, ∀ f ∈ alternative, S f) : ∀ f ∈ c.fragments, S f := by
  intro f hf
  rw [← flatten_group c.fragments] at hf
  obtain ⟨alternative, ha, hf⟩ := List.mem_flatten.mp hf
  exact h alternative ha f hf

end Chain

variable {vars : Variables} {E : Error → Prop} {fault : QueryFault} {c : Chain} {f : Fragment}

theorem Reading.store_ensures {read : String → Reading String} {puts : List (String × String)}
    (h : ∀ a ∈ puts, Ensures vars (fun _ => True) (fun _ => True) E (read a.2)) :
    Ensures vars (fun _ => True) (fun _ => True) E (Reading.store read puts) := by
  induction puts with
  | nil => exact .pure trivial
  | cons a puts ih =>
    obtain ⟨ha, hs⟩ := List.forall_mem_cons.mp h
    have hset (value : String) :
        Ensures vars (fun _ => True) (fun _ => True) E (Reading.set a.1 value) :=
      fun _ _ => ⟨trivial, trivial⟩
    exact ha.bind fun value _ => (hset value).bind fun _ _ => ih hs

namespace Page

variable {p : Page}

theorem values_of_fault (ht : p.target = .error (.query fault)) (vars : Variables) :
    p.values f vars = if f.text.isEmpty then .ok [] else .error (.query fault) := by
  rw [values, ht]
  rfl

theorem nodes_of_fault (ht : p.target = .error (.query fault)) (vars : Variables) :
    p.nodes f vars = if f.text.isEmpty then .ok [] else .error (.query fault) := by
  rw [nodes, ht]
  rfl

variable (ht : p.target = .error (.query fault)) (he : E (.query fault))
include ht he

theorem values_barren (vars : Variables) :
    Outcome (fun values => values = [] ∧ f.text = "") E (p.values f vars) := by
  rw [values_of_fault ht]
  split
  · next h => exact ⟨rfl, String.isEmpty_iff.mp h⟩
  · exact he

theorem nodes_barren (vars : Variables) :
    Outcome (fun nodes => nodes = [] ∧ f.text = "") E (p.nodes f vars) := by
  rw [nodes_of_fault ht]
  split
  · next h => exact ⟨rfl, String.isEmpty_iff.mp h⟩
  · exact he

section

variable (hs : Reading.Ensures vars (fun _ => True) (fun _ => True) E (p.store f))
include hs

theorem readNodes_barren : Reading.Ensures vars (fun _ => True)
    (fun nodes => nodes = [] ∧ f.text = "") E (p.readNodes f) :=
  hs.bind fun _ _ => Reading.Ensures.current.bind fun v _ => .ofExcept (nodes_barren ht he v)

theorem readList_barren : Reading.Ensures vars (fun _ => True)
    (fun values => values = [] ∧ f.text = "") E (p.readList f) := by
  refine (hs.bind fun _ _ => Reading.Ensures.current.bind fun v _ =>
    .ofExcept (values_barren ht he v)).bind fun values hv => .pure ⟨?_, hv.2⟩
  rw [hv.1]
  rfl

theorem readText_barren (isUrl : Bool) : Reading.Ensures vars (fun _ => True)
    (fun values => values = [] ∧ f.text = "") E (p.readText isUrl f) := by
  have hv : Reading.Ensures vars (fun _ => True) (fun text => text = "" ∧ f.text = "") E
      (p.fragmentString isUrl f) := by
    refine Reading.Ensures.current.bind fun v _ =>
      (Reading.Ensures.ofExcept (values_barren ht he v)).bind fun values hv => .pure ⟨?_, hv.2⟩
    rw [hv.1, single]
    split
    · rfl
    · split <;> rfl
  refine (hs.bind fun _ _ => hv).bind fun text h => .pure ⟨?_, h.2⟩
  rw [h.1, Chain.keep, List.map_singleton, Fragment.postProcess]
  split <;> rfl

end

section

variable (hs : ∀ f ∈ c.fragments,
  Reading.Ensures vars (fun _ => True) (fun _ => True) E (p.store f))
include hs

theorem queryNodes_barren : Reading.Ensures vars (fun _ => True)
    (fun _ => ∀ f ∈ c.fragments, f.text = "") E (p.queryNodes c) := by
  rw [queryNodes_eq]
  refine (Chain.firstNonempty_barren fun alternative ha f hf => readNodes_barren ht he
    (hs f (Chain.mem_of_mem_alternatives ha hf))).imp (fun nodes hn => ?_) fun _ he => he
  exact Chain.forall_fragments hn.2

theorem queryList_barren : Reading.Ensures vars (fun _ => True)
    (fun _ => ∀ f ∈ c.fragments, f.text = "") E (p.queryList c) := by
  rw [queryList_eq]
  refine (Chain.firstNonempty_barren fun alternative ha f hf => readList_barren ht he
    (hs f (Chain.mem_of_mem_alternatives ha hf))).imp (fun values hv => ?_) fun _ he => he
  exact Chain.forall_fragments hv.2

theorem queryString_barren (isUrl : Bool) : Reading.Ensures vars (fun _ => True)
    (fun _ => ∀ f ∈ c.fragments, f.text = "") E (p.queryString c isUrl) := by
  rw [queryString_eq]
  refine (Chain.firstNonempty_barren fun alternative ha f hf => readText_barren ht he
    (hs f (Chain.mem_of_mem_alternatives ha hf)) isUrl).bind fun values hv => .pure ?_
  exact Chain.forall_fragments hv.2

end

theorem ruleString_ensures (hr : ∀ rule e, Rule.resolve rule = .error e → E e) (rule : String) :
    Reading.Ensures vars (fun _ => True) (fun _ => True) E (p.ruleString rule) := by
  induction hn : rule.utf8ByteSize using Nat.strongRecOn generalizing rule with
  | ind n ih =>
    subst hn
    rw [ruleString_eq]
    refine (Reading.Ensures.ofExcept (P := fun c => Rule.resolve rule = .ok c) ?_).bind
      fun c hc => ?_
    · cases h : Rule.resolve rule with
      | ok c => rfl
      | error e => exact hr rule e h
    · refine (queryString_barren ht he (fun f hf => ?_) false).imp (fun _ _ => trivial)
        fun _ he => he
      exact Reading.store_ensures fun a ha =>
        ih _ (Rule.puts_size_of_resolve hc hf ha) a.2 rfl

omit he

theorem store_refusal (hf : f ∈ c.fragments) :
    Reading.Ensures vars (fun _ => True) (fun _ => True) (c.Refusal fault) (p.store f) := by
  by_cases hp : f.puts = []
  · rw [store_of_puts hp]
    exact .pure trivial
  · have hr : Reading.Ensures vars (fun _ => True) (fun _ => True)
        (fun e => e = .query fault ∨ ∃ rule, Rule.resolve rule = .error e) (p.store f) :=
      Reading.store_ensures fun a _ =>
        ruleString_ensures ht (.inl rfl) (fun rule e h => .inr ⟨rule, h⟩) a.2
    exact hr.imp (fun _ _ => trivial) fun e he => he.imp_right fun h => ⟨⟨f, hf, hp⟩, h⟩

/-- Every query that is to read something fails. -/
theorem failure_of_fault {a : Act Handle} {q : Page} (h : backend.Answers p a q)
    (ha : a.rule? = some c) (hc : c.HasText) : ∃ e, a.failure? = some e ∧ c.Refusal fault e := by
  have hfail {α : Type} {x : Reading α} {vars : Variables} (hx : Reading.Ensures vars
      (fun _ => True) (fun _ => ∀ f ∈ c.fragments, f.text = "") (c.Refusal fault) x) :
      ∃ e, (x.run vars).1 = .error e ∧ c.Refusal fault e := by
    have ho : Outcome _ _ (x.run vars).1 := (hx [] trivial).2
    cases hr : (x.run vars).1 with
    | ok _ =>
      rw [hr] at ho
      obtain ⟨f, hf, ht⟩ := hc
      exact absurd (ho f hf) ht
    | error e => exact ⟨e, rfl, by rwa [hr] at ho⟩
  have he : c.Refusal fault (.query fault) := .inl rfl
  cases h with
  | load => cases ha
  | enter => cases ha
  | findNodes h =>
    cases ha
    obtain ⟨e, hr, hp⟩ := hfail (queryNodes_barren ht he fun f => store_refusal ht)
    cases (run_ask_of_error (·.queryNodes c) hr).symm.trans h
    exact ⟨e, rfl, hp⟩
  | findElement h =>
    cases ha
    obtain ⟨e, hr, hp⟩ := hfail (queryNodes_barren ht he fun f => store_refusal ht)
    rw [run_findElement, hr] at h
    cases h
    exact ⟨e, rfl, hp⟩
  | @readString _ isUrl _ _ _ h =>
    cases ha
    obtain ⟨e, hr, hp⟩ := hfail (queryString_barren ht he (fun f => store_refusal ht) isUrl)
    cases (run_ask_of_error (·.queryString c isUrl) hr).symm.trans h
    exact ⟨e, rfl, hp⟩
  | readList h =>
    cases ha
    obtain ⟨e, hr, hp⟩ := hfail (queryList_barren ht he fun f => store_refusal ht)
    cases (run_ask_of_error (·.queryList c) hr).symm.trans h
    exact ⟨e, rfl, hp⟩

theorem failure_of_session {q : Page} {reads : List (Act Handle)} {a : Act Handle}
    (h : backend.Session p reads q) (hr : ∀ a ∈ reads, a.rule?.isSome) (ha : a ∈ reads)
    (hc : a.rule? = some c) (ht' : c.HasText) :
    ∃ e, a.failure? = some e ∧ c.Refusal fault e := by
  generalize hp : p = p' at h
  induction h with
  | nil => cases ha
  | cons hstep _ ih =>
    subst hp
    obtain ⟨hr, hrs⟩ := List.forall_mem_cons.mp hr
    rcases List.mem_cons.mp ha with rfl | ha
    · exact failure_of_fault ht hstep hc ht'
    · exact ih hrs ha (eq_of_query hstep hr).symm

end Page

def Handle.element? : Handle → Option Nat
  | .element id => some id
  | _ => none

namespace Content

/-- Why an element cannot be read from content by its number, if it cannot. -/
def elementFault? (content : Content) (id : Nat) : Option QueryFault :=
  match content with
  | .json _ => some .elementOnJson
  | .markup d => if (d.find? id).isSome then none else some .staleNode

end Content

theorem Markup.Document.id_of_find? {d : Document} {id : Nat} {spot : Spot}
    (h : d.find? id = some spot) : spot.node.id = id := by
  obtain ⟨tree, -, hf⟩ := List.exists_of_findSome?_eq_some h
  simpa using List.find?_some hf

namespace Page

variable {p q : Page} {body baseUrl : String} {id : Nat}

theorem target_of_elementFault? (hf : (Content.parse body).elementFault? id = some fault) :
    ((bind body baseUrl).bindNode (.element id)).target = .error (.query fault) := by
  have hb : (bind body baseUrl).bindNode (.element id) =
      ⟨baseUrl, some (.parse body), .element id⟩ := rfl
  rw [hb, target]
  revert hf
  cases Content.parse body with
  | json v => rintro ⟨⟩; rfl
  | markup d => cases hd : d.find? id <;> simp [Content.elementFault?, hd]

theorem exists_target_of_elementFault? (baseUrl : String)
    (hf : (Content.parse body).elementFault? id = none) :
    ∃ d spot, Content.parse body = .markup d ∧ d.find? id = some spot ∧
      ((bind body baseUrl).bindNode (.element id)).target = .ok (.markup [spot] true) := by
  have hb : (bind body baseUrl).bindNode (.element id) =
      ⟨baseUrl, some (.parse body), .element id⟩ := rfl
  rw [hb, target]
  revert hf
  cases Content.parse body with
  | json v => exact nofun
  | markup d => cases hd : d.find? id <;> simp [Content.elementFault?, hd]

theorem nodes_blank {spot : Markup.Spot} (ht : p.target = .ok (.markup [spot] true))
    (vars : Variables) :
    p.nodes (.plain .default " ") vars = .ok [.element spot.node.id] := by
  rw [nodes_of_target ht rfl, Fragment.plain, expand_of_unreferenced (.of_notMem (by decide))]
  rfl

/-- What becomes of an element that is entered depends on the page that was bound last, whichever
page the element was found on. Where that page is JSON, or has no node with the number of the
element, every query that is to read something fails, and says so unless a rule to be set before
cannot be resolved. Else the node of that page with the number is read. -/
theorem entered_element {before between : List (Act Handle)} {loaded entered : Except Error Unit}
    (hs : backend.Session p
      (before ++ .load body baseUrl loaded :: between ++ [.enter (.element id) entered]) q)
    (hb : ∀ a ∈ between, a.isLoad = false) :
    (∀ fault, (Content.parse body).elementFault? id = some fault →
      ∀ reads r, backend.Session q reads r → (∀ a ∈ reads, a.rule?.isSome) →
        ∀ a ∈ reads, ∀ c, a.rule? = some c → c.HasText →
          ∃ e, a.failure? = some e ∧ c.Refusal fault e) ∧
    ((Content.parse body).elementFault? id = none →
      ∃ d spot, Content.parse body = .markup d ∧ d.find? id = some spot ∧
        q.target = .ok (.markup [spot] true) ∧
        ∀ vars, ((q.queryNodes ⟨[.plain .default " "]⟩).run vars).1 = .ok [.element id]) := by
  obtain rfl := eq_bindNode_of_session hs hb
  refine ⟨fun fault hf reads r hr hq a ha c hc ht => ?_, fun hf => ?_⟩
  · exact failure_of_session (target_of_elementFault? hf) hr hq ha hc ht
  · obtain ⟨d, spot, hd, hspot, htarget⟩ := exists_target_of_elementFault? baseUrl hf
    refine ⟨d, spot, hd, hspot, htarget, fun vars => ?_⟩
    rw [run_queryNodes rfl, nodes_blank htarget, Markup.Document.id_of_find? hspot]

theorem answers_load (p : Page) (body baseUrl : String) :
    backend.Answers p (.load body baseUrl (.ok ())) (bind body baseUrl) := .load rfl

theorem answers_enter (p : Page) (node : Handle) :
    backend.Answers p (.enter node (.ok ())) (p.bindNode node) := .enter rfl

theorem answers_findNodes {f : Fragment} {vars : Variables} {nodes : List Handle} (hf : f.puts = [])
    (h : p.nodes f vars = .ok nodes) :
    backend.Answers p (.findNodes ⟨[f]⟩ vars (.ok (nodes, vars))) p := by
  refine .findNodes (run_ask_of_ok (·.queryNodes ⟨[f]⟩) ?_)
  rw [run_queryNodes hf, h]

theorem answers_readString {f : Fragment} {vars : Variables} {values : List String} {isUrl : Bool}
    (hf : f.puts = []) (h : p.values f vars = .ok values) :
    backend.Answers p (.readString ⟨[f]⟩ isUrl vars (.ok
      ("\n".intercalate (Chain.keep f [single f.dialect isUrl values]), vars))) p := by
  refine .readString (run_ask_of_ok (·.queryString ⟨[f]⟩ isUrl) ?_)
  rw [run_queryString hf, h]
  rfl

theorem exists_paragraph : ∃ nodes,
    (bind "<p>old</p>" "u").nodes (.plain .default "p") .empty = .ok nodes ∧
      Handle.element 4 ∈ nodes := by
  have h : ((bind "<p>old</p>" "u").nodes (.plain .default "p") .empty).map
      (·.filterMap Handle.element?) = .ok [4] := by decide +kernel
  obtain ⟨nodes, hn, hm⟩ := Error.ok_of_map_ok h
  obtain ⟨node, hm, he⟩ := List.mem_filterMap.mp (hm.symm ▸ List.mem_singleton_self 4)
  cases node with
  | element id => cases he; exact ⟨nodes, hn, hm⟩
  | json => cases he
  | text => cases he

/-- A paragraph that was found on a page, entered on a page of JSON and on one with fewer nodes. -/
theorem entered_element_paragraph :
    ∃ nodes, Handle.element 4 ∈ nodes ∧
      ∀ b ∈ [("[]", QueryFault.elementOnJson), ("", QueryFault.staleNode)], ∃ q,
        backend.Session .unbound
          ([.load "<p>old</p>" "u" (.ok ()),
              .findNodes ⟨[.plain .default "p"]⟩ .empty (.ok (nodes, .empty))] ++
            .load b.1 "v" (.ok ()) :: [] ++ [.enter (.element 4) (.ok ())]) q ∧
          (Content.parse b.1).elementFault? 4 = some b.2 ∧
          ∀ answer,
            backend.Answers q (.readString ⟨[.plain .default "@text"]⟩ false .empty answer) q →
              answer = .error (.query b.2) := by
  obtain ⟨nodes, hn, hm⟩ := exists_paragraph
  refine ⟨nodes, hm, fun b hb => ?_⟩
  have hf : (Content.parse b.1).elementFault? 4 = some b.2 := by
    revert b
    decide +kernel
  have hs : backend.Session .unbound
      ([.load "<p>old</p>" "u" (.ok ()),
          .findNodes ⟨[.plain .default "p"]⟩ .empty (.ok (nodes, .empty))] ++
        .load b.1 "v" (.ok ()) :: [] ++ [.enter (.element 4) (.ok ())])
      ((bind b.1 "v").bindNode (.element 4)) :=
    .cons (answers_load ..) (.cons (answers_findNodes rfl hn)
      (.cons (answers_load ..) (.cons (answers_enter ..) .nil)))
  refine ⟨_, hs, hf, fun answer ha => ?_⟩
  obtain ⟨e, he, hr⟩ := (entered_element hs nofun).1 b.2 hf _ _ (.cons ha .nil)
    (List.forall_mem_singleton.mpr rfl) _ (List.mem_singleton_self _) _ rfl
    ⟨_, List.mem_singleton_self _, by decide⟩
  rcases hr with rfl | ⟨⟨f, hf, hp⟩, -⟩
  · cases answer with
    | ok _ => cases he
    | error e => cases he; rfl
  · rw [List.mem_singleton.mp hf] at hp
    exact absurd rfl hp

/-- The paragraph of one page is entered on another with a paragraph of its own, and the text that
is read is that of the other. -/
theorem reads_page_bound_later :
    ∃ nodes q, Handle.element 4 ∈ nodes ∧
      backend.Session .unbound
        [.load "<p>old</p>" "u" (.ok ()),
          .findNodes ⟨[.plain .default "p"]⟩ .empty (.ok (nodes, .empty)),
          .load "<p>new</p>" "v" (.ok ()), .enter (.element 4) (.ok ()),
          .readString ⟨[.plain .default "@text"]⟩ false .empty (.ok ("new", .empty))] q := by
  obtain ⟨nodes, hn, hm⟩ := exists_paragraph
  have hv : ((bind "<p>new</p>" "v").bindNode (.element 4)).values (.plain .default "@text")
      .empty = .ok ["new"] := by decide +kernel
  exact ⟨nodes, _, hm, .cons (answers_load ..) (.cons (answers_findNodes rfl hn)
    (.cons (answers_load ..) (.cons (answers_enter ..) (.cons (answers_readString rfl hv) .nil))))⟩

end Page

end Catalog
