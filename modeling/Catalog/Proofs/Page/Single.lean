import Catalog.Proofs.Page.Joining
import Catalog.Proofs.Rule.Evaluation

/-! # Rules of one fragment

A fragment that sets nothing, as a rule by itself, gives what is read off the page for it and leaves
the variables as they are. If it cannot be read, every rule that starts with it fails alike.
-/

namespace Catalog

namespace Fragment

def plain (d : Dialect) (text : String) : Fragment := ⟨d, text, .first, [], none⟩

end Fragment

variable {f : Fragment} {vars : Variables} {log log' : List (String × String)} {e : Error}

namespace Chain

variable {α : Type} {read : Fragment → Reading (List α)}

theorem resume_firstNonempty_single {r : Except Error (List α)}
    (h : (read f).resume vars log = (r, log')) :
    (firstNonempty read [[f]]).resume vars log = (r, log') := by
  simp only [firstNonempty, readAlternative, Reading.resume_bind, h]
  cases r with
  | error e => rfl
  | ok values =>
    simp only [Reading.resume_pure, List.append_nil]
    cases values <;> rfl

theorem resume_firstNonempty_of_error (h : (read f).resume vars log = (.error e, log'))
    (rest : List Fragment) :
    (firstNonempty read (alternatives ⟨f :: rest⟩)).resume vars log = (.error e, log') := by
  obtain ⟨joined, others, hg, -⟩ := exists_group_cons f rest
  rw [alternatives, hg]
  simp only [firstNonempty, readAlternative, Reading.resume_bind, h]

end Chain

theorem Variables.putAll_nil (v : Variables) : v.putAll [] = v := rfl

namespace Reading

variable {α : Type}

theorem resume_ofExcept (r : Except Error α) : (ofExcept r).resume vars log = (r, log) := rfl

theorem resume_vars : Reading.vars.resume vars log = (.ok (vars.putAll log), log) := rfl

theorem run_of_resume {x : Reading α} {r : Except Error α} (h : x.resume vars [] = (r, [])) :
    x.run vars = (r, vars) := by
  have ha : x.answer vars = (r, []) := h
  rw [run, ha]
  rfl

end Reading

namespace Page

variable (p : Page) (isUrl : Bool)

def readText (f : Fragment) : Reading (List String) :=
  (do p.store f; p.fragmentString isUrl f) >>= fun text => pure (Chain.keep f [text])

def readList (f : Fragment) : Reading (List String) :=
  (do p.store f; Reading.ofExcept (p.values f (← Reading.vars))) >>= fun values =>
    pure (Chain.keep f values)

def readNodes (f : Fragment) : Reading (List Handle) := do
  p.store f
  Reading.ofExcept (p.nodes f (← Reading.vars))

theorem queryString_eq (c : Chain) : p.queryString c isUrl =
    (do return "\n".intercalate (← Chain.firstNonempty (p.readText isUrl) c.alternatives)) := rfl

theorem queryList_eq (c : Chain) :
    p.queryList c = Chain.firstNonempty p.readList c.alternatives := rfl

theorem queryNodes_eq (c : Chain) :
    p.queryNodes c = Chain.firstNonempty p.readNodes c.alternatives := rfl

variable {p isUrl}

theorem values_of_target {t : Target} (ht : p.target = .ok t) (hn : f.text.isEmpty = false)
    (vars : Variables) : p.values f vars =
      (t.values f.dialect (p.expand vars f.text)).map (·.filter (!·.isEmpty)) := by
  rw [values, hn, ht]
  change (t.values f.dialect (p.expand vars f.text)).bind _ = _
  cases t.values f.dialect (p.expand vars f.text) <;> rfl

theorem nodes_of_target {t : Target} (ht : p.target = .ok t) (hn : f.text.isEmpty = false)
    (vars : Variables) : p.nodes f vars = t.nodes f.dialect (p.expand vars f.text) := by
  rw [nodes, hn, ht]
  rfl

theorem store_of_puts (h : f.puts = []) : p.store f = pure () := by
  rw [store, h]
  rfl

theorem resume_readNodes (h : f.puts = []) :
    (p.readNodes f).resume vars log = (p.nodes f (vars.putAll log), log) := by
  rw [readNodes, store_of_puts h, pure_bind, Reading.resume_bind, Reading.resume_vars]
  rfl

theorem resume_readList (h : f.puts = []) : (p.readList f).resume vars log =
    ((p.values f (vars.putAll log)).map (Chain.keep f), log) := by
  rw [readList, store_of_puts h, pure_bind, bind_assoc, Reading.resume_bind, Reading.resume_vars]
  simp only [Reading.resume_bind, Reading.resume_ofExcept]
  cases p.values f (vars.putAll log) <;> rfl

theorem resume_readText (h : f.puts = []) : (p.readText isUrl f).resume vars log =
    ((p.values f (vars.putAll log)).map fun values =>
      Chain.keep f [single f.dialect isUrl values], log) := by
  rw [readText, store_of_puts h, pure_bind, fragmentString, bind_assoc, Reading.resume_bind,
    Reading.resume_vars]
  simp only [Reading.resume_bind, Reading.resume_ofExcept]
  cases p.values f (vars.putAll log) <;> rfl

theorem resume_queryNodes (d : Dialect) (text : String) :
    (p.queryNodes ⟨[.plain d text]⟩).resume vars log =
      (p.nodes (.plain d text) (vars.putAll log), log) :=
  Chain.resume_firstNonempty_single (resume_readNodes rfl)

theorem resume_queryList (d : Dialect) (text : String) :
    (p.queryList ⟨[.plain d text]⟩).resume vars log =
      (p.values (.plain d text) (vars.putAll log), log) := by
  refine (Chain.resume_firstNonempty_single (resume_readList rfl)).trans ?_
  cases h : p.values (.plain d text) (vars.putAll log) with
  | error e => rfl
  | ok values =>
    have hk := Chain.keep_of_nonempty (f := .plain d text) rfl (nonempty_of_values h)
    rw [Except.map, hk]

theorem run_queryNodes (h : f.puts = []) :
    (p.queryNodes ⟨[f]⟩).run vars = (p.nodes f vars, vars) :=
  Reading.run_of_resume (Chain.resume_firstNonempty_single (resume_readNodes h))

theorem run_queryList (h : f.puts = []) :
    (p.queryList ⟨[f]⟩).run vars = ((p.values f vars).map (Chain.keep f), vars) :=
  Reading.run_of_resume (Chain.resume_firstNonempty_single (resume_readList h))

theorem run_queryString (h : f.puts = []) :
    (p.queryString ⟨[f]⟩ isUrl).run vars =
      ((p.values f vars).map fun values =>
        "\n".intercalate (Chain.keep f [single f.dialect isUrl values]), vars) := by
  refine Reading.run_of_resume ?_
  have hr : (Chain.firstNonempty (p.readText isUrl) (Chain.alternatives ⟨[f]⟩)).resume vars [] = _ :=
    Chain.resume_firstNonempty_single (resume_readText h)
  rw [queryString_eq, Reading.resume_bind, hr, Variables.putAll_nil]
  cases p.values f vars <;> rfl

theorem run_queryNodes_of_error (h : f.puts = []) (he : p.nodes f vars = .error e)
    (rest : List Fragment) : (p.queryNodes ⟨f :: rest⟩).run vars = (.error e, vars) := by
  have hr : (p.readNodes f).resume vars [] = (.error e, []) :=
    (resume_readNodes h).trans (congrArg (·, []) he)
  rw [queryNodes_eq]
  exact Reading.run_of_resume (Chain.resume_firstNonempty_of_error hr rest)

theorem run_queryList_of_error (h : f.puts = []) (he : p.values f vars = .error e)
    (rest : List Fragment) : (p.queryList ⟨f :: rest⟩).run vars = (.error e, vars) := by
  have hr : (p.readList f).resume vars [] = (.error e, []) := by
    rw [resume_readList h, Variables.putAll_nil, he]
    rfl
  rw [queryList_eq]
  exact Reading.run_of_resume (Chain.resume_firstNonempty_of_error hr rest)

theorem run_queryString_of_error (h : f.puts = []) (he : p.values f vars = .error e)
    (rest : List Fragment) : (p.queryString ⟨f :: rest⟩ isUrl).run vars = (.error e, vars) := by
  have hr : (p.readText isUrl f).resume vars [] = (.error e, []) := by
    rw [resume_readText h, Variables.putAll_nil, he]
    rfl
  refine Reading.run_of_resume ?_
  rw [queryString_eq, Reading.resume_bind, Chain.resume_firstNonempty_of_error hr]

end Page

end Catalog
