import Catalog.Rule.Resolve

/-! # Writing rules

How a chain is written as the text of a rule, and which chains can be written so that they can be
read again. A text must not hold what the reader looks for: separators, braces, script marks and,
but for a script, `##`.
-/

namespace Catalog

open Rule Text

/-- What joins a fragment to the one before it. -/
def Link.spell : Link → List Char
  | .first => []
  | .or => ['|', '|']
  | .and => ['&', '&']

/-- The mark in front of a text in the dialect. -/
def Dialect.spell : Dialect → List Char
  | .default => []
  | .css => ['@', 'c', 's', 's', ':']
  | .xpath => ['@', 'X', 'P', 'a', 't', 'h', ':']
  | .jsonPath => ['@', 'j', 's', 'o', 'n', ':']
  | .regex => [':']
  | .script => scriptOpen

/-- The pattern and the text that stands for its matches, behind the text of a fragment. -/
def Replacement.spell (r : Replacement) : List Char :=
  ['#', '#'] ++ (r.pattern.source.toList ++ (['#', '#'] ++ (r.text.toList ++
    if r.firstOnly then ['#', '#', '#'] else [])))

/-- What stands behind the text of a fragment. -/
def Fragment.spellEnd (f : Fragment) : List Char :=
  if f.dialect = .script then scriptClose else f.replacement.elim [] Replacement.spell

def Fragment.spell (f : Fragment) : List Char := f.dialect.spell ++ (f.text.toList ++ f.spellEnd)

/-- A chain as the text of a rule. -/
def Chain.print (c : Chain) : String :=
  String.ofList (c.fragments.flatMap fun f => f.link.spell ++ f.spell)

namespace Rule

/-- Nothing in a text separates, nests or starts a script. -/
structure Plain (s : List Char) : Prop where
  or : ¬['|', '|'] <:+: s
  and : ¬['&', '&'] <:+: s
  opening : '\x7b' ∉ s
  closing : '\x7d' ∉ s
  mark : ¬scriptMark <:+: s
  block : ¬scriptOpen <:+: s

/-- A text to which `##` can be appended: it does not hold it, nor ends in half of it. -/
structure Unhashed (s : List Char) : Prop where
  hashes : ¬['#', '#'] <:+: s
  last : s.getLast? ≠ some '#'

/-- Without a `@put` segment: there are no braces behind `@put:` with no brace between them. -/
def PutFree (s : List Char) : Prop :=
  ∀ inner : List Char, '\x7b' ∉ inner → '\x7d' ∉ inner →
    ¬"@put:\x7b".toList ++ inner ++ ['\x7d'] <:+: s

/-- The text of a script, without the end of a script block. -/
structure ScriptText (s : List Char) : Prop where
  nonempty : s ≠ []
  trimmed : trim s = s
  close : ¬scriptClose <:+: s
  putFree : PutFree s

/-- The text of any other fragment, without a script tag in letters of any case. -/
structure QueryText (s : List Char) : Prop extends Plain s, Unhashed s where
  nonempty : s ≠ []
  trimmed : trim s = s
  tag : ∀ u, u <:+: s → isScriptTag scriptOpen u = false

/-- A text that does not start as one in another dialect would. -/
structure Undialected (s : List Char) : Prop where
  slash : ¬['/'] <+: s
  path : ¬['$', '.'] <+: s
  item : ¬['$', '['] <+: s
  colon : ¬[':'] <+: s
  css : dropStartAnyCase? "@css:".toList s = none
  xpath : dropStartAnyCase? "@xpath:".toList s = none
  json : dropStartAnyCase? "@json:".toList s = none
  script : dropStartAnyCase? "@js:".toList s = none

end Rule

/-- A replacement whose pattern can be compiled. Unless only the first match counts, its text must
not end as if it did, nor in a blank. -/
structure Replacement.Printable (r : Replacement) : Prop where
  compiles : Pattern.compile? r.pattern.source = some r.pattern
  nonempty : r.pattern.source ≠ ""
  pattern : Plain r.pattern.source.toList
  unhashed : Unhashed r.pattern.source.toList
  text : Plain r.text.toList
  trimmed : r.firstOnly = false → trimEnd r.text.toList = r.text.toList
  last : r.firstOnly = false → ¬['#', '#', '#'] <:+ ['#', '#'] ++ r.text.toList

/-- A fragment that sets nothing, with a text that fits its dialect. -/
structure Fragment.Printable (f : Fragment) : Prop where
  puts : f.puts = []
  script : f.dialect = .script → ScriptText f.text.toList ∧ f.replacement = none
  query : f.dialect ≠ .script → QueryText f.text.toList
  default : f.dialect = .default → Undialected f.text.toList
  replacement : ∀ r, f.replacement = some r → r.Printable
  bar : f.spell.getLast? ≠ some '|'
  ampersand : f.spell.getLast? ≠ some '&'

/-- A chain of fragments that are joined to one another. -/
structure Chain.Printable (c : Chain) : Prop where
  fragments : ∀ f ∈ c.fragments, f.Printable
  links : ∃ f rest, c.fragments = f :: rest ∧ f.link = .first ∧ ∀ g ∈ rest, g.link ≠ .first

end Catalog
