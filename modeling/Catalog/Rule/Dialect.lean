/-! # Dialects and links

The query language of a fragment of a rule, and how a fragment hangs on the one before it.
-/

namespace Catalog

inductive Dialect where
  /-- A selector with an extractor behind `@`, or a path on JSON content. -/
  | default
  /-- The same, marked by `@css:`. -/
  | css
  | xpath
  | jsonPath
  | regex
  | script
  deriving DecidableEq, Repr, Inhabited

namespace Dialect

def name : Dialect → String
  | default => "Default"
  | css => "Css"
  | xpath => "XPath"
  | jsonPath => "JsonPath"
  | regex => "Regex"
  | script => "Script"

end Dialect

inductive Link where
  | first
  /-- Behind `||`: reached only if everything before came out empty. -/
  | or
  /-- Behind `&&`: read together with the fragment before. -/
  | and
  deriving DecidableEq, Repr, Inhabited

def Link.name : Link → String
  | first => "First"
  | or => "Or"
  | and => "And"

end Catalog
