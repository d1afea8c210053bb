import Catalog.Json.Path
import Catalog.Page.Basic
import Catalog.Rule.Fragment

/-! # Reading fragments

The values and the nodes that one fragment of a rule yields on a target.
-/

namespace Catalog

namespace Target

/-- The text that patterns are matched with: markup, or JSON without blanks. -/
def haystack : Target → String
  | markup spots _ => (spots.head?.map (·.node.render)).getD ""
  | json v => v.toText

/-- The first group of every match, or the whole match where there is none. -/
def matched (pattern : String) (haystack : String) : Except Error (List String) :=
  match Pattern.compile? pattern with
  | none => .error (.invalidRule pattern .malformed)
  | some p =>
    let subject := haystack.toList.toArray
    .ok ((p.findAll subject).filterMap fun m =>
      (m.text? subject 1 <|> m.text? subject 0).map String.ofList)

/-- The nodes below the given ones that a selector finds; an empty selector finds those
themselves. -/
def select (spots : List Markup.Spot) (rule : String) : Except Error (List Markup.Spot) :=
  let rule := trimmed rule
  if rule.isEmpty then .ok spots
  else (Markup.selector rule).map fun s => spots.flatMap s.select

/-- The selector before the last `@` and the extractor behind it; without an `@` the text of what
is selected is read. -/
def splitExtractor (text : String) : String × String :=
  match Text.cutLast? '@' text.toList with
  | some (selector, extractor) =>
    (trimmed (String.ofList selector), trimmed (String.ofList extractor))
  | none => (trimmed text, "text")

/-- What an extractor reads off a node. -/
def extract (extractor : String) (n : Markup.Node) : String :=
  match extractor with
  | "" | "text" => n.plainText
  | "textNodes" => "\n".intercalate n.ownTexts
  | "ownText" => String.join n.ownTexts
  | "html" | "all" => n.render
  | name => (n.attributeText? name).getD ""

/-- Whether a text holds a step that is a script. -/
def hasScript (text : String) : Bool :=
  Text.occursIn "<js>".toList text.toList || Text.occursIn "@js:".toList text.toList

/-- The values that a text in a dialect yields. -/
def values (t : Target) (d : Dialect) (text : String) : Except Error (List String) :=
  match d, t with
  | .xpath, _ => .error (.unsupportedDialect .xpath)
  | .script, _ => .error (.unsupportedDialect .script)
  | .regex, _ => matched text t.haystack
  | .jsonPath, .json v => (Json.Path.parse text).map fun p => (p.select v).flatMap Json.Value.strings
  | .default, .json v => (Json.Path.parse text).map fun p => (p.select v).flatMap Json.Value.strings
  | .jsonPath, .markup _ _ => .error (.invalidRule text .pathOnMarkup)
  | .css, .json _ => .error (.invalidRule text .selectorOnJson)
  | _, .markup spots _ =>
    if hasScript text then .error (.unsupportedDialect .script)
    else
      let (selector, extractor) := splitExtractor text
      (select spots selector).map fun found => found.map fun s => extract extractor s.node

/-- The nodes that selected values stand for: a single array stands for its items. -/
def unpack : List Json.Value → List Handle
  | [.array items] => items.map .json
  | vs => vs.map .json

/-- The nodes that a text in a dialect yields. -/
def nodes (t : Target) (d : Dialect) (text : String) : Except Error (List Handle) :=
  match d, t with
  | .xpath, _ => .error (.unsupportedDialect .xpath)
  | .script, _ => .error (.unsupportedDialect .script)
  | .regex, _ => (matched text t.haystack).map fun ms => ms.map .text
  | .jsonPath, .json v => (Json.Path.parse text).map fun p => unpack (p.select v)
  | .default, .json v => (Json.Path.parse text).map fun p => unpack (p.select v)
  | .jsonPath, .markup _ _ => .error (.invalidRule text .pathOnMarkup)
  | .css, .json _ => .error (.invalidRule text .selectorOnJson)
  | _, .markup spots onPage =>
    (select spots text).map fun found => found.map fun s =>
      if onPage then .element s.node.id else .text s.node.render

end Target

namespace Page

/-- The values of a fragment without the empty ones. -/
def values (p : Page) (f : Fragment) (vars : Variables) : Except Error (List String) :=
  if f.text.isEmpty then .ok []
  else do
    let target ← p.target
    let values ← target.values f.dialect (p.expand vars f.text)
    return values.filter (!·.isEmpty)

/-- The nodes of a fragment. -/
def nodes (p : Page) (f : Fragment) (vars : Variables) : Except Error (List Handle) :=
  if f.text.isEmpty then .ok []
  else do
    let target ← p.target
    target.nodes f.dialect (p.expand vars f.text)

end Page

end Catalog
