import Catalog.Markup.Construction.Formatting

/-! # Foreign vocabularies

Formulas and drawings within a document have vocabularies of their own, with some names in mixed
case and qualified attributes.
-/

namespace Catalog.Markup.Construction

/-- The names of drawings that are not in small letters. -/
def drawingNames : List String :=
  ["altGlyph", "altGlyphDef", "altGlyphItem", "animateColor", "animateMotion", "animateTransform",
    "clipPath", "feBlend", "feColorMatrix", "feComponentTransfer", "feComposite",
    "feConvolveMatrix", "feDiffuseLighting", "feDisplacementMap", "feDistantLight", "feDropShadow",
    "feFlood", "feFuncA", "feFuncB", "feFuncG", "feFuncR", "feGaussianBlur", "feImage", "feMerge",
    "feMergeNode", "feMorphology", "feOffset", "fePointLight", "feSpecularLighting", "feSpotLight",
    "feTile", "feTurbulence", "foreignObject", "glyphRef", "linearGradient", "radialGradient",
    "textPath"]

def drawingAttributes : List String :=
  ["attributeName", "attributeType", "baseFrequency", "baseProfile", "calcMode", "clipPathUnits",
    "diffuseConstant", "edgeMode", "filterUnits", "glyphRef", "gradientTransform", "gradientUnits",
    "kernelMatrix", "kernelUnitLength", "keyPoints", "keySplines", "keyTimes", "lengthAdjust",
    "limitingConeAngle", "markerHeight", "markerUnits", "markerWidth", "maskContentUnits",
    "maskUnits", "numOctaves", "pathLength", "patternContentUnits", "patternTransform",
    "patternUnits", "pointsAtX", "pointsAtY", "pointsAtZ", "preserveAlpha", "preserveAspectRatio",
    "primitiveUnits", "refX", "refY", "repeatCount", "repeatDur", "requiredExtensions",
    "requiredFeatures", "specularConstant", "specularExponent", "spreadMethod", "startOffset",
    "stdDeviation", "stitchTiles", "surfaceScale", "systemLanguage", "tableValues", "targetX",
    "targetY", "textLength", "viewBox", "viewTarget", "xChannelSelector", "yChannelSelector",
    "zoomAndPan"]

/-- A name in small letters as a list of names spells it. -/
def respell (names : List String) (name : String) : String :=
  (names.find? fun n => n.toLower == name).getD name

/-- The qualified attributes of foreign elements. -/
def qualifiedAttributes : List (String × String) :=
  [("xlink", "actuate"), ("xlink", "arcrole"), ("xlink", "href"), ("xlink", "role"),
    ("xlink", "show"), ("xlink", "title"), ("xlink", "type"), ("xml", "lang"), ("xml", "space"),
    ("xmlns", "xlink")]

def foreignAttribute (space : Space) (name value : String) : Attribute :=
  match qualifiedAttributes.find? fun (q, n) => q ++ ":" ++ n == name with
  | some (qualifier, name) => ⟨qualifier, name, value⟩
  | none =>
    match space with
    | .svg => ⟨"", respell drawingAttributes name, value⟩
    | .math => ⟨"", respell ["definitionURL"] name, value⟩
    | .html => ⟨"", name, value⟩

def foreignTag (space : Space) (name : String) (attributes : List (String × String)) : Tag :=
  ⟨space, if space = .svg then respell drawingNames name else name,
    attributes.map fun (name, value) => foreignAttribute space name value⟩

def insertForeign (space : Space) (name : String) (attributes : List (String × String))
    (selfClosing : Bool) : Build Unit := do
  let _ ← insertTag (foreignTag space name attributes)
  if selfClosing then pop

/-- Elements of formulas that hold text of HTML. -/
def holdsText (t : Tag) : Bool :=
  t.space = .math && ["mi", "mo", "mn", "ms", "mtext"].contains t.name

/-- Annotations that are declared to hold HTML. -/
def isAnnotation (t : Tag) : Bool :=
  t.space = .math && t.name == "annotation-xml" && t.attributes.any fun a =>
    a.name == "encoding" && ["text/html", "application/xhtml+xml"].contains a.value.toLower

/-- Elements that hold HTML. -/
def holdsHtml (t : Tag) : Bool :=
  (t.space = .svg && ["foreignObject", "desc", "title"].contains t.name) || isAnnotation t

/-- Whether a token belongs to the foreign vocabulary of the current element. -/
def isForeignToken (t : Tag) (token : Token) : Bool :=
  if t.space = .html then false
  else
    match token with
    | .eof => false
    | .start name _ _ =>
      !(holdsText t && name != "mglyph" && name != "malignmark") && !holdsHtml t &&
        !(t.space = .math && t.name == "annotation-xml" && name == "svg")
    | .text _ => !holdsText t && !holdsHtml t
    | .null => !holdsText t && !holdsHtml t
    | _ => true

/-- The elements of HTML that no foreign element holds. -/
def breaksOut (name : String) (attributes : List (String × String)) : Bool :=
  ["b", "big", "blockquote", "body", "br", "center", "code", "dd", "div", "dl", "dt", "em",
    "embed", "h1", "h2", "h3", "h4", "h5", "h6", "head", "hr", "i", "img", "li", "listing", "menu",
    "meta", "nobr", "ol", "p", "pre", "ruby", "s", "small", "span", "strong", "strike", "sub",
    "sup", "table", "tt", "u", "ul", "var"].contains name ||
  (name == "font" && attributes.any fun (n, _) => ["color", "face", "size"].contains n)

def breakOut : Build Unit := popTo fun t => t.space = .html || holdsText t || holdsHtml t

/-- The element that an end tag closes, and whether the tag goes to an element of HTML instead. -/
def foreignEnd (name : String) : List (Nat × Tag) → Option Nat × Bool
  | [] => (none, false)
  | [_] => (none, false)
  | (i, t) :: (j, u) :: rest =>
    if t.name.toLower == name then (some i, false)
    else if u.space = .html && !rest.isEmpty then (none, true)
    else foreignEnd name ((j, u) :: rest)

/-- Deals with a token of a foreign vocabulary by the rules of the current mode, if they have to be
asked. -/
def inForeign (byMode : Token → Build Outcome) (token : Token) : Build Outcome := do
  match token with
  | .null => insertText ['\uFFFD']
  | .text chars =>
    if !chars.all Lexer.isSpace then noFrameset
    insertText chars
  | .comment text => insertComment text
  | .start name attributes selfClosing =>
    if breaksOut name attributes then
      breakOut
      return ← byMode token
    insertForeign (← currentTag).space name attributes selfClosing
  | .finish name =>
    if name == "br" || name == "p" then
      breakOut
      return ← byMode token
    match foreignEnd name (← openTags) with
    | (some i, _) => popThroughNode i
    | (none, true) => return ← byMode token
    | (none, false) => return .done
  | _ => return .done
  return .done

end Catalog.Markup.Construction
