import Catalog.Markup.Node

/-! # Writing markup

A node is written so that reading the text gives the same node again, wherever its content can be
written at all.
-/

namespace Catalog.Markup

def escapeText (s : String) : String :=
  String.ofList (s.toList.flatMap fun
    | '&' => "&amp;".toList
    | '\u00A0' => "&nbsp;".toList
    | '<' => "&lt;".toList
    | '>' => "&gt;".toList
    | c => [c])

def escapeAttribute (s : String) : String :=
  String.ofList (s.toList.flatMap fun
    | '&' => "&amp;".toList
    | '\u00A0' => "&nbsp;".toList
    | '"' => "&quot;".toList
    | c => [c])

def isVoid (t : Tag) : Bool :=
  t.space = .html &&
    ["area", "base", "basefont", "bgsound", "br", "col", "embed", "frame", "hr", "img", "input",
      "keygen", "link", "meta", "param", "source", "track", "wbr"].contains t.name

/-- Elements whose texts are written as they are. -/
def isVerbatim (t : Tag) : Bool :=
  t.space = .html &&
    ["style", "script", "xmp", "iframe", "noembed", "noframes", "plaintext"].contains t.name

def Attribute.render (a : Attribute) : String :=
  let name := if a.qualifier.isEmpty then a.name else a.qualifier ++ ":" ++ a.name
  " " ++ name ++ "=\"" ++ escapeAttribute a.value ++ "\""

def Tag.render (t : Tag) : String :=
  "<" ++ t.name ++ String.join (t.attributes.map Attribute.render) ++ ">"

namespace Node

mutual

/-- Writes a node within an element whose texts are written as they are, or within another. -/
def renderIn (verbatim : Bool) : Node → String
  | mk _ .document children => renderAll false children
  | mk _ .contents children => renderAll false children
  | mk _ (.doctype name) _ => "<!DOCTYPE " ++ name ++ ">"
  | mk _ (.comment text) _ => "<!--" ++ text ++ "-->"
  | mk _ (.text text) _ => if verbatim then text else escapeText text
  | mk _ (.element t) children =>
    if isVoid t then t.render
    else t.render ++ renderAll (isVerbatim t) children ++ "</" ++ t.name ++ ">"

def renderAll (verbatim : Bool) : List Node → String
  | [] => ""
  | n :: rest => renderIn verbatim n ++ renderAll verbatim rest

end

def render (n : Node) : String := n.renderIn false

end Node

end Catalog.Markup
