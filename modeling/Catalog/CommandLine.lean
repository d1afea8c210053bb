import Catalog.Analysis.Page

/-! # Command line

The program reads a source from a file and a page from standard input, and prints the books of the
page as JSON.
-/

namespace Catalog

structure Call where
  sourcePath : String
  baseUrl : String
  isSearch : Bool
  deriving DecidableEq, Repr

structure Ending where
  code : Nat
  stdout : String
  stderr : String
  deriving DecidableEq, Repr

namespace Call

/-- Two arguments that are no options are needed; of the options only `--explore` says anything. -/
def ofArguments? (args : List String) : Option Call :=
  match args.filter fun a => !a.startsWith "--" with
  | [sourcePath, baseUrl] => some ⟨sourcePath, baseUrl, !args.contains "--explore"⟩
  | _ => none

def render (books : List Book) : String :=
  String.ofList ((Json.Value.array (books.map Book.toJson)).indent 0)

def ending (c : Call) (sourceText : Except String String) (body : Option String) : Ending :=
  match sourceText.bind fun t => (Source.ofText t).mapError Error.message with
  | .error reason =>
    ⟨1, "", "Failed to load source " ++ c.sourcePath ++ ": " ++ reason ++ "\n"⟩
  | .ok source =>
    match body with
    | none => ⟨1, "", "Failed to read from stdin\n"⟩
    | some body =>
      match (analyze (some body) source c.baseUrl c.isSearch .never () .standard).result with
      | .ok books => ⟨0, render books ++ "\n", ""⟩
      | .error e => ⟨1, "", "Extraction failed: " ++ e.message ++ "\n"⟩

end Call

def Ending.usage : Ending :=
  ⟨2, "", "usage: analyze_stdin <source.json> <base-url> [--explore]\n"⟩

end Catalog
