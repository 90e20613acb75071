import PlotBoard.Yaml.Tag

namespace PlotBoard.Yaml

/-!
# Directives

A line in front of a document that starts with a percent sign. It tells the
version of the notation or what a handle of tags stands for.
-/

/-- The version of the notation, or a handle and the start of the names that it stands for. -/
inductive Directive where
  | version (major minor : Nat)
  | tagHandle (handle start : String)
  deriving DecidableEq

namespace Directive

/-- One of at most nine digits, and what follows it. -/
def versionPart? (characters : List Char) : Option (Nat × List Char) :=
  let digits := characters.takeWhile Char.isDigit
  if digits.length ≤ 9 then
    (Literal.digits? digits).map fun value => (value, characters.dropWhile Char.isDigit)
  else
    none

/-- Two numbers with a point between them, and what follows them. -/
def version? (characters : List Char) : Option (Directive × List Char) :=
  match versionPart? characters with
  | some (major, '.' :: rest) =>
      (versionPart? rest).map fun (minor, after) => (.version major minor, after)
  | _ => none

/-- A handle, spaces and the start of a name, and what follows them. -/
def tagHandle? : List Char → Option (Directive × List Char)
  | '!' :: characters =>
      let (handle, rest) := (closedHandle? characters).getD ("!", characters)
      if rest.head?.any isSpace then
        ((nonemptyTagText? true (rest.dropWhile isSpace)).filter fun (_, after) =>
          endsWord after).map fun (start, after) => (.tagHandle handle start, after)
      else
        none
  | _ => none

/-- A directive, from the character after its percent sign on, and what follows its value. -/
def read? (characters : List Char) : Option (Directive × List Char) :=
  let name := String.ofList (characters.takeWhile isNameCharacter)
  let rest := characters.dropWhile isNameCharacter
  let value := rest.dropWhile isSpace
  if ¬endsWord rest then
    none
  else if name = "YAML" then
    version? value
  else if name = "TAG" then
    tagHandle? value
  else
    none

end Directive

end PlotBoard.Yaml
