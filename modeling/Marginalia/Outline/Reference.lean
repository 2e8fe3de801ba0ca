import Marginalia.Text.Basic
import Marginalia.Url.Percent

/-!
Links from prose to other files: what a link's destination says about a path inside the project.
-/

namespace Marginalia.Outline
open Marginalia.Text

/-- A relative link to another file. -/
structure Reference where
  /-- The destination as it is written. -/
  raw : String
  /-- The path in it, decoded. -/
  path : String
  /-- What follows the first `#`. -/
  fragment : Option String
  /-- The line of the source file, counted from one. -/
  line : Nat
  deriving DecidableEq, Repr

/-- Does the text start with a scheme and a colon? -/
def hasScheme (cs : List Char) : Bool :=
  match cutAt ':' cs with
  | some (c :: scheme, _) =>
    c.isAlpha && scheme.all fun d => d.isAlphanum || d = '+' || d = '-' || d = '.'
  | _ => false

/-- Is the destination a relative path: not a place on the same page, not absolute, no scheme? -/
def isRelativeTarget (destination : String) : Bool :=
  let cs := trim destination.toList
  match cs with
  | [] => false
  | c :: _ => !(c = '#' || c = '/' || c = '\\' || hasScheme cs)

/-- What stands before the first `sep`, the whole where there is none. -/
def before (sep : Char) (cs : List Char) : List Char :=
  match cutAt sep cs with
  | some (front, _) => front
  | none => cs

/-- The reference that a destination makes, if it names a file. -/
def parseReference (destination : String) (line : Nat) : Option Reference :=
  if !isRelativeTarget destination then none
  else
    let (front, fragment) :=
      match cutAt '#' destination.toList with
      | some (front, fragment) => (front, some (String.ofList fragment))
      | none => (destination.toList, none)
    match Url.percentDecode (before '?' front) with
    | [] => none
    | path => some { raw := destination, path := String.ofList path, fragment, line }

end Marginalia.Outline
