import Flattener.Path.Basic

/-!
# Import specifiers

An import names a file by a *specifier*. A specifier that starts with `./` or `../` is taken
from the directory of the importing file; any other one is already the label to look up.
Backslashes count as slashes throughout.
-/

namespace Flattener.Specifier

/-- Whether a specifier is taken from the directory of the importing file. -/
def isRelative (specifier : Text) : Bool :=
  let s := Path.slashed specifier
  ['.', '/'].isPrefixOf s || ['.', '.', '/'].isPrefixOf s

/-- The label that `specifier` stands for in the file labelled `dependent`. -/
def target (dependent specifier : Text) : Text :=
  let s := Path.slashed specifier
  if isRelative specifier then
    ((Path.directory (Path.slashed dependent)).join (Path.ofText s)).collapse.toText
  else s

end Flattener.Specifier
