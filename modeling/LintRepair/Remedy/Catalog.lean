import LintRepair.Remedy.Annotation
import LintRepair.Remedy.CatchClause
import LintRepair.Remedy.Declaration
import LintRepair.Remedy.Parameter

/-!
The catalog of remedies, and the order in which they run.
-/

namespace LintRepair

abbrev Catalog := List Remedy

namespace Catalog

/-- The first remedy with this name. -/
def find? (c : Catalog) (id : RemedyId) : Option Remedy := List.find? (·.id == id) c

/-- The remedies of an order. Names without a remedy and names that came before are passed over;
`seen` holds the latter. -/
def orderedFrom (c : Catalog) (seen : List RemedyId) : List RemedyId → List Remedy
  | [] => []
  | id :: order =>
    if seen.contains id then orderedFrom c seen order
    else (c.find? id).toList ++ orderedFrom c (id :: seen) order

def ordered (c : Catalog) (order : List RemedyId) : List Remedy := c.orderedFrom [] order

/-- The catalog with the given removal patterns. -/
def standard (removePatterns : List String) : Catalog :=
  [.content Annotation.remedy, .line Parameter.remedy,
   .content (Declaration.remedy removePatterns), .line CatchClause.remedy]

end Catalog

end LintRepair
