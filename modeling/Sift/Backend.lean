import Sift.Compile

/-!
# Backends

What can receive a compiled query: a query under construction that takes conditions, sort keys, an
offset and a limit.  Conditions add up, and so do sort keys, the first one counting most; a later
offset or limit replaces an earlier one.
-/

namespace Sift

/-- A query under construction. -/
class Backend (β : Type) where
  /-- Adds a condition that every row has to meet. -/
  restrict : β → Predicate → β
  /-- Adds a sort key that decides where the earlier ones tie. -/
  orderBy : β → OrderEntry → β
  /-- Sets the number of rows to leave out. -/
  skip : β → UInt64 → β
  /-- Sets the greatest number of rows to give. -/
  limit : β → UInt64 → β

/-- Hands a compiled query over to a backend. -/
def Query.addTo {β : Type} [Backend β] (q : Query) (target : β) : β :=
  let restricted := match q.predicate with
    | some p => Backend.restrict target p
    | none => target
  q.order.foldl Backend.orderBy restricted

end Sift
