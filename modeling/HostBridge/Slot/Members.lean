import HostBridge.Json.Document
import HostBridge.Json.Source
import HostBridge.Slot.Basic

/-!
# Object notation in slots

Text slots may hold object notation. It is read as a whole tree or as the members of
an object.
-/

namespace HostBridge

/-- The number of a key as a 32-bit float. -/
def Json.Members.float32? (m : Json.Members) (key : String) : Option Float32 :=
  (m.get? key).bind fun v => v.toFloat?.map Decimal.narrow

namespace Slot

/-- The slot of a document; what cannot be written leaves the slot empty. -/
def ofDocument (d : Option Json.Document) : Slot :=
  (d.map fun d => .json d.write).getD .null

/-- The tree of the object notation in a slot. -/
def tree? (s : Slot) : Option Json.Tree :=
  s.text?.bind Json.Tree.parse?

/-- The members of the object in a slot. -/
def members? (s : Slot) : Option Json.Members :=
  s.text?.bind Json.Members.parse?

end Slot

end HostBridge
