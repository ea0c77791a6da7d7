/-!
# Errors of the bridge

Calls never fail: a call that finds nothing is a miss, and a slot of the wrong shape
decodes to a default. These errors arise in registration and when raw numbers are
read as call kinds or handles.
-/

namespace HostBridge

/-- Why an operation outside a call failed. -/
inductive BridgeError where
  | handlesExhausted (issued : Nat)
  | invalidCallKind (tag : Int)
  | invalidHandle (raw : Int)
  | bindingIdsExhausted
  | unknownBinding (binding : String)
deriving DecidableEq, Repr

/-- The text of an error. -/
def BridgeError.message : BridgeError → String
  | handlesExhausted issued => "handle table exhausted after " ++ toString issued ++ " handles"
  | invalidCallKind tag => "invalid call kind tag " ++ toString tag
  | invalidHandle raw => "invalid handle " ++ toString raw
  | bindingIdsExhausted => "binding id space exhausted"
  | unknownBinding binding => "no binding for " ++ binding

end HostBridge
