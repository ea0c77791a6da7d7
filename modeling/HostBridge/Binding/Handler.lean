import HostBridge.Host.Conversion

/-!
# Handlers

A handler wraps host code: it decodes arguments, runs the code and leaves the result
to be encoded. Handlers of instance members need a target, an object of their type
that is free enough; where there is none they decline the call and run nothing.

## Main definitions

- `Handler` — the shapes of host code that can be bound
- `Handler.admits` — whether a handler accepts a target
- `Handler.run` — a call, or that it was declined
-/

namespace HostBridge

/-- Host code that can be bound. -/
inductive Handler (ε : Type) [Embedding ε] where
  /-- Reads an object of a type, together with other readers. -/
  | getter (t : HostType ε) (read : t.State → HostM ε (Outcome ε))
  /-- Stores an argument in an object that it has alone. -/
  | setter (t : HostType ε) (v : ValueType ε) (write : t.State → v.Carrier → HostM ε t.State)
  /-- Works on an object that it has alone. -/
  | method (t : HostType ε) (params : List (ValueType ε))
      (act : t.State → Args params → HostM ε (Outcome ε × t.State))
  /-- Works without an object. -/
  | function (params : List (ValueType ε)) (act : Args params → HostM ε (Outcome ε))
  /-- Stores an argument in the host. -/
  | assign (v : ValueType ε) (write : v.Carrier → HostM ε Unit)

namespace Handler

variable {ε : Type} [Embedding ε]

/-- Whether a handler accepts a target. -/
def admits (objects : Objects (HostType ε) HostType.State) (target : Option ObjectRef) :
    Handler ε → Bool
  | getter t _ => target.any fun ref => (objects.read? t ref).isSome
  | setter t _ _ => target.any fun ref => (objects.write? t ref).isSome
  | method t _ _ => target.any fun ref => (objects.write? t ref).isSome
  | function .. => true
  | assign .. => true

/-- Runs host code on an object that it shares with other readers. -/
def whileShared {α : Type} (ref : ObjectRef) (code : HostM ε α) : HostM ε α := do
  let before := (← get).objects.loan ref
  modify fun host => { host with objects := host.objects.setLoan ref .shared }
  let a ← code
  modify fun host => { host with objects := host.objects.setLoan ref before }
  return a

/-- Runs host code on an object that it has alone, and stores what it makes of it. -/
def whileExclusive {α : Type} (t : HostType ε) (ref : ObjectRef)
    (code : HostM ε (α × t.State)) : HostM ε α := do
  modify fun host => { host with objects := host.objects.setLoan ref .exclusive }
  let (a, state) ← code
  modify fun host => { host with objects := host.objects.store t ref state }
  return a

/-- Calls a handler: the result and the host after the call, or nothing if the
    handler declines. -/
def run (codecs : Codecs ε) (handles : Handles ε) (target : Option ObjectRef)
    (args : List Slot) (host : Host ε) : Handler ε → Option (Outcome ε × Host ε)
  | getter t read =>
    target.bind fun ref => (host.objects.read? t ref).map fun state =>
      (whileShared ref (read state)).run host
  | setter t v write =>
    target.bind fun ref =>
      -- A setter reads its argument before it asks for the object, a method after that.
      let value := v.decode codecs handles (args.headD .null)
      (host.objects.write? t ref).map fun state =>
        let code := do return ((), ← write state value)
        ((whileExclusive t ref code).run host).map (fun _ => .unit) id
  | method t params act =>
    target.bind fun ref => (host.objects.write? t ref).map fun state =>
      (whileExclusive t ref (act state (Args.decode codecs handles params args))).run host
  | function params act =>
    some ((act (Args.decode codecs handles params args)).run host)
  | assign v write =>
    some (((write (v.decode codecs handles (args.headD .null))).run host).map
      (fun _ => .unit) id)

/-- A handler runs exactly if it accepts the target. -/
theorem run_isSome (codecs : Codecs ε) (handles : Handles ε) (target : Option ObjectRef)
    (args : List Slot) (host : Host ε) (h : Handler ε) :
    (h.run codecs handles target args host).isSome = h.admits host.objects target := by
  cases h <;> cases target <;> simp [run, admits]

end Handler

end HostBridge
