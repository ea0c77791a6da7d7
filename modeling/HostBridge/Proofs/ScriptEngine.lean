import HostBridge.Proofs.ScriptLanguage

/-!
# The engine and the bridge

A script reaches its bridge by native functions: it makes calls, asks for numbers and gives objects
back. All of these keep every link between contexts, and so do the functions of a script, which do
what native functions and functions of the language do. Calls nest as deep as the engine allows, so
whatever a script does keeps them, by induction on the depth. In particular it retains its context,
and it queues jobs behind the pending ones only.

## Main definitions

- `Script.keeps_nativeBody`, `Script.keeps_runBody` — the native functions, and those of a
  script
- `Script.keeps_nesting` — whatever a script does keeps every link
- `Script.Inner.Retaining`, `Script.retaining_nesting` — so it retains its context
-/

namespace HostBridge.Script

variable {ε : Type} [Embedding ε] {α : Type} {inner : Inner ε} {link : Link ε}

-- ════════════════════════════════════════════════════════════════════════
-- Descriptions
-- ════════════════════════════════════════════════════════════════════════

@[grind ←]
theorem keeps_followPath (this v : ScriptValue) (parts : List CodePoints) :
    Keeps link (followPath this v parts : ScriptM ε (ScriptValue × ScriptValue)) := by
  induction parts generalizing this v with
  | nil => exact .pure (this, v)
  | cons part rest ih =>
    unfold followPath
    grind

@[grind ←]
theorem keeps_readCallee (name : CodePoints) :
    Keeps link (readCallee name : ScriptM ε (ScriptValue × ScriptValue)) := by
  unfold readCallee
  grind

@[grind ←]
theorem keeps_readPath (name : CodePoints) :
    Keeps link (readPath name : ScriptM ε ScriptValue) := by
  unfold readPath
  grind

mutual

@[grind ←]
theorem keeps_evaluate (h : inner.Keeps link) (e : Expr) : Keeps link (evaluate inner e) := by
  unfold evaluate
  cases e with
  | array items =>
    have hitems := keeps_evaluateItems h items
    grind
  | object own =>
    have hown := keeps_evaluateOwn h own []
    grind
  | derived parent own =>
    have hparent := keeps_evaluate h parent
    have hown := keeps_evaluateOwn h own []
    grind
  | _ => grind

@[grind ←]
theorem keeps_evaluateItems (h : inner.Keeps link) (items : List Expr) :
    Keeps link (evaluateItems inner items) := by
  cases items with
  | nil =>
    rw [evaluateItems]
    exact .pure []
  | cons e rest =>
    have hrest := keeps_evaluateItems h rest
    rw [evaluateItems]
    exact .bind (keeps_evaluate h e) fun v => .bind hrest fun _ => .pure _

@[grind ←]
theorem keeps_evaluateOwn (h : inner.Keeps link) (own : List (CodePoints × Option Expr))
    (made : Properties) : Keeps link (evaluateOwn inner own made) := by
  match own with
  | [] =>
    rw [evaluateOwn]
    exact .pure made
  | (key, none) :: rest =>
    rw [evaluateOwn]
    exact keeps_evaluateOwn h rest _
  | (key, some e) :: rest =>
    rw [evaluateOwn]
    exact .bind (keeps_evaluate h e) fun v => keeps_evaluateOwn h rest _

end

-- ════════════════════════════════════════════════════════════════════════
-- Slots and values
-- ════════════════════════════════════════════════════════════════════════

@[grind ←]
theorem keeps_refuse (v : ScriptValue) (needed : String) :
    Keeps link (refuse v needed : ScriptM ε α) := by
  unfold refuse
  grind

@[grind ←]
theorem keeps_hostFunction (v : ScriptValue) : Keeps link (hostFunction v : ScriptM ε Code) := by
  unfold hostFunction
  grind

@[grind ←]
theorem keeps_hostString (v : ScriptValue) : Keeps link (hostString v : ScriptM ε String) := by
  unfold hostString
  grind

@[grind ←]
theorem keeps_hostGlobal (name : String) :
    Keeps link (hostGlobal name : ScriptM ε ScriptValue) := by
  unfold hostGlobal
  grind

@[grind ←]
theorem keeps_jsonFunction (name : String) :
    Keeps link (jsonFunction name : ScriptM ε Code) := by
  unfold jsonFunction
  grind

@[grind ←]
theorem keeps_stringify (h : inner.Keeps link) (v : ScriptValue) :
    Keeps link (stringify inner v) := by
  unfold stringify
  grind

@[grind ←]
theorem keeps_describe (h : inner.Keeps link) (v : ScriptValue) :
    Keeps link (describe inner v) := by
  unfold describe
  grind

@[grind ←]
theorem keeps_fromSlot (h : inner.Keeps link) (slot : Slot) :
    Keeps link (fromSlot inner slot) := by
  unfold fromSlot
  grind

@[grind ←]
theorem keeps_toSlot (h : inner.Keeps link) (v : ScriptValue) : Keeps link (toSlot inner v) := by
  unfold toSlot
  grind

@[grind ←]
theorem keeps_slotAt (h : inner.Keeps link) (place : Place) : Keeps link (slotAt inner place) := by
  unfold slotAt
  grind

@[grind ←]
theorem keeps_fillSlots (h : inner.Keeps link) (buffer : List Slot) (args : List Place) :
    Keeps link (fillSlots inner buffer args) := by
  induction args generalizing buffer with
  | nil => cases buffer <;> exact .pure _
  | cons arg rest ih =>
    unfold fillSlots
    grind

@[grind ←]
theorem keeps_pushSlots (h : inner.Keeps link) (slots : List Slot) (args : List Place) :
    Keeps link (pushSlots inner slots args) := by
  induction args generalizing slots with
  | nil => exact .pure slots
  | cons arg rest ih =>
    unfold pushSlots
    grind

@[grind ←]
theorem keeps_convertArgs (h : inner.Keeps link) (args : List Place) :
    Keeps link (convertArgs inner args) := by
  unfold convertArgs
  grind

-- ════════════════════════════════════════════════════════════════════════
-- Native functions
-- ════════════════════════════════════════════════════════════════════════

@[grind ←]
theorem keeps_textArg? (args : List ScriptValue) (i : Nat) :
    Keeps link (textArg? args i : ScriptM ε (Option String)) := by
  unfold textArg?
  grind

@[grind ←]
theorem keeps_itemsArg (args : List ScriptValue) (i : Nat) :
    Keeps link (itemsArg args i : ScriptM ε (List Place)) := by
  unfold itemsArg
  grind

@[grind ←]
theorem keeps_kindArg (name : String) (args : List ScriptValue) (i : Nat) :
    Keeps link (kindArg name args i : ScriptM ε CallKind) := by
  unfold kindArg
  grind

@[grind ←]
theorem keeps_callBridge (h : inner.Keeps link) (callee : Callee ε) (slots : List Slot)
    (miss : String) : Keeps link (callBridge inner callee slots miss) := by
  unfold callBridge
  refine .bind (.withBridge fun b => b.sustains_call (.callee callee slots)) fun result => ?_
  grind

@[grind ←]
theorem keeps_invoke (h : inner.Keeps link) (args : List ScriptValue) :
    Keeps link (invoke inner args) := by
  unfold invoke
  refine .bind (by grind) fun space => .bind (by grind) fun member => ?_
  grind

@[grind ←]
theorem keeps_resolveBinding (args : List ScriptValue) :
    Keeps link (resolveBinding args : ScriptM ε ScriptValue) := by
  unfold resolveBinding
  refine .bind (by grind) fun space => .bind (by grind) fun member => ?_
  refine .bind (by grind) fun kind => ?_
  refine .bind (.withBridge fun b => b.sustains_resolveId _ _ kind _) fun answer => ?_
  grind

@[grind ←]
theorem keeps_positional (arity : Option Nat) (rest : List ScriptValue) :
    Keeps link (positional arity rest : ScriptM ε (List ScriptValue)) := by
  unfold positional
  grind

@[grind ←]
theorem keeps_invokeById (h : inner.Keeps link) (arity : Option Nat) (l : List ScriptValue) :
    Keeps link (invokeById inner arity l) := by
  unfold invokeById
  grind

@[grind ←]
theorem keeps_releaseHandle (v : ScriptValue) :
    Keeps link (releaseHandle v : ScriptM ε ScriptValue) := by
  have hrelease (handle : Handle) :
      Keeps link (withBridge (Bridge.release handle) : ScriptM ε Bool) :=
    .withBridge fun b => b.sustains_release handle
  unfold releaseHandle
  grind

@[grind ←]
theorem keeps_registerCallback (v : ScriptValue) :
    Keeps link (registerCallback v : ScriptM ε ScriptValue) := by
  unfold registerCallback
  split
  · refine .bind .get fun s => ?_
    split
    · refine .bind (.modify fun _ => .of_same rfl rfl rfl rfl) fun _ => ?_
      exact .bind (.log _) fun _ => .pure _
    · exact keeps_raise _ _
  · exact keeps_refuse v "function"

@[grind ←]
theorem keeps_unregisterCallback (v : ScriptValue) :
    Keeps link (unregisterCallback v : ScriptM ε ScriptValue) := by
  unfold unregisterCallback
  split
  · refine .bind .get fun s => ?_
    exact .bind (.modify fun _ => .of_same rfl rfl rfl rfl) fun _ => .pure _
  · exact keeps_refuse v "i32"

@[grind ←]
theorem keeps_describeAll (h : inner.Keeps link) (values : List ScriptValue) :
    Keeps link (describeAll inner values) := by
  induction values with
  | nil => exact .pure []
  | cons v rest ih =>
    unfold describeAll
    grind

@[grind ←]
theorem keeps_writeConsole (h : inner.Keeps link) (level : Level) (args : List ScriptValue) :
    Keeps link (writeConsole inner level args) := by
  unfold writeConsole
  grind

@[grind ←]
theorem keeps_withFirst {f : ScriptValue → ScriptM ε ScriptValue} (hf : ∀ v, Keeps link (f v))
    (args : List ScriptValue) : Keeps link (withFirst args f) := by
  unfold withFirst
  grind

@[grind ←]
theorem keeps_nativeBody (h : inner.Keeps link) (args : List ScriptValue) (f : Native) :
    Keeps link (nativeBody inner args f) := by
  unfold nativeBody
  grind

@[grind ←]
theorem keeps_runNative (h : inner.Keeps link) (args : List ScriptValue) (f : Native) :
    Keeps link (runNative inner args f) := by
  unfold runNative
  grind

-- ════════════════════════════════════════════════════════════════════════
-- Functions of the script
-- ════════════════════════════════════════════════════════════════════════

@[grind ←]
theorem keeps_keysOf (v : ScriptValue) :
    Keeps link (keysOf v : ScriptM ε (List ScriptValue)) := by
  unfold keysOf
  grind

@[grind ←]
theorem keeps_see (v : ScriptValue) : Keeps link (see v : ScriptM ε Nat) :=
  .bind (.modify fun _ => .of_same rfl rfl rfl rfl) fun _ => .bind .get fun _ => .pure _

@[grind ←]
theorem keeps_increment (name : CodePoints) :
    Keeps link (increment name : ScriptM ε ScriptNumber) := by
  unfold increment
  grind

@[grind ←]
theorem keeps_threePlaces (v : ScriptValue) :
    Keeps link (threePlaces v : ScriptM ε ScriptValue) := by
  unfold threePlaces
  grind

@[grind ←]
theorem keeps_callValue (h : inner.Keeps link) (callee : ScriptValue) (this : ScriptValue)
    (args : List ScriptValue) :
    Keeps link (callValue inner callee this args) := by
  unfold callValue
  grind

@[grind ←]
theorem keeps_runDemoFrame (h : inner.Keeps link)  : Keeps link (runDemoFrame inner) := by
  unfold runDemoFrame
  grind

@[grind ←]
theorem keeps_runBody (h : inner.Keeps link) (this : ScriptValue) (args : List ScriptValue)
    (code : Code) : Keeps link (runBody inner this args code) := by
  unfold runBody
  cases code with
  | countFrame =>
    refine .bind (by grind) fun n => .bind (by grind) fun _ => ?_
    exact .bind (.modify fun _ => ⟨⟨.refl, rfl, rfl⟩, List.prefix_append ..⟩) fun _ => .pure _
  | _ => grind

@[grind ←]
theorem keeps_runCode (h : inner.Keeps link) (this : ScriptValue) (args : List ScriptValue)
    (code : Code) :
    Keeps link (runCode inner this args code) := by
  unfold runCode
  grind

/-- A link that what happens one level further in keeps is kept by what happens here. -/
theorem Inner.Keeps.outward (h : inner.Keeps link) : inner.outward.Keeps link where
  apply code this args := keeps_runCode h this args code
  written w e said holder key v := keeps_written h w e said holder key v

/-- Whatever a script does keeps every link. -/
theorem keeps_nesting (n : Nat) : (nesting n : Inner ε).Keeps link := by
  induction n with
  | zero => exact ⟨fun _ _ _ => keeps_overflow, fun _ _ _ _ _ _ => keeps_overflow⟩
  | succ n ih => exact ih.outward

-- ════════════════════════════════════════════════════════════════════════
-- What retains its context
-- ════════════════════════════════════════════════════════════════════════

/-- What may be used one level further in retains its context. -/
structure Inner.Retaining (inner : Inner ε) : Prop where
  apply : ∀ code this args, Script.Retaining (inner.apply code this args)
  written : ∀ w e said holder key v, Script.Retaining (inner.written w e said holder key v)

theorem Inner.Retaining.keeps (h : inner.Retaining) : inner.Keeps .sustaining :=
  ⟨h.apply, h.written⟩

/-- Whatever a script does retains its context. -/
theorem retaining_nesting (n : Nat) : (nesting n : Inner ε).Retaining :=
  have hkeeps : (nesting n : Inner ε).Keeps .sustaining := keeps_nesting n
  ⟨hkeeps.apply, hkeeps.written⟩

theorem retaining_convertArgs (h : inner.Retaining) (args : List Place) :
    Retaining (convertArgs inner args) :=
  keeps_convertArgs h.keeps args

theorem retaining_toSlots (h : inner.Retaining) (args : List ScriptValue) :
    Retaining (args.mapM (toSlot inner)) :=
  Keeps.mapM (keeps_toSlot h.keeps) args

end HostBridge.Script
