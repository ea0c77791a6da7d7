import HostBridge.Proofs.ScriptComputation

/-!
# Values and their text, and the bridge

To read a property, to make text of a value or to make a number, an object or a list of it may call
functions of the script one level further in. A link between contexts that those keep, all of this
keeps: there is a lemma for each function, which those that use the function cite.

## Main definitions

- `Script.Inner.Keeps` — what may be used one level further in keeps a link
- `Script.keeps_written`, `Script.keeps_sum`, `Script.keeps_itemsOf` and their like
-/

namespace HostBridge.Script

variable {ε : Type} [Embedding ε] {α : Type} {inner : Inner ε} {link : Link ε}

-- ════════════════════════════════════════════════════════════════════════
-- Errors and variables
-- ════════════════════════════════════════════════════════════════════════

@[grind ←]
theorem keeps_raiseText (kind : ErrorKind) (message : CodePoints) :
    Keeps link (raiseText kind message : ScriptM ε α) := .throw _

@[grind ←]
theorem keeps_raise (kind : ErrorKind) (message : String) :
    Keeps link (raise kind message : ScriptM ε α) := .throw _

@[grind ←]
theorem keeps_typeError (message : String) : Keeps link (typeError message : ScriptM ε α) :=
  .throw _

@[grind ←]
theorem keeps_overflow : Keeps link (overflow : ScriptM ε α) := .throw _

@[grind ←]
theorem keeps_framed {code : ScriptM ε α} (h : Keeps link code) : Keeps link (framed code) := by
  unfold framed
  grind

@[grind ←]
theorem keeps_throwGetter : Keeps link (throwGetter : ScriptM ε α) := by
  unfold throwGetter
  grind

@[grind ←]
theorem keeps_refuseAccess : Keeps link (refuseAccess : ScriptM ε α) := by
  unfold refuseAccess
  grind

@[grind ←]
theorem keeps_found (l : Lookup) : Keeps link (found l : ScriptM ε ScriptValue) := by
  unfold found
  grind

@[grind ←]
theorem keeps_readProperty (v : ScriptValue) (key : CodePoints) :
    Keeps link (readProperty v key : ScriptM ε ScriptValue) := by
  unfold readProperty
  grind

@[grind ←]
theorem keeps_readMember (v : ScriptValue) (key : String) :
    Keeps link (readMember v key : ScriptM ε ScriptValue) := by
  unfold readMember
  grind

@[grind ←]
theorem keeps_hostText (s : CodePoints) : Keeps link (hostText s : ScriptM ε String) := by
  unfold hostText
  grind

@[grind ←]
theorem keeps_assignGlobal (name : CodePoints) (v : ScriptValue) :
    Keeps link (assignGlobal name v : ScriptM ε Unit) := by
  unfold assignGlobal
  refine .bind .get fun s => ?_
  split
  · exact .modify fun _ => .of_same rfl rfl rfl rfl
  all_goals grind

@[grind ←]
theorem keeps_readGlobal (name : CodePoints) :
    Keeps link (readGlobal name : ScriptM ε ScriptValue) := by
  unfold readGlobal
  grind

-- ════════════════════════════════════════════════════════════════════════
-- One level further in
-- ════════════════════════════════════════════════════════════════════════

/-- What may be used one level further in keeps a link. -/
structure Inner.Keeps (inner : Inner ε) (link : Link ε) : Prop where
  apply : ∀ code this args, Script.Keeps link (inner.apply code this args)
  written : ∀ w e said holder key v, Script.Keeps link (inner.written w e said holder key v)

@[grind ←]
theorem keeps_apply (h : inner.Keeps link) (code : Code) (this : ScriptValue)
    (args : List ScriptValue) : Keeps link (inner.apply code this args) :=
  h.apply code this args

@[grind ←]
theorem keeps_innerWritten (h : inner.Keeps link) (w : Writing) (e : Enclosing) (said : Bool)
    (holder : ScriptValue) (key : CodePoints) (v : ScriptValue) :
    Keeps link (inner.written w e said holder key v) :=
  h.written w e said holder key v

-- ════════════════════════════════════════════════════════════════════════
-- Text of values
-- ════════════════════════════════════════════════════════════════════════

@[grind ←]
theorem keeps_circular : Keeps link (circular : ScriptM ε α) := .throw _

@[grind ←]
theorem keeps_replaced (h : inner.Keeps link) (w : Writing) (holder : ScriptValue)
    (key : CodePoints) (v : ScriptValue) : Keeps link (replaced inner w holder key v) := by
  unfold replaced
  cases w.replacer with
  | none => grind
  | some code => grind

@[grind ←]
theorem keeps_writtenBox (v : ScriptValue) :
    Keeps link (writtenBox v : ScriptM ε (Option Json.Document)) := by
  unfold writtenBox
  grind

@[grind ←]
theorem keeps_writtenUnder (h : inner.Keeps link) (w : Writing) (e : Enclosing)
    (holder : ScriptValue) (keys : List CodePoints) :
    Keeps link (writtenUnder inner w e holder keys) := by
  induction keys with
  | nil => exact .pure []
  | cons key rest ih =>
    unfold writtenUnder
    grind

mutual

@[grind ←]
theorem keeps_written (h : inner.Keeps link) (w : Writing) (e : Enclosing) (said : Bool)
    (holder : ScriptValue) (key : CodePoints) (v : ScriptValue) :
    Keeps link (written inner w e said holder key v) := by
  unfold written
  cases v with
  | array items =>
    have hitems := keeps_writtenItems h w e (.array items) 0 items
    grind
  | object own =>
    have hmembers := keeps_writtenMembers h w e (.object own) own
    grind
  | derived parent own =>
    have hmembers := keeps_writtenMembers h w e (.derived parent own) own
    grind
  | box x own =>
    have hmembers := keeps_writtenMembers h w e (.box x own) own
    grind
  | _ => grind

@[grind ←]
theorem keeps_writtenItems (h : inner.Keeps link) (w : Writing) (e : Enclosing)
    (holder : ScriptValue) (i : Nat) (items : List ScriptValue) :
    Keeps link (writtenItems inner w e holder i items) := by
  cases items with
  | nil =>
    rw [writtenItems]
    exact .pure []
  | cons v rest =>
    rw [writtenItems]
    refine .bind (keeps_written h w e false holder (Properties.indexKey i) v) fun d => ?_
    exact .bind (keeps_writtenItems h w e holder (i + 1) rest) fun _ => .pure _

@[grind ←]
theorem keeps_writtenMembers (h : inner.Keeps link) (w : Writing) (e : Enclosing)
    (holder : ScriptValue) (own : List (CodePoints × Option ScriptValue)) :
    Keeps link (writtenMembers inner w e holder own) := by
  match own with
  | [] =>
    rw [writtenMembers]
    exact .pure []
  | (_, none) :: _ =>
    rw [writtenMembers]
    exact keeps_throwGetter
  | (key, some v) :: rest =>
    have hrest := keeps_writtenMembers h w e holder rest
    rw [writtenMembers]
    refine .bind (keeps_written h w e false holder key v) fun d => ?_
    grind

end

@[grind ←]
theorem keeps_primitiveText (v : ScriptValue) :
    Keeps link (primitiveText v : ScriptM ε CodePoints) := by
  unfold primitiveText
  grind

@[grind ←]
theorem keeps_firstPrimitive (h : inner.Keeps link) (v : ScriptValue) (keys : List String) :
    Keeps link (firstPrimitive inner v keys) := by
  induction keys with
  | nil => exact .throw _
  | cons key rest ih =>
    unfold firstPrimitive
    grind

@[grind ←]
theorem keeps_toPrimitive (h : inner.Keeps link) (keys : List String) (v : ScriptValue) :
    Keeps link (toPrimitive inner keys v) := by
  unfold toPrimitive
  grind

@[grind ←]
theorem keeps_textOf (h : inner.Keeps link) (v : ScriptValue) : Keeps link (textOf inner v) := by
  unfold textOf
  grind

@[grind ←]
theorem keeps_operand (h : inner.Keeps link) (v : ScriptValue) :
    Keeps link (operand inner v) := by
  unfold operand
  grind

@[grind ←]
theorem keeps_summandNumber (v : ScriptValue) :
    Keeps link (summandNumber v : ScriptM ε ScriptNumber) := by
  unfold summandNumber
  grind

@[grind ←]
theorem keeps_sum (h : inner.Keeps link) (a b : ScriptValue) : Keeps link (sum inner a b) := by
  unfold sum
  grind

@[grind ←]
theorem keeps_anyText (h : inner.Keeps link) (v : ScriptValue) :
    Keeps link (anyText inner v) := by
  unfold anyText
  grind

-- ════════════════════════════════════════════════════════════════════════
-- What values count as
-- ════════════════════════════════════════════════════════════════════════

@[grind ←]
theorem keeps_primitiveNumber (v : ScriptValue) :
    Keeps link (primitiveNumber v : ScriptM ε ScriptNumber) := by
  unfold primitiveNumber
  grind

@[grind ←]
theorem keeps_toNumber (h : inner.Keeps link) (v : ScriptValue) :
    Keeps link (toNumber inner v) := by
  unfold toNumber
  grind

@[grind ←]
theorem keeps_toFloats (h : inner.Keeps link) (values : List ScriptValue) :
    Keeps link (toFloats inner values) := by
  induction values with
  | nil => exact .pure []
  | cons v rest ih =>
    unfold toFloats
    grind

@[grind ←]
theorem keeps_toObject (v : ScriptValue) : Keeps link (toObject v : ScriptM ε ScriptValue) := by
  unfold toObject
  grind

@[grind ←]
theorem keeps_requireObject (v : ScriptValue) :
    Keeps link (requireObject v : ScriptM ε Unit) := by
  unfold requireObject
  grind

@[grind ←]
theorem keeps_requireFunction (v : ScriptValue) :
    Keeps link (requireFunction v : ScriptM ε Code) := by
  unfold requireFunction
  grind

@[grind ←]
theorem keeps_makeNumber (h : inner.Keeps link) (v : ScriptValue) :
    Keeps link (makeNumber inner v) := by
  unfold makeNumber
  grind

@[grind ←]
theorem keeps_bigintOf (s : CodePoints) : Keeps link (bigintOf s : ScriptM ε Int) := by
  unfold bigintOf
  grind

@[grind ←]
theorem keeps_toBigint (h : inner.Keeps link) (v : ScriptValue) :
    Keeps link (toBigint inner v) := by
  unfold toBigint
  grind

@[grind ←]
theorem keeps_makeBigint (h : inner.Keeps link) (v : ScriptValue) :
    Keeps link (makeBigint inner v) := by
  unfold makeBigint
  grind

@[grind ←]
theorem keeps_propertyKey? (h : inner.Keeps link) (v : ScriptValue) :
    Keeps link (propertyKey? inner v) := by
  unfold propertyKey?
  grind

@[grind ←]
theorem keeps_lengthOf (h : inner.Keeps link) (v : ScriptValue) :
    Keeps link (lengthOf inner v) := by
  unfold lengthOf
  grind

@[grind ←]
theorem keeps_valuesAt (v : ScriptValue) (positions : List Nat) :
    Keeps link (valuesAt v positions : ScriptM ε (List ScriptValue)) := by
  induction positions with
  | nil => exact .pure []
  | cons i rest ih =>
    unfold valuesAt
    grind

@[grind ←]
theorem keeps_positioned (h : inner.Keeps link) (v : ScriptValue) :
    Keeps link (positioned inner v) := by
  unfold positioned
  grind

@[grind ←]
theorem keeps_isIterable (v : ScriptValue) : Keeps link (isIterable v : ScriptM ε Bool) := by
  unfold isIterable
  grind

@[grind ←]
theorem keeps_requireIterable (v : ScriptValue) :
    Keeps link (requireIterable v : ScriptM ε Unit) := by
  unfold requireIterable
  grind

@[grind ←]
theorem keeps_itemsOf (h : inner.Keeps link) (v : ScriptValue) :
    Keeps link (itemsOf inner v) := by
  unfold itemsOf
  grind

end HostBridge.Script
