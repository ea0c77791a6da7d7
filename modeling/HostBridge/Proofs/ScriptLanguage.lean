import HostBridge.Proofs.ScriptText

/-!
# Functions of the language and the bridge

No function of the language reaches for the bridge or for the pending jobs. What it is called with
may, when it makes text, numbers or lists of its arguments and calls functions among them, so each
keeps a link between contexts if what happens one level further in does.

## Main definitions

- `Script.keeps_runMath`, `Script.keeps_runObject` and their like — one lemma a function
- `Script.keeps_runIntrinsic` — all functions of the language
-/

namespace HostBridge.Script

variable {ε : Type} [Embedding ε] {inner : Inner ε} {link : Link ε}

-- ════════════════════════════════════════════════════════════════════════
-- Functions on numbers
-- ════════════════════════════════════════════════════════════════════════

@[grind ←]
theorem keeps_runMath (h : inner.Keeps link) (name : String) (args : List ScriptValue) :
    Keeps link (runMath inner name args) := by
  unfold runMath
  grind

@[grind ←]
theorem keeps_textOfPoints (h : inner.Keeps link) (values : List ScriptValue) :
    Keeps link (textOfPoints inner values) := by
  induction values with
  | nil => exact .pure []
  | cons v rest ih =>
    unfold textOfPoints
    grind

@[grind ←]
theorem keeps_unitsOfNumbers (h : inner.Keeps link) (values : List ScriptValue) :
    Keeps link (unitsOfNumbers inner values) := by
  induction values with
  | nil => exact .pure []
  | cons v rest ih =>
    unfold unitsOfNumbers
    grind

theorem interleaved_cons (part : ScriptValue) (more others : List ScriptValue) :
    interleaved inner (part :: more) others = (do
      let text ← textOf inner part
      match more, others with
      | [], _ => return text
      | more, [] => return text ++ (← interleaved inner more [])
      | more, other :: others => do
        let between ← textOf inner other
        return text ++ between ++ (← interleaved inner more others)) := by
  cases more <;> cases others <;> delta interleaved <;> rfl

@[grind ←]
theorem keeps_interleaved (h : inner.Keeps link) (parts others : List ScriptValue) :
    Keeps link (interleaved inner parts others) := by
  induction parts generalizing others with
  | nil => exact .pure []
  | cons part more ih =>
    rw [interleaved_cons]
    grind

@[grind ←]
theorem keeps_runTextMaker (h : inner.Keeps link) (name : String) (args : List ScriptValue) :
    Keeps link (runTextMaker inner name args) := by
  unfold runTextMaker
  grind

@[grind ←]
theorem keeps_runMoment (h : inner.Keeps link) (args : List ScriptValue) :
    Keeps link (runMoment inner args) := by
  unfold runMoment
  grind

@[grind ←]
theorem keeps_runBigintMaker (h : inner.Keeps link) (name : String) (args : List ScriptValue) :
    Keeps link (runBigintMaker inner name args) := by
  unfold runBigintMaker
  grind

-- ════════════════════════════════════════════════════════════════════════
-- Functions on objects
-- ════════════════════════════════════════════════════════════════════════

@[grind ←]
theorem keeps_putOwn (v : ScriptValue) (key : CodePoints) (x : ScriptValue) :
    Keeps link (putOwn v key x : ScriptM ε ScriptValue) := by
  unfold putOwn
  split
  · exact .bind (.modify fun s => .of_same rfl rfl rfl rfl) fun _ => .pure _
  · exact .pure _

@[grind ←]
theorem keeps_listedValues (v : ScriptValue) :
    Keeps link (listedValues v : ScriptM ε (List (CodePoints × ScriptValue))) := by
  unfold listedValues
  grind

@[grind ←]
theorem keeps_describeOwn (v : ScriptValue) (key : CodePoints) :
    Keeps link (describeOwn v key : ScriptM ε ScriptValue) := by
  unfold describeOwn
  grind

@[grind ←]
theorem keeps_withDescribed (v : ScriptValue) (descriptions : ScriptValue) :
    Keeps link (withDescribed v descriptions : ScriptM ε ScriptValue) := by
  unfold withDescribed
  refine .bind (keeps_listedValues _) fun pairs => .bind (.forIn fun pair v => ?_) fun v => .pure v
  refine .bind (keeps_requireObject _) fun _ => ?_
  grind

@[grind ←]
theorem keeps_grouped (h : inner.Keeps link) (code : Code) (items : List ScriptValue) :
    Keeps link (grouped inner code items) := by
  unfold grouped
  grind

@[grind ←]
theorem keeps_requireParent (v : ScriptValue) (message : String) :
    Keeps link (requireParent v message : ScriptM ε Unit) := by
  unfold requireParent
  grind

@[grind ←]
theorem keeps_hasOwnNamed (h : inner.Keeps link) (v named : ScriptValue) :
    Keeps link (hasOwnNamed inner v named) := by
  unfold hasOwnNamed
  grind

@[grind ←]
theorem keeps_runObject (h : inner.Keeps link) (name : String) (args : List ScriptValue) :
    Keeps link (runObject inner name args) := by
  unfold runObject
  split
  -- The loops of two of the functions are too deep for one go.
  case h_21 =>
    refine .bind (keeps_toObject _) fun v => .bind (.forIn fun source v => ?_) fun v => .pure v
    grind
  case h_22 =>
    refine .bind (keeps_itemsOf h _) fun entries =>
      .bind (.forIn fun entry v => ?_) fun v => .pure v
    refine .bind (keeps_requireObject entry) fun _ => ?_
    grind
  all_goals grind

@[grind ←]
theorem keeps_runReflection (h : inner.Keeps link) (name : String) (args : List ScriptValue) :
    Keeps link (runReflection inner name args) := by
  unfold runReflection
  grind

@[grind ←]
theorem keeps_mapped (h : inner.Keeps link) (code : Code) (this : ScriptValue)
    (items : List ScriptValue) :
    Keeps link (mapped inner code this items) := by
  unfold mapped
  grind

@[grind ←]
theorem keeps_runArrayMaker (h : inner.Keeps link) (name : String) (args : List ScriptValue) :
    Keeps link (runArrayMaker inner name args) := by
  unfold runArrayMaker
  split
  · grind
  · grind
  · split <;> refine .bind ?_ fun code => ?_
    all_goals grind

@[grind ←]
theorem keeps_runFunctionMethod (h : inner.Keeps link) (name : String) (this : ScriptValue)
    (args : List ScriptValue) :
    Keeps link (runFunctionMethod inner name this args) := by
  unfold runFunctionMethod
  grind

-- ════════════════════════════════════════════════════════════════════════
-- Functions of the language
-- ════════════════════════════════════════════════════════════════════════

@[grind ←]
theorem keeps_makeArray (l : List ScriptValue) :
    Keeps link (makeArray l : ScriptM ε ScriptValue) := by
  unfold makeArray
  grind

@[grind ←]
theorem keeps_makeError (h : inner.Keeps link) (kind : ErrorKind) (args : List ScriptValue) :
    Keeps link (makeError inner kind args) := by
  unfold makeError
  grind

@[grind ←]
theorem keeps_classText (v : ScriptValue) : Keeps link (classText v : ScriptM ε String) := by
  unfold classText
  grind

@[grind ←]
theorem keeps_textUnder (h : inner.Keeps link) (v : ScriptValue) (key missing : String) :
    Keeps link (textUnder inner v key missing) := by
  unfold textUnder
  grind

@[grind ←]
theorem keeps_errorText (h : inner.Keeps link) (v : ScriptValue) :
    Keeps link (errorText inner v) := by
  unfold errorText
  grind

@[grind ←]
theorem keeps_itemTexts (h : inner.Keeps link) (v : ScriptValue) (positions : List Nat) :
    Keeps link (itemTexts inner v positions) := by
  induction positions with
  | nil => exact .pure []
  | cons i rest ih =>
    unfold itemTexts
    grind

@[grind ←]
theorem keeps_joined (h : inner.Keeps link) (v separator : ScriptValue) :
    Keeps link (joined inner v separator) := by
  unfold joined
  grind

@[grind ←]
theorem keeps_boxedText (h : inner.Keeps link) (kind : PrimitiveKind) (v : ScriptValue) :
    Keeps link (boxedText inner kind v) := by
  unfold boxedText
  grind

@[grind ←]
theorem keeps_unboxed (kind : PrimitiveKind) (v : ScriptValue) :
    Keeps link (unboxed kind v : ScriptM ε ScriptValue) := by
  unfold unboxed
  grind

@[grind ←]
theorem keeps_coded (result : Except Text.CodeError CodePoints) :
    Keeps link (coded result : ScriptM ε ScriptValue) := by
  unfold coded
  grind

@[grind ←]
theorem keeps_writtenKeys (h : inner.Keeps link) (items : List ScriptValue) :
    Keeps link (writtenKeys inner items) := by
  unfold writtenKeys
  grind

@[grind ←]
theorem keeps_writingOf (h : inner.Keeps link) (v : ScriptValue) :
    Keeps link (writingOf inner v) := by
  unfold writingOf
  grind

@[grind ←]
theorem keeps_gapOf (h : inner.Keeps link) (v : ScriptValue) : Keeps link (gapOf inner v) := by
  unfold gapOf
  grind

@[grind ←]
theorem keeps_writeNotation (h : inner.Keeps link) (args : List ScriptValue) :
    Keeps link (writeNotation inner args) := by
  unfold writeNotation
  grind

mutual

@[grind ←]
theorem keeps_revived (h : inner.Keeps link) (reviver : Code) (holder : ScriptValue)
    (key : CodePoints) (v : ScriptValue) : Keeps link (revived inner reviver holder key v) := by
  unfold revived
  cases v with
  | array items =>
    have hitems := keeps_revivedItems h reviver (.array items) 0 items
    grind
  | object own =>
    have hown := keeps_revivedOwn h reviver (.object own) own
    grind
  | _ => grind

@[grind ←]
theorem keeps_revivedItems (h : inner.Keeps link) (reviver : Code) (holder : ScriptValue)
    (i : Nat) (items : List ScriptValue) :
    Keeps link (revivedItems inner reviver holder i items) := by
  cases items with
  | nil =>
    rw [revivedItems]
    exact .pure []
  | cons v rest =>
    have hrest := keeps_revivedItems h reviver holder (i + 1) rest
    rw [revivedItems]
    refine .bind (keeps_revived h reviver holder (Properties.indexKey i) v) fun v => ?_
    grind

@[grind ←]
theorem keeps_revivedOwn (h : inner.Keeps link) (reviver : Code) (holder : ScriptValue)
    (own : List (CodePoints × Option ScriptValue)) :
    Keeps link (revivedOwn inner reviver holder own) := by
  match own with
  | [] =>
    rw [revivedOwn]
    exact .pure []
  | (key, none) :: rest =>
    have hrest := keeps_revivedOwn h reviver holder rest
    rw [revivedOwn]
    grind
  | (key, some v) :: rest =>
    have hrest := keeps_revivedOwn h reviver holder rest
    rw [revivedOwn]
    refine .bind (keeps_revived h reviver holder key v) fun v => ?_
    grind

end

@[grind ←]
theorem keeps_readNotation (h : inner.Keeps link) (args : List ScriptValue) :
    Keeps link (readNotation inner args) := by
  unfold readNotation
  grind

@[grind ←]
theorem keeps_requireTexts (h : inner.Keeps link) (values : List ScriptValue) :
    Keeps link (requireTexts inner values) := by
  induction values with
  | nil => exact .pure ()
  | cons v rest ih =>
    unfold requireTexts
    grind

@[grind ←]
theorem keeps_make (h : inner.Keeps link) (args : List ScriptValue) (c : Constructor) :
    Keeps link (make inner args c) := by
  unfold make
  grind

@[grind ←]
theorem keeps_boxedBy (h : inner.Keeps link) (args : List ScriptValue) (kind : PrimitiveKind) :
    Keeps link (boxedBy inner args kind) := by
  unfold boxedBy
  grind

@[grind ←]
theorem keeps_constructStrict (h : inner.Keeps link) (args : List ScriptValue) (name : String) :
    Keeps link (constructStrict inner args name) := by
  unfold constructStrict
  grind

@[grind ←]
theorem keeps_construct (h : inner.Keeps link) (callee : ScriptValue) (args : List ScriptValue) :
    Keeps link (construct inner callee args) := by
  unfold construct
  grind

@[grind ←]
theorem keeps_runShared (h : inner.Keeps link) (c : Constructor) (name : String)
    (this : ScriptValue) (args : List ScriptValue) :
    Keeps link (runShared inner c name this args) := by
  unfold runShared
  grind

@[grind ←]
theorem keeps_runHeld (h : inner.Keeps link) (this : ScriptValue) (args : List ScriptValue)
    (name : String) (holder : Holder) :
    Keeps link (runHeld inner this args name holder) := by
  unfold runHeld
  grind

@[grind ←]
theorem keeps_runIntrinsic (h : inner.Keeps link) (this : ScriptValue) (args : List ScriptValue)
    (f : Intrinsic) :
    Keeps link (runIntrinsic inner this args f) := by
  unfold runIntrinsic
  grind

end HostBridge.Script
