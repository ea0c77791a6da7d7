import HostBridge.Proofs.NativeCalls

/-!
# Arguments of calls from a script

A script gives the arguments of a call by number behind the number, and those of a call by names in
an array. Either way the bridge is asked with the slots of the values, each made after the one
before it; the items of an array are not even read before their turn, so that code which runs to
make a slot may still rewrite those behind it. Few arguments go through a buffer and more of them
through a list, which makes no difference. A function with a fixed number of arguments cuts off
what is behind them, and asks for nothing if they are too few.

## Main definitions

- `Script.hosted` — code of the host, whose refusals are type errors in the script
- `Script.addressed` — the member that a call by names is for
- `Script.callWithValues` — a call with the slots of values, made in order
- `Script.callWithItems` — a call with the slots of items, read and made in order
- `Script.PassesArguments` — how arguments get from a script to the bridge
- `Script.passes_arguments` — they do so whatever calls and text inside them come to
-/

namespace HostBridge.Script

variable {ε : Type} [Embedding ε] {α β : Type} {inner : Inner ε} {s : Script ε}

-- ════════════════════════════════════════════════════════════════════════
-- Values in order
-- ════════════════════════════════════════════════════════════════════════

/-- Values are made one after the other, each where the ones before it have led. -/
theorem answer_mapM_iff (f : α → ScriptM ε β) (l : List α) (out : List β) :
    s.answer (l.mapM f) = .ok out ↔
      out.length = l.length ∧ ∀ (i : Nat) (a : α), l[i]? = some a → ∃ b, out[i]? = some b ∧
        (s.after ((l.take i).mapM f)).answer (f a) = .ok b := by
  induction l generalizing s out with
  | nil =>
    constructor
    · intro h
      rw [← Except.ok.inj h]
      exact ⟨rfl, fun i a ha => absurd ha (by simp)⟩
    · rintro ⟨hlength, -⟩
      rw [List.eq_nil_of_length_eq_zero hlength]
      rfl
  | cons a l ih =>
    cases hfirst : s.answer (f a) with
    | error e =>
      rw [List.mapM_cons, answer_bind_of_error hfirst]
      constructor
      · intro h
        exact absurd h (by simp)
      · rintro ⟨-, hall⟩
        obtain ⟨b, -, hb⟩ := hall 0 a rfl
        rw [List.take_zero, List.mapM_nil, after_pure, hfirst] at hb
        exact absurd hb (by simp)
    | ok b =>
      rw [answer_mapM_cons hfirst]
      constructor
      · rintro ⟨bs, hrest, rfl⟩
        obtain ⟨hlength, hall⟩ := ih bs |>.mp hrest
        refine ⟨congrArg Nat.succ hlength, fun i c hc => ?_⟩
        cases i with
        | zero =>
          obtain rfl := Option.some.inj hc
          exact ⟨b, rfl, hfirst⟩
        | succ i =>
          rw [List.take_succ_cons, after_mapM_cons hfirst]
          exact hall i c hc
      · rintro ⟨hlength, hall⟩
        obtain ⟨b', bs, rfl⟩ := List.exists_cons_of_length_eq_add_one hlength
        have hb : b' = b := by
          obtain ⟨c, hc, hanswer⟩ := hall 0 a rfl
          obtain rfl := Option.some.inj hc
          exact Except.ok.inj (hanswer.symm.trans hfirst)
        refine ⟨bs, (ih bs).mpr ⟨Nat.succ.inj hlength, fun i c hc => ?_⟩, by rw [hb]⟩
        have hnext := hall (i + 1) c hc
        rw [List.take_succ_cons, after_mapM_cons hfirst] at hnext
        exact hnext

-- ════════════════════════════════════════════════════════════════════════
-- Calls
-- ════════════════════════════════════════════════════════════════════════

/-- Code of the host, as a script calls it: a refusal of the engine is a type error. -/
def hosted (code : ScriptM ε α) : ScriptM ε α :=
  tryCatch code fun
    | .fault e => typeError e.message
    | thrown => throw thrown

theorem runNative_eq (args : List ScriptValue) (f : Native) :
    runNative inner args f = hosted (nativeBody inner args f) := rfl

theorem hosted_typeError (message : String) :
    hosted (typeError message : ScriptM ε α) = typeError message := rfl

/-- The member that a call by names is for, and what is thrown if there is none. -/
def addressed (args : List ScriptValue) : ScriptM ε (Callee ε × String) := do
  let typeName := (← textArg? args 0).getD ""
  let some member ← textArg? args 1
    | typeError "__invoke: member name must be a string"
  let kind ← kindArg "__invoke" args 2
  let isStatic := boolArg args 3
  let scope := (← get).scope
  let target := if isStatic then none else args[4]?.bind scope.handle?
  return (.named typeName member kind isStatic target,
    "No host binding for " ++ Bridge.bindingText typeName member kind)

/-- Converts values in order, and makes a call with the slots. -/
def callWithValues (inner : Inner ε) (callee : Callee ε) (values : List ScriptValue)
    (miss : String) : ScriptM ε ScriptValue := do
  let slots ← values.mapM (toSlot inner)
  callBridge inner callee slots miss

/-- Reads and converts items in order, and makes a call with the slots. -/
def callWithItems (inner : Inner ε) (callee : Callee ε) (items : List Place) (miss : String) :
    ScriptM ε ScriptValue := do
  let slots ← items.mapM (slotAt inner)
  callBridge inner callee slots miss

/-- What is wrong with a call by number that has too few arguments. -/
def shortage (n : Nat) (id : ScriptValue) : String :=
  if id.number?.isSome then
    "__zaInvoke" ++ toString n ++ " requires bindingId + " ++ toString n ++ " args"
  else "bindingId must be an integer"

/-- How arguments get from a script to the bridge. -/
structure PassesArguments (inner : Inner ε) : Prop where
  byNumber : ∀ (id : ScriptValue) (x : ScriptNumber), id.number? = some x → ∀ args,
    callByNumber inner id args = hosted (callWithValues inner (.byId x.toInt32.toInt) args
      ("No host binding with id " ++ toString x.toInt32.toInt))
  byNames : ∀ args, runNative inner args .invoke = hosted (do
    let (callee, miss) ← addressed args
    let items ← itemsArg args 5
    callWithItems inner callee items miss)
  /-- An array that no other value refers to is a list of values. -/
  ofArray : ∀ (args values : List ScriptValue), args[5]? = some (.array values) →
    runNative inner args .invoke = hosted (do
      let (callee, miss) ← addressed args
      callWithValues inner callee values miss)
  /-- There are as many places of items as the array has items at the start. There are slots just
      if at every place stands a value, when its turn comes, that has one. -/
  inTurn : ∀ (s : Script ε) (args : List ScriptValue) (i : Nat) (array : ScriptValue),
    args[i]? = some array → ∃ items, s.answer (itemsArg args i) = .ok items ∧
      items.length = (s.scope.items array).length ∧
      ∀ (d : Script ε) (slots : List Slot), d.answer (items.mapM (slotAt inner)) = .ok slots ↔
        slots.length = items.length ∧
          ∀ k < items.length, let later := d.after ((items.take k).mapM (slotAt inner))
            ∃ slot, slots[k]? = some slot ∧
              later.answer (toSlot inner ((later.scope.items array).getD k .undefined)) = .ok slot
  /-- There are slots just if every value has one at its turn. -/
  inOrder : ∀ (s : Script ε) (args : List ScriptValue) (slots : List Slot),
    s.answer (args.mapM (toSlot inner)) = .ok slots ↔
      slots.length = args.length ∧
        ∀ (i : Nat) (v : ScriptValue), args[i]? = some v → ∃ slot, slots[i]? = some slot ∧
          (s.after ((args.take i).mapM (toSlot inner))).answer (toSlot inner v) = .ok slot
  fixed : ∀ (n : Nat) (id : ScriptValue) (args : List ScriptValue), n ≤ args.length →
    runNative inner (id :: args) (.invokeById (some n)) = callByNumber inner id (args.take n)
  /-- Too few arguments are an error before any of them is read. -/
  tooFew : ∀ (n : Nat) (id : ScriptValue) (args : List ScriptValue), args.length < n →
    runNative inner (id :: args) (.invokeById (some n)) = typeError (shortage n id) ∧
      ∀ s : Script ε,
        s.outcome (runNative inner (id :: args) (.invokeById (some n))) = (none, s)
  /-- The functions are global variables of a script. -/
  named : ∀ (config : ScriptConfig) (b : Bridge ε),
    let global (name : String) : Lookup :=
      (Script.new config b).value.scope.global (CodePoints.ofString name)
    global "__invoke" = .value (.function (.native .invoke)) ∧
      global "__zaInvoke" = .value (.function (.native (.invokeById none))) ∧
      ∀ n ≤ 8, global ("__zaInvoke" ++ toString n) =
        .value (.function (.native (.invokeById (some n))))

theorem invoke_eq (args : List ScriptValue) :
    invoke inner args = (do
      let (callee, miss) ← addressed args
      let items ← itemsArg args 5
      callWithItems inner callee items miss) := by
  simp only [invoke, addressed, callWithItems, bind_assoc, convertArgs_eq_mapM]
  congr 1
  funext typeName?
  congr 1
  funext member?
  cases member? with
  | none => rfl
  | some member => simp only [bind_assoc, pure_bind]

theorem getElem?_places {scope : Scope} {array : ScriptValue} {k : Nat}
    (hk : k < (scope.places array).length) :
    (scope.places array)[k]? = some fun later => (later.items array).getD k .undefined := by
  have hitem : k < (scope.items array).length := by simpa [Scope.places] using hk
  simp [Scope.places, hitem]

theorem places_array (scope : Scope) (values : List ScriptValue) :
    scope.places (.array values) = values.map (Function.const Scope) := by
  refine List.ext_getElem (by simp [Scope.places, Scope.items]) fun i hi _ => ?_
  have hvalue : i < values.length := by simpa [Scope.places, Scope.items] using hi
  simp only [Scope.places, Scope.items, List.getElem_map, List.getElem_range,
    List.getD_eq_getElem?_getD, List.getElem?_eq_getElem hvalue, Option.getD_some]
  rfl

theorem itemsArg_bind_of_array {args values : List ScriptValue} {i : Nat}
    (h : args[i]? = some (.array values)) (f : List Place → ScriptM ε α) :
    (itemsArg args i >>= f) = f (values.map (Function.const Scope)) := by
  rw [itemsArg_eq h]
  simp only [places_array]
  rfl

theorem callWithItems_const (callee : Callee ε) (values : List ScriptValue) (miss : String) :
    callWithItems inner callee (values.map (Function.const Scope)) miss =
      callWithValues inner callee values miss := by
  rw [callWithItems, callWithValues, ← convertArgs_eq_mapM, convertArgs_const]

/-- The items of an array are converted just if each is, as it is when its turn comes. -/
theorem answer_places_iff {scope : Scope} {array : ScriptValue} {slots : List Slot} :
    s.answer ((scope.places array).mapM (slotAt inner)) = .ok slots ↔
      slots.length = (scope.places array).length ∧ ∀ k < (scope.places array).length,
        let later := s.after (((scope.places array).take k).mapM (slotAt inner))
        ∃ slot, slots[k]? = some slot ∧
          later.answer (toSlot inner ((later.scope.items array).getD k .undefined)) = .ok slot := by
  rw [answer_mapM_iff]
  refine and_congr_right fun _ => ⟨fun h k hk => ?_, fun h k place hplace => ?_⟩
  · exact h k _ (getElem?_places hk)
  · obtain ⟨hk, -⟩ := List.getElem?_eq_some_iff.mp hplace
    rw [getElem?_places hk] at hplace
    obtain rfl := Option.some.inj hplace
    exact h k hk

theorem invokeById_none {id : ScriptValue} {x : ScriptNumber} (h : id.number? = some x)
    (args : List ScriptValue) :
    invokeById inner none (id :: args) = callWithValues inner (.byId x.toInt32.toInt) args
      ("No host binding with id " ++ toString x.toInt32.toInt) := by
  rw [invokeById, h, callWithValues]
  simp only [positional, pure_bind, convertArgs_const]

/-- The number of the member is read first, and then the arguments are counted. -/
theorem invokeById_some (n : Nat) (id : ScriptValue) (args : List ScriptValue) :
    invokeById inner (some n) (id :: args) =
      if n ≤ args.length then invokeById inner none (id :: args.take n)
      else typeError (shortage n id) := by
  cases hnumber : id.number? with
  | none =>
    simp only [invokeById, shortage, hnumber]
    by_cases hn : n ≤ args.length
    · rw [if_pos hn]
    · rw [if_neg hn]
      rfl
  | some x =>
    simp only [invokeById, shortage, hnumber, positional]
    by_cases hn : n ≤ args.length
    · rw [if_pos hn, if_neg (Nat.not_lt.mpr hn)]
    · rw [if_neg hn, if_pos (Nat.lt_of_not_le hn)]
      rfl

theorem runNative_of_le {n : Nat} {args : List ScriptValue} (h : n ≤ args.length)
    (id : ScriptValue) :
    runNative inner (id :: args) (.invokeById (some n)) = callByNumber inner id (args.take n) := by
  rw [callByNumber, runNative_eq, runNative_eq, nativeBody, nativeBody, invokeById_some, if_pos h]

theorem runNative_of_lt {n : Nat} {args : List ScriptValue} (h : args.length < n)
    (id : ScriptValue) :
    runNative inner (id :: args) (.invokeById (some n)) = typeError (shortage n id) := by
  rw [runNative_eq, nativeBody, invokeById_some, if_neg (Nat.not_le.mpr h), hosted_typeError]

theorem global_invokeById {n : Nat} (h : n ≤ 8) :
    ({ globals := initialGlobals } : Scope).global
      (CodePoints.ofString ("__zaInvoke" ++ toString n)) =
        .value (.function (.native (.invokeById (some n)))) := by
  match n with
  | 0 | 1 | 2 | 3 | 4 | 5 | 6 | 7 | 8 => rfl
  | n + 9 => omega

/-- Arguments get to the bridge as they stand, however many there are and whatever it costs to
convert them. -/
theorem passes_arguments (inner : Inner ε) : PassesArguments inner where
  byNumber id x h args := by
    rw [callByNumber, runNative_eq, nativeBody, invokeById_none h]
  byNames args := by
    rw [runNative_eq, nativeBody, invoke_eq]
  ofArray args values h := by
    rw [runNative_eq, nativeBody, invoke_eq]
    simp only [itemsArg_bind_of_array h, callWithItems_const]
  inTurn s args i array h := by
    refine ⟨s.scope.places array, ?_, by simp [Scope.places], fun d slots => answer_places_iff⟩
    rw [itemsArg_eq h]
    rfl
  inOrder s args slots := answer_mapM_iff (toSlot inner) args slots
  fixed n id args h := runNative_of_le h id
  tooFew n id args h := by
    refine ⟨runNative_of_lt h id, fun s => ?_⟩
    rw [runNative_of_lt h]
    rfl
  named config b := by
    intro global
    exact ⟨rfl, rfl, fun n hn => global_invokeById hn⟩

end HostBridge.Script
