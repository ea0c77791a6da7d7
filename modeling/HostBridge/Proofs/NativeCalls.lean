import HostBridge.Proofs.ScriptEngine

/-!
# What native functions come to

A script reaches a member by its names or by the number that they were resolved to. Either way its
arguments are converted first, and then the bridge makes a call, if its host does not use it. So
what two such calls come to is the same if the conversion and what the bridge makes of the slots
are the same; what they throw may differ in its wording.

## Main definitions

- `Script.Presents` — an array gives some values to a call
- `Script.Spelled` — names that a host can read
- `Scope.refers` — values that a script may give for an object
- `Script.askNumber`, `Script.callByNumber`, `Script.callByNames` — what a script does with a member
- `Script.outcome_callBridge_congr` — the same call of the bridge comes to the same
-/

namespace HostBridge

/-- Whether a number is whole and fits 32 bits. -/
def ScriptNumber.fits : ScriptNumber → Bool
  | int _ => true
  | float x => Decimal.floatOfInt32 (Decimal.int32OfFloat x) == x

theorem ScriptNumber.slot_of_fits {n : ScriptNumber} (h : n.fits = true) :
    n.slot = .int32 n.toInt32 := by
  cases n with
  | int n => rfl
  | float x => exact if_pos h

theorem ScriptNumber.toInt_ofNat {n : Nat} (h : n ≤ 0x7FFFFFFF) :
    (ScriptNumber.ofNat n).toInt32.toInt = n := by
  have hfits : -0x80000000 ≤ (n : Int) ∧ (n : Int) ≤ 0x7FFFFFFF := by omega
  rw [ofNat, ofInt?, if_pos hfits]
  exact Int32.toInt_ofInt_of_le (by omega) (by omega)

/-- Whether a script may give a value for an object: a whole number of 32 bits, or an object that
    has a property `__handle` and is neither an array nor a function. -/
def Scope.refers (s : Scope) : ScriptValue → Bool
  | .number n => n.fits
  | v => v.isPlainObject && !v.isArray && s.has v "__handle"

namespace Script

variable {ε : Type} [Embedding ε] {α β : Type} {inner : Inner ε} {s d : Script ε}

-- ════════════════════════════════════════════════════════════════════════
-- Outcomes
-- ════════════════════════════════════════════════════════════════════════

theorem throw_bind (e : Thrown) (f : α → ScriptM ε β) : (throw e >>= f) = throw e := rfl

theorem outcome_bind_of_ok {x : ScriptM ε α} {a : α} (h : s.answer x = .ok a)
    (f : α → ScriptM ε β) : s.outcome (x >>= f) = (s.after x).outcome (f a) := by
  rw [outcome, answer_bind_of_ok h, after_bind_of_ok h]
  rfl

/-- A computation goes on from its first part the same if the rest is the same there. -/
theorem outcome_bind_congr {x : ScriptM ε α} {f g : α → ScriptM ε β}
    (h : ∀ a, s.answer x = .ok a → (s.after x).outcome (f a) = (s.after x).outcome (g a)) :
    s.outcome (x >>= f) = s.outcome (x >>= g) := by
  unfold outcome
  cases hanswer : s.answer x with
  | error e =>
    rw [answer_bind_of_error hanswer, after_bind_of_error hanswer, answer_bind_of_error hanswer,
      after_bind_of_error hanswer]
  | ok a =>
    rw [answer_bind_of_ok hanswer, after_bind_of_ok hanswer, answer_bind_of_ok hanswer,
      after_bind_of_ok hanswer]
    exact h a hanswer

/-- A computation throws if its first part throws or the rest does. -/
theorem outcome_bind_eq_none {x : ScriptM ε α} {f : α → ScriptM ε β}
    (h : ∀ a, s.answer x = .ok a → ((s.after x).outcome (f a)).1 = none) :
    (s.outcome (x >>= f)).1 = none := by
  unfold outcome
  cases hanswer : s.answer x with
  | error e =>
    rw [answer_bind_of_error hanswer]
    rfl
  | ok a =>
    rw [answer_bind_of_ok hanswer]
    exact h a hanswer

/-- While the host uses the bridge, a computation that works on the bridge first has no value. -/
theorem outcome_withBridge_bind_of_busy (code : BridgeM ε α) (f : α → ScriptM ε β)
    (h : s.busy = true) : s.outcome (withBridge code >>= f) = (none, s) := by
  have hvalue := withBridge_of_busy code h
  have hanswer := congrArg Prod.fst hvalue
  rw [outcome, answer_bind_of_error hanswer, after_bind_of_error hanswer]
  exact congrArg (none, ·) (congrArg Prod.snd hvalue)

theorem outcome_withBridge_bind_of_free (code : BridgeM ε α) (f : α → ScriptM ε β)
    (h : s.busy = false) :
    s.outcome (withBridge code >>= f) =
      Script.outcome { s with bridge := s.bridge.after code } (f (s.bridge.answer code)) := by
  have hvalue := withBridge_of_free code h
  have hafter : s.after (withBridge code) = { s with bridge := s.bridge.after code } :=
    congrArg Prod.snd hvalue
  rw [outcome_bind_of_ok (congrArg Prod.fst hvalue), hafter]

/-- A computation goes on the same from a part that can be replaced, if the rest is the same
    there. -/
theorem value_bind_congr {x y : ScriptM ε α} {f g : α → ScriptM ε β}
    (hxy : (x s).value = (y s).value)
    (hfg : ∀ a, s.answer y = .ok a → (f a (s.after y)).value = (g a (s.after y)).value) :
    ((x >>= f) s).value = ((y >>= g) s).value := by
  have hanswer : s.answer x = s.answer y := congrArg Prod.fst hxy
  have hafter : s.after x = s.after y := congrArg Prod.snd hxy
  rw [value_bind, value_bind, hanswer, hafter]
  cases hy : s.answer y with
  | error e => rfl
  | ok a => exact hfg a hy

theorem outcome_of_value {x : ScriptM ε α} {a : Except Thrown α}
    (h : (x s).value = (a, d)) : s.outcome x = (a.toOption, d) := by
  unfold outcome answer after
  rw [h]

theorem after_bind_pure (x : ScriptM ε α) (f : α → β) :
    s.after (x >>= fun a => pure (f a)) = s.after x := by
  cases hanswer : s.answer x with
  | error e => rw [after_bind_of_error hanswer]
  | ok a => rw [after_bind_of_ok hanswer, after_pure]

theorem answer_mapM_cons {f : α → ScriptM ε β} {a : α} {b : β} (h : s.answer (f a) = .ok b)
    (l : List α) {out : List β} :
    s.answer ((a :: l).mapM f) = .ok out ↔
      ∃ bs, (s.after (f a)).answer (l.mapM f) = .ok bs ∧ out = b :: bs := by
  rw [List.mapM_cons, answer_bind_of_ok h]
  cases hrest : (s.after (f a)).answer (l.mapM f) with
  | error e =>
    rw [answer_bind_of_error hrest]
    constructor
    · intro hok
      exact absurd hok (by simp)
    · rintro ⟨bs, hok, -⟩
      exact absurd hok (by simp)
  | ok bs =>
    rw [answer_bind_of_ok hrest, answer_pure]
    constructor
    · intro hok
      exact ⟨bs, rfl, (Except.ok.inj hok).symm⟩
    · rintro ⟨bs', hok, rfl⟩
      rw [Except.ok.inj hok]

theorem after_mapM_cons {f : α → ScriptM ε β} {a : α} {b : β} (h : s.answer (f a) = .ok b)
    (l : List α) : s.after ((a :: l).mapM f) = (s.after (f a)).after (l.mapM f) := by
  rw [List.mapM_cons, after_bind_of_ok h, after_bind_pure]

/-- To be called as a native function changes the wording of some errors only. -/
theorem outcome_runNative (args : List ScriptValue) (f : Native) :
    s.outcome (runNative inner args f) = s.outcome (nativeBody inner args f) := by
  cases hanswer : s.answer (nativeBody inner args f) with
  | ok v =>
    have hvalue : (runNative inner args f s).value =
        (.ok v, s.after (nativeBody inner args f)) := by
      rw [runNative, value_tryCatch, hanswer]
    rw [outcome_of_value hvalue, outcome, hanswer]
  | error e =>
    have hvalue : ∃ e', (runNative inner args f s).value =
        (.error e', s.after (nativeBody inner args f)) := by
      rw [runNative, value_tryCatch, hanswer]
      cases e with
      | exception v => exact ⟨_, rfl⟩
      | fault f => exact ⟨_, rfl⟩
    obtain ⟨e', hvalue⟩ := hvalue
    rw [outcome_of_value hvalue, outcome, hanswer]
    rfl

-- ════════════════════════════════════════════════════════════════════════
-- Slots of arguments
-- ════════════════════════════════════════════════════════════════════════

theorem take_fillSlots (buffer : List Slot) (args : List Place)
    (h : args.length ≤ buffer.length) :
    (do return (← fillSlots inner buffer args).take args.length) = args.mapM (slotAt inner) := by
  induction args generalizing buffer with
  | nil => cases buffer <;> simp [fillSlots]
  | cons arg rest ih =>
    cases buffer with
    | nil => exact absurd h (by simp)
    | cons slot buffer =>
      have hrest := ih buffer (Nat.le_of_succ_le_succ h)
      simp [fillSlots, ← hrest]

theorem pushSlots_eq (slots : List Slot) (args : List Place) :
    pushSlots inner slots args = (do return slots ++ (← args.mapM (slotAt inner))) := by
  induction args generalizing slots with
  | nil => simp [pushSlots]
  | cons arg rest ih => simp [pushSlots, ih]

/-- It does not matter to a call whether its arguments fit the buffer. -/
theorem convertArgs_eq_mapM (args : List Place) :
    convertArgs inner args = args.mapM (slotAt inner) := by
  unfold convertArgs
  split
  · next hfit => exact take_fillSlots _ args (by simpa using hfit)
  · rw [pushSlots_eq]
    simp

/-- Arguments that nothing can rewrite are converted as they are. -/
theorem convertArgs_const (args : List ScriptValue) :
    convertArgs inner (args.map (Function.const Scope)) = args.mapM (toSlot inner) := by
  rw [convertArgs_eq_mapM, List.mapM_map]
  rfl

/-- Whether an array gives some values to a call: it has as many items, and each value stands at its
    place when its turn comes. By then those in front of it have been converted, and code that ran
    for it may have rewritten the array. -/
structure Presents (s : Script ε) (inner : Inner ε) (array : ScriptValue)
    (args : List ScriptValue) : Prop where
  length : (s.scope.items array).length = args.length
  item : ∀ (i : Nat) (v : ScriptValue), args[i]? = some v →
    ∀ slots, s.answer ((args.take i).mapM (toSlot inner)) = .ok slots →
      ((s.after ((args.take i).mapM (toSlot inner))).scope.items array).getD i .undefined = v

/-- Nothing rewrites an array that no other value refers to. -/
theorem presents_array (s : Script ε) (inner : Inner ε) (args : List ScriptValue) :
    s.Presents inner (.array args) args where
  length := rfl
  item i v hv _ _ := by
    show args.getD i .undefined = v
    rw [List.getD_eq_getElem?_getD, hv, Option.getD_some]

/-- Items are converted as the values that stand at their places in turn. -/
theorem value_mapM_places {array : ScriptValue} {args : List ScriptValue} {k : Nat}
    (h : ∀ (i : Nat) (v : ScriptValue), args[i]? = some v →
      ∀ slots, s.answer ((args.take i).mapM (toSlot inner)) = .ok slots →
        ((s.after ((args.take i).mapM (toSlot inner))).scope.items array).getD (k + i)
          .undefined = v) :
    (((List.range' k args.length).map fun i (later : Scope) =>
      (later.items array).getD i .undefined).mapM (slotAt inner) s).value =
      (args.mapM (toSlot inner) s).value := by
  induction args generalizing s k with
  | nil => rfl
  | cons v rest ih =>
    have hfirst : slotAt inner (fun later => (later.items array).getD k .undefined) s =
        toSlot inner v s := by
      have hitem : (s.scope.items array).getD k .undefined = v := h 0 v rfl [] rfl
      show toSlot inner ((s.scope.items array).getD k .undefined) s = _
      rw [hitem]
    rw [List.length_cons, List.range'_succ, List.map_cons, List.mapM_cons, List.mapM_cons]
    refine value_bind_congr (congrArg Logged.value hfirst) fun slot hslot => ?_
    refine value_bind_congr (ih fun i w hw slots hslots => ?_) fun _ _ => rfl
    have hitem := h (i + 1) w hw (slot :: slots)
      ((answer_mapM_cons hslot (rest.take i)).mpr ⟨slots, hslots, rfl⟩)
    rwa [List.take_succ_cons, after_mapM_cons hslot, ← Nat.add_assoc,
      Nat.add_right_comm] at hitem

/-- The items of an array are converted as the values that it gives to the call. -/
theorem Presents.value_convertArgs {array : ScriptValue} {args : List ScriptValue}
    (h : s.Presents inner array args) :
    (convertArgs inner (s.scope.places array) s).value = (args.mapM (toSlot inner) s).value := by
  rw [convertArgs_eq_mapM, Scope.places, h.length, List.range_eq_range']
  refine value_mapM_places fun i v hv slots hslots => ?_
  rw [Nat.zero_add]
  exact h.item i v hv slots hslots

theorem toSlot_of_plainObject {v : ScriptValue} (h : v.isPlainObject = true) :
    toSlot inner v = (do
      if v.isArray then return .json (← stringify inner v)
      let scope := (← get).scope
      if scope.has v "__handle" then
        return ((scope.handle? v).map fun h => Slot.object h none).getD .null
      else
        match scope.vector? v with
        | some slot => return slot
        | none => return .json (← stringify inner v)) := by
  cases v <;> first | rfl | exact absurd h Bool.false_ne_true

/-- The slot of what a script gives for an object stands for the same handle. To make it runs no
    code of the script. -/
theorem toSlot_of_refers (inner : Inner ε) {v : ScriptValue} (h : s.scope.refers v = true) :
    ∃ slot, s.answer (toSlot inner v) = .ok slot ∧ s.after (toSlot inner v) = s ∧
      slot.handle? = s.scope.handle? v := by
  by_cases hplain : v.isPlainObject = true
  · have hrefers : v.isArray = false ∧ s.scope.has v "__handle" = true := by
      cases v <;> first
        | exact absurd hplain Bool.false_ne_true
        | simpa [Scope.refers, hplain] using h
    let slot := ((s.scope.handle? v).map fun h => Slot.object h none).getD .null
    have hvalue : (toSlot inner v s).value = (.ok slot, s) := by
      rw [toSlot_of_plainObject hplain, hrefers.1]
      show ((if s.scope.has v "__handle" = true then _ else _ : ScriptM ε Slot) s).value = _
      rw [if_pos hrefers.2]
      rfl
    refine ⟨slot, congrArg Prod.fst hvalue, congrArg Prod.snd hvalue, ?_⟩
    show Slot.handle? (((s.scope.handle? v).map fun h => Slot.object h none).getD .null) = _
    cases s.scope.handle? v <;> rfl
  · cases v with
    | number n =>
      refine ⟨n.slot, rfl, rfl, ?_⟩
      rw [ScriptNumber.slot_of_fits h]
      rfl
    | _ => exact absurd h (by simp_all [Scope.refers])

-- ════════════════════════════════════════════════════════════════════════
-- Names
-- ════════════════════════════════════════════════════════════════════════

/-- The host can read the names and the kind of a member as a script gives them. -/
structure Spelled (t m : CodePoints) (k : ScriptValue) (space member : String) (kind : CallKind) :
    Prop where
  space : t.toString? = some space
  member : m.toString? = some member
  kind : CallKind.ofTag? (intArg [k] 0) = .ok kind

variable {t m : CodePoints} {k : ScriptValue} {space member : String} {kind : CallKind}
  {isStatic : Bool}

theorem textArg?_of_some {args : List ScriptValue} {i : Nat} {text : CodePoints} {name : String}
    (harg : args[i]? = some (.string text)) (hname : text.toString? = some name) :
    (textArg? args i : ScriptM ε (Option String)) = pure (some name) := by
  simp [textArg?, harg, hostText, hname]

theorem textArg?_of_none {args : List ScriptValue} {i : Nat} {text : CodePoints}
    (harg : args[i]? = some (.string text)) (hname : text.toString? = none) :
    ∃ e, (textArg? args i : ScriptM ε (Option String)) = throw e := by
  simp only [textArg?, harg, hostText, hname]
  exact ⟨_, rfl⟩

theorem intArg_eq {args : List ScriptValue} {i : Nat} (harg : args[i]? = some k) :
    intArg args i = intArg [k] 0 := by
  simp [intArg, harg]

theorem kindArg_of_ok {args : List ScriptValue} {i : Nat} (name : String)
    (harg : args[i]? = some k) (h : CallKind.ofTag? (intArg [k] 0) = .ok kind) :
    (kindArg name args i : ScriptM ε CallKind) = pure kind := by
  rw [kindArg, intArg_eq harg, h]

theorem kindArg_of_error {args : List ScriptValue} {i : Nat} {e : BridgeError} (name : String)
    (harg : args[i]? = some k) (h : CallKind.ofTag? (intArg [k] 0) = .error e) :
    ∃ thrown, (kindArg name args i : ScriptM ε CallKind) = throw thrown := by
  rw [kindArg, intArg_eq harg, h]
  exact ⟨_, rfl⟩

/-- Where the items of an argument stand is read off the context. -/
theorem itemsArg_eq {args : List ScriptValue} {i : Nat} {array : ScriptValue}
    (harg : args[i]? = some array) :
    (itemsArg args i : ScriptM ε (List Place)) = (do return (← get).scope.places array) := by
  rw [itemsArg, List.getD_eq_getElem?_getD, harg, Option.getD_some]

theorem get_bind_get (f : Script ε → Script ε → ScriptM ε α) :
    (do let s ← get; let t ← get; f s t) = (do let s ← get; f s s) := rfl

/-- To give a number to a member whose names can be read is a matter of the bridge. -/
theorem resolveBinding_of_spelled (h : Spelled t m k space member kind) (isStatic : Bool) :
    (resolveBinding [.string t, .string m, k, .bool isStatic] : ScriptM ε ScriptValue) = (do
      match ← withBridge
          (Bridge.resolveId (Bridge.ensureReady []) space member kind isStatic) with
      | .ok id => return .ofNat id
      | .error e => typeError ("__resolveBinding: " ++ e.message)) := by
  rw [resolveBinding, textArg?_of_some rfl h.space, textArg?_of_some rfl h.member,
    kindArg_of_ok "__resolveBinding" rfl h.kind]
  simp only [pure_bind, Option.getD_some]
  rfl

/-- To call a member whose names can be read is to convert the arguments and to make the call. -/
theorem invoke_of_spelled (h : Spelled t m k space member kind) (isStatic : Bool)
    (this array : ScriptValue) :
    invoke inner [.string t, .string m, k, .bool isStatic, this, array] = (do
      let scope := (← get).scope
      let target := if isStatic then none else scope.handle? this
      let slots ← convertArgs inner (scope.places array)
      callBridge inner (.named space member kind isStatic target) slots
        ("No host binding for " ++ Bridge.bindingText space member kind)) := by
  rw [invoke, textArg?_of_some rfl h.space, textArg?_of_some rfl h.member,
    kindArg_of_ok "__invoke" rfl h.kind, itemsArg_eq rfl]
  simp only [pure_bind, bind_assoc, Option.getD_some, get_bind_get]
  rfl

variable (ε) in
/-- What a native function meets that reads names which the host cannot read: the name of the type
    throws, or that of the member, or the kind. -/
theorem reading_of_not_spelled (h : ¬∃ space member kind, Spelled t m k space member kind)
    (function : String) (rest : List ScriptValue) :
    let args : List ScriptValue := .string t :: .string m :: k :: rest
    (∃ e, (textArg? args 0 : ScriptM ε (Option String)) = throw e) ∨
      ∃ space, (textArg? args 0 : ScriptM ε (Option String)) = pure (some space) ∧
        ((∃ e, (textArg? args 1 : ScriptM ε (Option String)) = throw e) ∨
          ∃ member, (textArg? args 1 : ScriptM ε (Option String)) = pure (some member) ∧
            ∃ e, (kindArg function args 2 : ScriptM ε CallKind) = throw e) := by
  intro args
  cases ht : t.toString? with
  | none => exact Or.inl (textArg?_of_none rfl ht)
  | some space =>
    refine Or.inr ⟨space, textArg?_of_some rfl ht, ?_⟩
    cases hm : m.toString? with
    | none => exact Or.inl (textArg?_of_none rfl hm)
    | some member =>
      refine Or.inr ⟨member, textArg?_of_some rfl hm, ?_⟩
      cases hk : CallKind.ofTag? (intArg [k] 0) with
      | error e => exact kindArg_of_error function rfl hk
      | ok kind => exact absurd ⟨space, member, kind, ht, hm, hk⟩ h

/-- If a host cannot read the names or the kind of a member, it gives no number to it. -/
theorem resolveBinding_of_not_spelled (h : ¬∃ space member kind, Spelled t m k space member kind)
    (isStatic : Bool) :
    ∃ e, (resolveBinding [.string t, .string m, k, .bool isStatic] : ScriptM ε ScriptValue) =
      throw e := by
  unfold resolveBinding
  rcases reading_of_not_spelled ε h "__resolveBinding" [.bool isStatic] with
    ⟨e, ht⟩ | ⟨space, ht, ⟨e, hm⟩ | ⟨member, hm, e, hk⟩⟩
  · exact ⟨e, by rw [ht, throw_bind]⟩
  · exact ⟨e, by rw [ht, pure_bind, hm, throw_bind]⟩
  · exact ⟨e, by rw [ht, pure_bind, hm, pure_bind, hk, throw_bind]⟩

/-- Nor does it call the member. -/
theorem invoke_of_not_spelled (h : ¬∃ space member kind, Spelled t m k space member kind)
    (isStatic : Bool) (this args : ScriptValue) :
    ∃ e, invoke inner [.string t, .string m, k, .bool isStatic, this, args] = throw e := by
  unfold invoke
  rcases reading_of_not_spelled ε h "__invoke" [.bool isStatic, this, args] with
    ⟨e, ht⟩ | ⟨space, ht, ⟨e, hm⟩ | ⟨member, hm, e, hk⟩⟩
  · exact ⟨e, by rw [ht, throw_bind]⟩
  · exact ⟨e, by rw [ht, pure_bind, hm, throw_bind]⟩
  · refine ⟨e, ?_⟩
    rw [ht, pure_bind, hm, pure_bind, hk]
    rfl

-- ════════════════════════════════════════════════════════════════════════
-- Calls
-- ════════════════════════════════════════════════════════════════════════

/-- Whatever is asked of the bridge, while its host uses it there is no answer. -/
theorem outcome_callBridge_of_busy (hbusy : d.busy = true) (c : Callee ε) (slots : List Slot)
    (miss : String) : d.outcome (callBridge inner c slots miss) = (none, d) :=
  outcome_withBridge_bind_of_busy _ _ hbusy

theorem outcome_callBridge_of_free (hbusy : d.busy = false) (c : Callee ε) (slots : List Slot)
    (miss : String) :
    d.outcome (callBridge inner c slots miss) =
      Script.outcome { d with bridge := d.bridge.after (Bridge.call Bridge.ensureReady slots c) }
        (match d.bridge.answer (Bridge.call Bridge.ensureReady slots c) with
        | some slot => fromSlot inner slot
        | none => typeError miss) := by
  refine (outcome_withBridge_bind_of_free _ _ hbusy).trans ?_
  cases d.bridge.answer (Bridge.call Bridge.ensureReady slots c) <;> rfl

/-- The same call of the bridge comes to the same, but for what is thrown at a miss. -/
theorem outcome_callBridge_congr {c c' : Callee ε} {slots slots' : List Slot}
    (h : d.bridge.outcome (Bridge.call Bridge.ensureReady slots c) =
      d.bridge.outcome (Bridge.call Bridge.ensureReady slots' c')) (miss miss' : String) :
    d.outcome (callBridge inner c slots miss) = d.outcome (callBridge inner c' slots' miss') := by
  cases hbusy : d.busy with
  | true => rw [outcome_callBridge_of_busy hbusy, outcome_callBridge_of_busy hbusy]
  | false =>
    obtain ⟨hanswer, hafter⟩ := Prod.mk.inj h
    rw [outcome_callBridge_of_free hbusy, outcome_callBridge_of_free hbusy, hanswer, hafter]
    cases d.bridge.answer (Bridge.call Bridge.ensureReady slots' c') with
    | none => rfl
    | some slot => rfl

/-- A miss throws. -/
theorem outcome_callBridge_of_miss {c : Callee ε} {slots : List Slot}
    (h : d.bridge.answer (Bridge.call Bridge.ensureReady slots c) = none) (miss : String) :
    (d.outcome (callBridge inner c slots miss)).1 = none := by
  cases hbusy : d.busy with
  | true => rw [outcome_callBridge_of_busy hbusy]
  | false =>
    rw [outcome_callBridge_of_free hbusy, h]
    rfl

-- ════════════════════════════════════════════════════════════════════════
-- Numbers of members, and calls by them
-- ════════════════════════════════════════════════════════════════════════

/-- Asks for the number of a member by its names. -/
def askNumber (inner : Inner ε) (t m : CodePoints) (k : ScriptValue) (isStatic : Bool) :
    ScriptM ε ScriptValue :=
  runNative inner [.string t, .string m, k, .bool isStatic] .resolveBinding

/-- Calls a member by its number. If it is an instance member, the object is the first of the
    arguments. -/
def callByNumber (inner : Inner ε) (id : ScriptValue) (args : List ScriptValue) :
    ScriptM ε ScriptValue :=
  runNative inner (id :: args) (.invokeById none)

/-- Calls a member by its names, with the items of an array for arguments. -/
def callByNames (inner : Inner ε) (t m : CodePoints) (k : ScriptValue) (isStatic : Bool)
    (this array : ScriptValue) : ScriptM ε ScriptValue :=
  runNative inner [.string t, .string m, k, .bool isStatic, this, array] .invoke

/-- To ask for a number is to ask the bridge, if its host does not use it. -/
theorem outcome_askNumber_of_free (h : Spelled t m k space member kind) (hbusy : s.busy = false) :
    s.outcome (askNumber inner t m k isStatic) =
      ((s.bridge.answer (Bridge.resolveId (Bridge.ensureReady []) space member kind
          isStatic)).toOption.map .ofNat,
        { s with
          bridge := s.bridge.after
            (Bridge.resolveId (Bridge.ensureReady []) space member kind isStatic) }) := by
  rw [askNumber, outcome_runNative, nativeBody, resolveBinding_of_spelled h,
    outcome_withBridge_bind_of_free _ _ hbusy]
  cases s.bridge.answer
    (Bridge.resolveId (Bridge.ensureReady []) space member kind isStatic) <;> rfl

theorem outcome_askNumber_of_busy (h : Spelled t m k space member kind) (hbusy : s.busy = true) :
    s.outcome (askNumber inner t m k isStatic) = (none, s) := by
  rw [askNumber, outcome_runNative, nativeBody, resolveBinding_of_spelled h,
    outcome_withBridge_bind_of_busy _ _ hbusy]

/-- A script has a number from its bridge. -/
theorem of_answer_askNumber {v : ScriptValue}
    (h : s.answer (askNumber inner t m k isStatic) = .ok v) :
    ∃ space member kind id, Spelled t m k space member kind ∧ v = .ofNat id ∧
      s.bridge.answer (Bridge.resolveId (Bridge.ensureReady []) space member kind isStatic) =
        .ok id ∧
      (s.after (askNumber inner t m k isStatic)).bridge =
        s.bridge.after (Bridge.resolveId (Bridge.ensureReady []) space member kind isStatic) := by
  have hsome : (s.outcome (askNumber inner t m k isStatic)).1 = some v := by
    rw [outcome, h]
    rfl
  by_cases hspelled : ∃ space member kind, Spelled t m k space member kind
  · obtain ⟨space, member, kind, hspelled⟩ := hspelled
    cases hbusy : s.busy with
    | true =>
      rw [outcome_askNumber_of_busy hspelled hbusy] at hsome
      exact absurd hsome (by simp)
    | false =>
      have houtcome : s.outcome (askNumber inner t m k isStatic) = _ :=
        outcome_askNumber_of_free hspelled hbusy
      rw [houtcome] at hsome
      obtain ⟨id, hid, rfl⟩ := Option.map_eq_some_iff.mp hsome
      refine ⟨space, member, kind, id, hspelled, rfl, ?_, congrArg (·.2.bridge) houtcome⟩
      cases hanswer : s.bridge.answer
          (Bridge.resolveId (Bridge.ensureReady []) space member kind isStatic) with
      | ok id' =>
        rw [hanswer] at hid
        exact congrArg Except.ok (Option.some.inj hid)
      | error e =>
        rw [hanswer] at hid
        exact absurd hid (by simp [Except.toOption])
  · obtain ⟨e, hthrown⟩ : ∃ e, (resolveBinding [.string t, .string m, k, .bool isStatic] :
        ScriptM ε ScriptValue) = throw e := resolveBinding_of_not_spelled hspelled isStatic
    rw [askNumber, outcome_runNative, nativeBody, hthrown] at hsome
    exact absurd hsome (by simp [outcome, Except.toOption])

/-- To call by a number that a script has from its bridge is to convert the arguments and to make
    the call. -/
theorem outcome_callByNumber {id : Nat} (h : id ≤ 0x7FFFFFFF) (args : List ScriptValue) :
    s.outcome (callByNumber inner (.ofNat id) args) =
      s.outcome (do
        let slots ← args.mapM (toSlot inner)
        callBridge inner (.byId id) slots ("No host binding with id " ++ toString (id : Int))) := by
  rw [callByNumber, outcome_runNative, nativeBody]
  simp [invokeById, ScriptValue.ofNat, ScriptValue.number?, ScriptNumber.toInt_ofNat h, positional,
    convertArgs_const]

/-- So it is to call by names that can be read. -/
theorem outcome_callByNames (h : Spelled t m k space member kind) (this array : ScriptValue) :
    s.outcome (callByNames inner t m k isStatic this array) =
      s.outcome (do
        let slots ← convertArgs inner (s.scope.places array)
        callBridge inner (.named space member kind isStatic
          (if isStatic then none else s.scope.handle? this)) slots
          ("No host binding for " ++ Bridge.bindingText space member kind)) := by
  rw [callByNames, outcome_runNative, nativeBody, invoke_of_spelled h,
    outcome_bind_of_ok (answer_get s)]
  rfl

/-- The items of the array may be replaced by the values that it gives to the call. -/
theorem outcome_callByNames_of_presents (h : Spelled t m k space member kind) (this : ScriptValue)
    {array : ScriptValue} {args : List ScriptValue} (hargs : s.Presents inner array args) :
    s.outcome (callByNames inner t m k isStatic this array) =
      s.outcome (do
        let slots ← args.mapM (toSlot inner)
        callBridge inner (.named space member kind isStatic
          (if isStatic then none else s.scope.handle? this)) slots
          ("No host binding for " ++ Bridge.bindingText space member kind)) := by
  rw [outcome_callByNames h]
  exact outcome_of_value (value_bind_congr hargs.value_convertArgs fun _ _ => rfl)

/-- What a script gives for an object is converted at once, and the arguments behind it as they
    would be without it. -/
theorem outcome_mapM_cons {this : ScriptValue} (h : s.scope.refers this = true) :
    ∃ slot, slot.handle? = s.scope.handle? this ∧
      ∀ (args : List ScriptValue) (f : List Slot → ScriptM ε α),
        s.outcome ((this :: args).mapM (toSlot inner) >>= f) =
          s.outcome (args.mapM (toSlot inner) >>= fun slots => f (slot :: slots)) := by
  obtain ⟨slot, hanswer, hafter, hhandle⟩ := toSlot_of_refers inner h
  refine ⟨slot, hhandle, fun args f => ?_⟩
  rw [List.mapM_cons, bind_assoc, outcome_bind_of_ok hanswer, hafter]
  simp

end Script

end HostBridge
