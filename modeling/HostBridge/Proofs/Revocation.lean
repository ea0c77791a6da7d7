import HostBridge.Proofs.Lending
import HostBridge.Proofs.Reentry

/-!
# Handles along the life of a bridge

Along every run the handle table is that of the uses that the operations make of it, whatever
host code returns and whenever the bridge is cleared. What holds of runs of a table therefore
holds of bridges: a live handle stands for one object until it is taken back, an operation adds
a fresh handle for each object that it lends and nothing else, and a handle that was taken back
is dead by every way to use it. Handles are never issued again, so there are only as many as
positive integers of 32 bits; when the last one is issued, objects get no handle any more.

## Main definitions

- `Bridge.Recorded` — a run of a bridge, with the uses of the handle table on it
- `Bridge.Revoked` — a handle is dead by every way to use it
- `Bridge.Lending` — what holds of the handles of a bridge that has been in use
- `Bridge.lending_run` — it holds along every run from a new bridge
-/

namespace HostBridge

variable {ε : Type} [Embedding ε]

/-- A call by a handle that is not live reports a miss. -/
theorem Entry.report_of_stale {e : Entry ε} {b : Bridge ε} (h : e.Stale b) (earlier : Slot) :
    e.report Bridge.ensureReady b earlier = (false, .null) := by
  have hanswer : b.answer (e.call Bridge.ensureReady) = none :=
    congrArg Prod.fst (Bridge.outcome_call_of_stale Bridge.ensureReady h)
  rw [report_eq, hanswer]
  rfl

-- ════════════════════════════════════════════════════════════════════════
-- Settled bridges
-- ════════════════════════════════════════════════════════════════════════

theorem Entry.lent_congr {ready ready' : Readiness ε} {b : Bridge ε}
    (h : ∀ kept, b.after (ready kept) = b.after (ready' kept)) (e : Entry ε) :
    e.lent ready b = e.lent ready' b := by
  have hprepared : e.prepared ready b = e.prepared ready' b := by
    unfold prepared
    cases e.errand b with
    | nothing => rfl
    | byName q => exact h q.target.toList
    | byId id args => exact h []
  unfold lent service?
  rw [hprepared]

theorem Entry.readied_of_settled {b : Bridge ε} (h : b.Settled) (e : Entry ε) :
    e.readied Bridge.readying b = [] := by
  unfold readied
  split
  · rfl
  · exact Bridge.readying_of_settled h

theorem Bridge.settled_onLoan {b : Bridge ε} (h : b.Settled) (held : Handle) (loan : Loan) :
    (b.onLoan held loan).Settled :=
  h.of_phase_eq (b.phase_onLoan held loan)

namespace Command

variable {b : Bridge ε}

theorem readied_of_settled (h : b.Settled) (c : Command ε) :
    c.readied Bridge.readying b = [] := by
  cases c with
  | call callee args => exact Entry.readied_of_settled h _
  | callHolding held loan callee args =>
    exact Entry.readied_of_settled (Bridge.settled_onLoan h held loan) _
  | resolveId | idOf | ensureReady => exact Bridge.readying_of_settled h
  | _ => rfl

theorem readied_nil (c : Command ε) : c.readied (fun _ => []) b = [] := by
  have hentry (d : Bridge ε) (e : Entry ε) : e.readied (fun _ => []) d = [] := by
    unfold Entry.readied
    split <;> rfl
  cases c with
  | call | callHolding => exact hentry _ _
  | _ => rfl

theorem lent_of_settled (h : b.Settled) (c : Command ε) :
    c.lent Bridge.ensureReady b = c.lent (fun _ => pure ()) b := by
  cases c with
  | call callee args =>
    exact Entry.lent_congr (fun kept => Bridge.after_ensureReady_of_settled h kept) _
  | callHolding held loan callee args =>
    have hloan : (b.onLoan held loan).Settled := Bridge.settled_onLoan h held loan
    exact Entry.lent_congr (fun _ => Bridge.after_ensureReady_of_settled hloan _) _
  | _ => rfl

/-- On a settled bridge an operation makes the uses that it makes where nothing gets ready. -/
theorem uses_of_settled (h : b.Settled) (c : Command ε) :
    c.uses Bridge.ensureReady Bridge.readying b = c.uses (fun _ => pure ()) (fun _ => []) b := by
  unfold uses
  rw [c.readied_of_settled h, c.readied_nil, c.lent_of_settled h]

end Command

namespace Bridge

-- ════════════════════════════════════════════════════════════════════════
-- Recorded runs
-- ════════════════════════════════════════════════════════════════════════

/-- One bridge comes from another, and these uses of the handle table were made on the way. An
    initializer may be followed operation by operation. -/
inductive Recorded (a : Bridge ε) : List (HandleUse ε) → Bridge ε → Prop where
  | refl : Recorded a [] a
  /-- A public operation, while calls under way keep hold of some objects. -/
  | performed {us : List (HandleUse ε)} {b : Bridge ε} (before : Recorded a us b)
      (kept : List ObjectRef) (c : Command ε) :
      Recorded a (us ++ c.uses ensureReady readying b) (b.after (performWith ensureReady kept c))
  /-- A call, which may be a request of the host. -/
  | called {us : List (HandleUse ε)} {b : Bridge ε} (before : Recorded a us b) (e : Entry ε) :
      Recorded a (us ++ e.uses ensureReady readying b) (b.after (e.call ensureReady))
  /-- The host has worked on its own state. -/
  | worked {us : List (HandleUse ε)} {b : Bridge ε} (before : Recorded a us b) (host : Host ε) :
      Recorded a us { b with host }
  | begun {us : List (HandleUse ε)} {b : Bridge ε} (before : Recorded a us b)
      (uninitialized : b.phase = .uninitialized) : Recorded a us b.begun
  | finished {us : List (HandleUse ε)} {b : Bridge ε} (before : Recorded a us b)
      (initializing : b.phase = .initializing) (replies : List (Reply ε)) :
      Recorded a us { b.finished with replies := b.replies ++ replies }

variable {a b d : Bridge ε} {us us' : List (HandleUse ε)} {h : Handle}

/-- The handle table is that of its uses. -/
theorem Recorded.handles_eq (hrun : Recorded a us b) : b.handles = a.handles.performAll us := by
  induction hrun with
  | refl => rfl
  | @performed us b _ kept c ih =>
    rw [HandleTable.performAll_append, ← ih]
    exact handles_performWith b (fun kept d _ => handles_ensureReady d kept) kept c
  | @called us b _ e ih =>
    rw [HandleTable.performAll_append, ← ih]
    exact e.handles_call (handles_ensureReady b)
  | worked _ host ih => exact ih
  | begun _ _ ih => exact ih
  | finished _ _ replies ih => exact ih

theorem recorded_performAllWith (hs : b.Settled) (hrun : Recorded a us b) (kept : List ObjectRef)
    (cs : List (Command ε)) :
    Recorded a (us ++ b.usesAll cs) (b.after (performAllWith (fun _ => pure ()) kept cs)) := by
  induction cs generalizing us b with
  | nil =>
    rw [usesAll, List.append_nil]
    exact hrun
  | cons c cs ih =>
    have hsplit : b.after (performAllWith (fun _ => pure ()) kept (c :: cs)) =
        (b.after (performWith (fun _ => pure ()) kept c)).after
          (performAllWith (fun _ => pure ()) kept cs) := rfl
    have hfirst := hrun.performed kept c
    rw [c.uses_of_settled hs, after_performWith_of_settled hs] at hfirst
    rw [hsplit, usesAll, ← List.append_assoc, after_performWith_kept b [] kept]
    exact ih (settled_performWith hs kept c) hfirst

/-- What an initializer does is a run, and the uses on it are those of its operations. -/
theorem exists_recorded_install (hs : b.Settled) (kept : List ObjectRef) (i : Initializer ε) :
    ∃ (d : Bridge ε) (replies : List (Reply ε)), Recorded b (b.usesAll i.commands) d ∧
      b.after (install kept i) = { d with replies := d.replies ++ replies } := by
  obtain ⟨replies, hinstall⟩ := exists_replies_after_install b kept i
  exact ⟨_, replies, recorded_performAllWith hs .refl kept i.commands, hinstall⟩

-- ════════════════════════════════════════════════════════════════════════
-- Revocation
-- ════════════════════════════════════════════════════════════════════════

/-- A handle is dead by every way to use it: as the handle of a call, as the first argument of a
    call by number, and as an argument for a shared object. The calls empty their result slots,
    whatever they hold. -/
structure Revoked (b : Bridge ε) (h : Handle) : Prop where
  entry?_eq_none : b.handles.entry? h = none
  onHandle : ∀ member kind args earlier,
    (Entry.callee (.onHandle h member kind) args).report ensureReady b earlier = (false, .null)
  named : ∀ typeName member kind args earlier,
    (Entry.callee (.named typeName member kind false (some h)) args).report ensureReady b
      earlier = (false, .null)
  /-- The number is that of an instance member once the bridge is ready. -/
  byId : ∀ {id key first rest}, (b.after (ensureReady [])).ids.key? id = some key →
    key.isStatic = false → first.handle? = some h → ∀ earlier,
    (Entry.callee (.byId id) (first :: rest)).report ensureReady b earlier = (false, .null)
  decode : ∀ {t slot}, slot.handle? = some h → ∀ codecs,
    (ValueType.optShared t).decode codecs b.handles slot = none

theorem revoked_of_retired (hsound : b.handles.Sound) (hretired : b.handles.Retired h) :
    b.Revoked h where
  entry?_eq_none := hretired.entry?_eq_none
  onHandle member kind args :=
    Entry.report_of_stale (e := .callee (.onHandle h member kind) args) hretired.entry?_eq_none
  named typeName member kind args :=
    Entry.report_of_stale (e := .callee (.named typeName member kind false (some h)) args)
      hretired.entry?_eq_none
  byId {id key first rest} hkey hstatic hfirst earlier := by
    -- The initializer may lend objects, but not under this handle.
    have hlater : (b.after (ensureReady [])).handles.Retired h := by
      rw [handles_ensureReady]
      exact hretired.performAll hsound b.readying
    have hsplit : splitTarget? (b.after (ensureReady [])).handles false (first :: rest) = none := by
      simp [splitTarget?, hfirst, hlater.resolve?_eq_none]
    have hservice : (Entry.callee (.byId id) (first :: rest)).service? ensureReady b = none := by
      show (b.after (ensureReady [])).serviceById? id (first :: rest) = none
      rw [serviceById?, hkey, Option.bind_some, hstatic, hsplit]
      rfl
    rw [Entry.report_eq, Entry.answer_call_eq_none_iff.mpr hservice]
    rfl
  decode {t slot} hslot codecs := by
    show (slot.handle?.bind (b.handles.resolveAs? t)) = none
    rw [hslot, Option.bind_some]
    exact hretired.resolveAs?_eq_none t

-- ════════════════════════════════════════════════════════════════════════
-- The handles of a bridge
-- ════════════════════════════════════════════════════════════════════════

/-- What holds of the handles of a bridge after these uses of its table. -/
structure Lending (us : List (HandleUse ε)) (b : Bridge ε) : Prop where
  /-- A handle is live with an entry exactly if the run has registered the entry under it and
      has not taken it back. -/
  live_iff : ∀ h e, b.handles.entry? h = some e ↔ HandleTable.LiveAs us h e
  /-- A live handle keeps its entry, and with it its object, until it is taken back. -/
  stable : ∀ {us' d h e}, Recorded b us' d → b.handles.entry? h = some e →
    .release h ∉ us' → .clear ∉ us' → d.handles.entry? h = some e
  /-- A run on which nothing is taken back adds a fresh handle for each object that is lent on
      it, as long as there is a number left, and nothing else. -/
  grown : ∀ {es d}, Recorded b (es.map .register) d → b.handles.Grown es d.handles
  /-- An operation that takes nothing back, once it has got the bridge ready, adds a fresh handle
      for each shared object that it registers or encodes, as long as there is a number left, and
      nothing else. -/
  performed : ∀ kept {c : Command ε}, c.taken = [] →
    (b.handles.performAll (c.readied readying b)).Grown (c.lent ensureReady b)
      (b.after (performWith ensureReady kept c)).handles
  called : ∀ e : Entry ε, (b.handles.performAll (e.readied readying b)).Grown
    (e.lent ensureReady b) (b.after (e.call ensureReady)).handles
  /-- On a settled bridge no operation has to get it ready. -/
  settled : b.Settled → (∀ c : Command ε, c.readied readying b = []) ∧
    ∀ e : Entry ε, e.readied readying b = []
  /-- Otherwise the initializer is a run of its own, from the bridge on which it starts to work. -/
  installed : ∀ i kept, b.phase = .uninitialized → b.initializer = some i →
    ∃ (d : Bridge ε) (replies : List (Reply ε)), Recorded b.begun b.readying d ∧
      b.after (ensureReady kept) = { d.finished with replies := d.replies ++ replies }
  /-- A shared object crosses under its fresh handle, as long as there is a number left. -/
  issued : ∀ t ref, b.handles.next < 2 ^ 31 → ∃ h : Handle, h.number = b.handles.next ∧
    b.handles.entry? h = none ∧ b.answer (encode (.shared t ref)) = .object h (some t.name) ∧
    HandleTable.entry? (b.after (encode (.shared t ref))).handles h = some (t.shares ref)
  /-- To decode a slot as a value of any type changes nothing. -/
  decoded : ∀ kept t slot, b.after (performWith ensureReady kept (.decode t slot)) = b
  /-- A handle that was taken back is dead ever after. -/
  revoked : ∀ {h}, b.answer (release h) = true →
    ∀ {us' d}, Recorded (b.after (release h)) us' d → d.Revoked h

theorem IsNew.handles_eq (ha : a.IsNew) : a.handles = {} := by
  obtain ⟨config, host, rfl | rfl⟩ := ha <;> rfl

/-- A shared object that is encoded while there are handles left crosses under the next one. -/
theorem exists_issued (hsound : b.handles.Sound) (t : HostType ε) (ref : ObjectRef)
    (hleft : b.handles.next < 2 ^ 31) : ∃ h : Handle, h.number = b.handles.next ∧
      b.handles.entry? h = none ∧ b.answer (encode (.shared t ref)) = .object h (some t.name) ∧
      HandleTable.entry? (b.after (encode (.shared t ref))).handles h = some (t.shares ref) := by
  obtain ⟨h, t', hregister⟩ :=
    HandleTable.exists_register_eq_ok (t.shares ref) hsound.positive hleft
  have hnumber := (HandleTable.register_eq_ok_iff.mp hregister).1
  have hfresh : b.handles.entry? h = none := hsound.entry?_eq_none (Nat.le_of_eq hnumber.symm)
  have hlend : (b.handles.lend t ref).value = (.object h (some t.name), t') := by
    rw [Handles.lend, show b.handles.register ⟨ref, t, t.name⟩ = .ok (h, t') from hregister]
    rfl
  refine ⟨h, hnumber, hfresh, congrArg Prod.fst hlend, ?_⟩
  show HandleTable.entry? (b.handles.lend t ref).value.2 h = _
  rw [hlend]
  exact (HandleTable.entry?_register hregister hfresh).trans (if_pos rfl)

/-- Every run of a new bridge, whatever its host code returns, lends and takes back as recorded.
    Once the counter of handles is exhausted, an object that is lent or returned gets no handle
    and is not registered; one that is returned crosses as an empty slot. -/
theorem lending_run (ha : a.IsNew) (hrun : Recorded a us b) : Lending us b := by
  have htable : b.handles = (HandleTable.run us).2 := by
    rw [hrun.handles_eq, ha.handles_eq, HandleTable.run_snd]
  have hsound : b.handles.Sound := htable ▸ HandleTable.sound_run us
  refine
    { live_iff := fun h e => by rw [htable]; exact HandleTable.entry?_run_iff
      stable := fun {us' d h e} hlater hentry hrelease hclear => ?_
      grown := fun {es d} hlater => ?_
      performed := fun kept {c} htaken => ?_
      called := fun e => ?_
      settled := fun hs => ⟨Command.readied_of_settled hs, Entry.readied_of_settled hs⟩
      installed := fun i kept hfresh hinit => ?_
      issued := exists_issued hsound
      decoded := fun _ _ _ => rfl
      revoked := fun {h} hlive {us' d} hlater => ?_ }
  · rw [hlater.handles_eq]
    exact HandleTable.entry?_performAll_of_kept hsound hentry hrelease hclear
  · rw [hlater.handles_eq]
    exact hsound.grown es
  · rw [handles_performWith b (fun kept d _ => handles_ensureReady d kept), Command.uses, htaken,
      List.nil_append, HandleTable.performAll_append]
    exact (hsound.performAll _).grown _
  · rw [e.handles_call (handles_ensureReady b), Entry.uses, HandleTable.performAll_append]
    exact (hsound.performAll _).grown _
  · obtain ⟨d, replies, hinstalled, hinstall⟩ :=
      exists_recorded_install (b := b.begun) Phase.noConfusion kept i
    have hreadying : b.readying = b.begun.usesAll i.commands := by
      simp only [readying, hfresh, hinit]
    refine ⟨d, replies, ?_, ?_⟩
    · rw [hreadying]
      exact hinstalled
    · rw [after_ensureReady_of_some hfresh hinit, hinstall]
      rfl
  · have hreleased : (b.after (release h)).handles.Retired h := hsound.retired_release hlive
    have hsoundLater : (b.after (release h)).handles.Sound := hsound.release
    refine revoked_of_retired ?_ ?_
    · rw [hlater.handles_eq]
      exact hsoundLater.performAll us'
    · rw [hlater.handles_eq]
      exact hreleased.performAll hsoundLater us'

/-- The bridge that lends a counter takes it back and lends it again. The first handle is dead, by
    its number and as an argument as well, and the second one stands for the counter. -/
theorem lending_run_relending :
    let a : Bridge Playground := new {} Playground.quietHost
    let b : Bridge Playground := Playground.lending
    let first : Handle := Playground.firstHandle
    let second : Handle := ⟨2, by decide, by decide⟩
    let released : Bridge Playground := b.after (release first)
    let d : Bridge Playground :=
      released.after (performWith ensureReady [] (.lend Playground.counterType ({} : Counter)))
    let us : List (HandleUse Playground) := [.register (Playground.counterType.shares 0)]
    a.IsNew ∧ Recorded a us b ∧ Lending us b ∧
      b.handles.entry? first = some (Playground.counterType.shares 0) ∧
      b.answer (release first) = true ∧ d.Revoked first ∧
      d.handles.entry? second = some (Playground.counterType.shares 1) ∧
      ((Entry.callee (.onHandle second "total" .get) []).report ensureReady d .null).1 =
        true := by
  intro a b first second released d us
  have ha : a.IsNew := ⟨_, _, Or.inl rfl⟩
  let total : Registration Playground := Playground.Member.total.registration "total"
  let constant : Registration Playground :=
    .onType Playground.counterType "total" (.getter (return Playground.int32 7))
  have hrun : Recorded a us b :=
    ((Recorded.refl.performed [] (.register total)).performed [] (.register constant)).performed []
      (.lend Playground.counterType ({} : Counter))
  have hlending : Lending us b := lending_run ha hrun
  have hlive : b.answer (release first) = true := rfl
  have hlater : Recorded released [.register (Playground.counterType.shares 1)] d :=
    Recorded.refl.performed [] (.lend Playground.counterType ({} : Counter))
  exact ⟨ha, hrun, hlending, rfl, hlive, hlending.revoked hlive hlater, rfl,
    by decide +kernel⟩

end Bridge

end HostBridge
