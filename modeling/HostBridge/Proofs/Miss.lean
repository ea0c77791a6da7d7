import HostBridge.Proofs.History

/-!
# A miss is atomic

A call that is a miss has run no host code, and the bridge afterwards is the one that is
ready for the call. That one differs from what getting ready alone leaves only in what
the initializer's own commands answered: a reply that looks at an object counts the
references to it, also those that a call keeps meanwhile. A call by a handle that is not
live does not even get the bridge ready.

## Main definitions

- `Entry.report` — the flag and the result slot of a call
- `Entry.Stale` — a call by a handle that is not live
- `Entry.miss_atomic` — what a miss leaves
-/

namespace HostBridge

variable {ε : Type} [Embedding ε]

namespace Bridge

-- ════════════════════════════════════════════════════════════════════════
-- Getting ready on behalf of a call
-- ════════════════════════════════════════════════════════════════════════

variable (b : Bridge ε)

/-- Only answers tell which objects the calls under way keep hold of. -/
theorem after_performWith_kept (kept kept' : List ObjectRef) (c : Command ε) :
    b.after (performWith (fun _ => pure ()) kept c) =
      b.after (performWith (fun _ => pure ()) kept' c) := by
  cases c <;> rfl

theorem after_performAllWith_kept (kept kept' : List ObjectRef) (cs : List (Command ε)) :
    b.after (performAllWith (fun _ => pure ()) kept cs) =
      b.after (performAllWith (fun _ => pure ()) kept' cs) := by
  induction cs generalizing b with
  | nil => rfl
  | cons c cs ih =>
    have hsplit (objects : List ObjectRef) :
        b.after (performAllWith (fun _ => pure ()) objects (c :: cs)) =
          (b.after (performWith (fun _ => pure ()) objects c)).after
            (performAllWith (fun _ => pure ()) objects cs) := rfl
    rw [hsplit kept, hsplit kept', after_performWith_kept b kept kept' c]
    exact ih _

theorem exists_replies_install (kept kept' : List ObjectRef) (i : Initializer ε) :
    ∃ replies, b.after (install kept i) = { b.after (install kept' i) with replies } := by
  obtain ⟨replies, hinstall⟩ := exists_replies_after_install b kept i
  obtain ⟨replies', hinstall'⟩ := exists_replies_after_install b kept' i
  rw [after_performAllWith_kept b kept kept'] at hinstall
  exact ⟨_, hinstall.trans (by rw [hinstall'])⟩

/-- To get ready leaves the same but for the replies, whatever calls keep hold of. -/
theorem exists_replies_ensureReady (kept kept' : List ObjectRef) :
    ∃ replies, b.after (ensureReady kept) = { b.after (ensureReady kept') with replies } := by
  by_cases hs : b.Settled
  · rw [after_ensureReady_of_settled hs, after_ensureReady_of_settled hs]
    exact ⟨b.replies, rfl⟩
  · have hphase : b.phase = .uninitialized := Decidable.not_not.mp hs
    cases hinit : b.initializer with
    | none =>
      rw [after_ensureReady_of_none hphase hinit, after_ensureReady_of_none hphase hinit]
      exact ⟨b.replies, rfl⟩
    | some i =>
      obtain ⟨replies, hinstall⟩ := exists_replies_install b.begun kept kept' i
      rw [after_ensureReady_of_some hphase hinit, after_ensureReady_of_some hphase hinit,
        hinstall]
      exact ⟨replies, rfl⟩

end Bridge

-- ════════════════════════════════════════════════════════════════════════
-- What a miss leaves
-- ════════════════════════════════════════════════════════════════════════

namespace Entry

/-- The flag that a call reports, and what is in the result slot afterwards, given what is in it
    before. -/
def report (ready : Readiness ε) (b : Bridge ε) (e : Entry ε) (earlier : Slot) : Bool × Slot :=
  b.answer ((e.callInto ready).run earlier)

/-- A call of a member of the object behind a handle that is not live. -/
def Stale (b : Bridge ε) : Entry ε → Prop
  | callee (.onHandle handle ..) _ => b.handles.entry? handle = none
  | callee (.named _ _ _ false (some handle)) _ => b.handles.entry? handle = none
  | _ => False

variable {e : Entry ε} {b : Bridge ε}

/-- What was in the result slot before is gone: after a hit the result is in it, and nothing after
    a miss. -/
theorem report_eq (ready : Readiness ε) (b : Bridge ε) (e : Entry ε) (earlier : Slot) :
    e.report ready b earlier = Bridge.reported (b.answer (e.call ready)) := by
  rw [report, run_callInto, Bridge.answer_map]

/-- Exactly the calls by a handle that is not live come to nothing. -/
theorem errand_eq_nothing_iff : e.errand b = .nothing ↔ e.Stale b := by
  cases e with
  | request q => exact iff_of_false (fun h => nomatch h) id
  | callee c args =>
    cases c with
    | onHandle handle member kind => exact Errand.onHandle_eq_nothing_iff
    | named space member kind isStatic handle =>
      cases isStatic with
      | true => exact iff_of_false (fun h => nomatch h) id
      | false =>
        cases handle with
        | none => exact iff_of_false (fun h => nomatch h) id
        | some handle => exact Errand.onHandle_eq_nothing_iff
    | static | byId | buffers => exact iff_of_false (fun h => nomatch h) id

theorem exists_replies_prepared (h : ¬e.Stale b) :
    ∃ replies, e.prepared Bridge.ensureReady b =
      { b.after (Bridge.ensureReady []) with replies } := by
  unfold prepared
  cases herrand : e.errand b with
  | nothing => exact absurd (errand_eq_nothing_iff.mp herrand) h
  | byName q => exact Bridge.exists_replies_ensureReady b q.target.toList []
  | byId id args => exact Bridge.exists_replies_ensureReady b [] []

/-- A call that reports a miss leaves the result slot empty, whatever was in it, and has run no
    host code. The bridge afterwards is as getting ready alone leaves it, up to the replies of
    the initializer, and after a stale call it is wholly as it was. -/
theorem miss_atomic (e : Entry ε) (b : Bridge ε) (earlier : Slot)
    (h : (e.report Bridge.ensureReady b earlier).1 = false) :
    (e.report Bridge.ensureReady b earlier).2 = .null ∧
      e.service? Bridge.ensureReady b = none ∧
      b.outcome (e.call Bridge.ensureReady) = (none, e.prepared Bridge.ensureReady b) ∧
      (¬e.Stale b → ∃ replies, b.after (e.call Bridge.ensureReady) =
        { b.after (Bridge.ensureReady []) with replies }) ∧
      (e.Stale b → b.after (e.call Bridge.ensureReady) = b) := by
  rw [report_eq] at h ⊢
  cases hanswer : b.answer (e.call Bridge.ensureReady) with
  | some slot =>
    rw [hanswer] at h
    exact absurd h Bool.true_eq_false.mp
  | none =>
    have hnone : e.service? Bridge.ensureReady b = none := answer_call_eq_none_iff.mp hanswer
    have houtcome : b.outcome (e.call Bridge.ensureReady) =
        (none, e.prepared Bridge.ensureReady b) := by
      rw [outcome_call, hnone]
      rfl
    have hafter : b.after (e.call Bridge.ensureReady) = e.prepared Bridge.ensureReady b :=
      congrArg Prod.snd houtcome
    refine ⟨rfl, hnone, houtcome, fun hlive => ?_, fun hstale => ?_⟩
    · rw [hafter]
      exact exists_replies_prepared hlive
    · rw [hafter, prepared, errand_eq_nothing_iff.mpr hstale]
      rfl

/-- With a counter on loan to a writer, the bridge that lends it reports a miss for a
    reading of its total. The result slot, which held a truth value, is empty then, and the
    bridge is as getting ready alone leaves it. -/
theorem miss_atomic_lending :
    let b : Bridge Playground :=
      { Playground.lending with
        host := { Playground.lending.host with
          objects := Playground.lending.host.objects.setLoan 0 .exclusive } }
    let e : Entry Playground := .callee (.onHandle Playground.firstHandle "total" .get) []
    (e.report Bridge.ensureReady b (.bool true)).1 = false ∧
      (e.report Bridge.ensureReady b (.bool true)).2 = .null ∧
      ∃ replies, b.after (e.call Bridge.ensureReady) =
        { b.after (Bridge.ensureReady []) with replies } := by
  intro b e
  have hmiss : (e.report Bridge.ensureReady b (.bool true)).1 = false := rfl
  have hlive : ¬e.Stale b := by
    show ¬b.handles.entry? Playground.firstHandle = none
    exact Option.some_ne_none _
  obtain ⟨hslot, -, -, hready, -⟩ := miss_atomic e b (.bool true) hmiss
  exact ⟨hmiss, hslot, hready hlive⟩

end Entry

end HostBridge
