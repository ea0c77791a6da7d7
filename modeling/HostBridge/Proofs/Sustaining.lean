import HostBridge.Proofs.Precompiled
import HostBridge.Proofs.Requests

/-!
# What the requests of scripts keep

A script makes calls, asks for numbers and gives objects back. The first of these gets the bridge
ready, whenever that is, and an initializer does to the tables what the tables and its own
operations tell. So a bridge that scripts have used has, once it is ready, what it would have had
if it had got ready at once: names lead to the same keys, and numbers stand for the same keys.

## Main definitions

- `Bridge.Sustains` — a bridge has, once it is ready, what an earlier one has once it is ready
- `Bridge.sameTables_ready` — getting ready does to the tables what the tables tell
- `Bridge.sustains_call`, `Bridge.sustains_resolveId`, `Bridge.sustains_release` — the requests of
  scripts
-/

namespace HostBridge.Bridge

variable {ε : Type} [Embedding ε] {b c d : Bridge ε}

-- ════════════════════════════════════════════════════════════════════════
-- Getting ready, by the tables
-- ════════════════════════════════════════════════════════════════════════

theorem SameTables.begun (h : d.SameTables b) : d.begun.SameTables b.begun where
  registry := by simp only [Bridge.begun, setKeepExisting, h.registry]
  ids := h.ids
  phase := rfl

theorem SameTables.finished (h : d.SameTables b) : d.finished.SameTables b.finished where
  registry := by simp only [Bridge.finished, setKeepExisting, h.registry]
  ids := h.ids
  phase := rfl

/-- What an operation does to the tables of a settled bridge is told by the tables. -/
theorem sameTables_performWith (h : d.SameTables b) (hs : b.Settled) (kept kept' : List ObjectRef)
    (c : Command ε) :
    (d.after (performWith (fun _ => pure ()) kept c)).SameTables
      (b.after (performWith (fun _ => pure ()) kept' c)) := by
  have hb := performed_of_settled hs kept' c
  have hd := (performed_of_settled (h.settled hs) kept c).congr h
  exact ⟨hd.registry.trans hb.registry.symm, hd.ids.trans hb.ids.symm, hd.phase.trans hb.phase.symm⟩

theorem sameTables_performAllWith (h : d.SameTables b) (hs : b.Settled)
    (kept kept' : List ObjectRef) (cs : List (Command ε)) :
    (d.after (performAllWith (fun _ => pure ()) kept cs)).SameTables
      (b.after (performAllWith (fun _ => pure ()) kept' cs)) := by
  induction cs generalizing b d with
  | nil => exact h
  | cons c cs ih =>
    have hfirst := sameTables_performWith h hs kept kept' c
    exact ih hfirst (hs.of_phase_eq (performed_of_settled hs kept' c).phase)

/-- Two bridges with the same tables and the same initializer have the same tables once they are
    ready, whatever the states of their hosts and whatever they have lent. -/
theorem sameTables_ready (h : d.SameTables b) (hinit : d.initializer = b.initializer)
    (kept kept' : List ObjectRef) :
    (d.after (ensureReady kept)).SameTables (b.after (ensureReady kept')) := by
  by_cases hs : b.Settled
  · rw [after_ensureReady_of_settled hs, after_ensureReady_of_settled (h.settled hs)]
    exact h
  · have hb : b.phase = .uninitialized := Decidable.not_not.mp hs
    have hd : d.phase = .uninitialized := h.phase.trans hb
    cases hi : b.initializer with
    | none =>
      rw [after_ensureReady_of_none hb hi, after_ensureReady_of_none hd (hinit.trans hi)]
      exact ⟨h.registry, h.ids, rfl⟩
    | some i =>
      rw [after_ensureReady_of_some hb hi, after_ensureReady_of_some hd (hinit.trans hi)]
      obtain ⟨replies, hinstall⟩ := exists_replies_after_install d.begun kept i
      obtain ⟨replies', hinstall'⟩ := exists_replies_after_install b.begun kept' i
      have hbegun : b.begun.Settled := Phase.noConfusion
      have hdone := sameTables_performAllWith h.begun hbegun kept kept' i.commands
      rw [hinstall, hinstall']
      exact SameTables.finished ⟨hdone.registry, hdone.ids, hdone.phase⟩

-- ════════════════════════════════════════════════════════════════════════
-- Bridges that sustain earlier ones
-- ════════════════════════════════════════════════════════════════════════

/-- Once both are ready, names lead where they lead on an earlier bridge and numbers stand for
    what they stand for there. A settled bridge stays settled. -/
structure Sustains (d b : Bridge ε) : Prop where
  retains : (d.after (ensureReady [])).Retains (b.after (ensureReady []))
  settled : b.Settled → d.Settled

namespace Sustains

theorem refl : b.Sustains b :=
  ⟨.refl, id⟩

theorem trans (hdc : d.Sustains c) (hcb : c.Sustains b) : d.Sustains b :=
  ⟨hdc.retains.trans hcb.retains, fun hs => hdc.settled (hcb.settled hs)⟩

/-- Between settled bridges there is nothing to get ready. -/
theorem retains_of_settled (h : d.Sustains b) (hs : b.Settled) : d.Retains b := by
  have hretains := h.retains
  rwa [after_ensureReady_of_settled hs, after_ensureReady_of_settled (h.settled hs)] at hretains

/-- A bridge that is settled, with the tables of the earlier one that has got ready. -/
theorem of_retains_ready (h : d.Retains (b.after (ensureReady []))) (hs : d.Settled) :
    d.Sustains b where
  retains := by rwa [after_ensureReady_of_settled hs]
  settled _ := hs

end Sustains

theorem SameTables.retains (h : d.SameTables b) : d.Retains b :=
  ⟨congrArg (·.bindings) h.registry, congrArg (·.typeNames) h.registry,
    congrArg (·.namespaces) h.registry, ⟨[], by rw [h.ids, List.append_nil]⟩⟩

-- ════════════════════════════════════════════════════════════════════════
-- What scripts ask for
-- ════════════════════════════════════════════════════════════════════════

/-- A call that comes to nothing before the bridge gets ready changes nothing; any other gets it
    ready. -/
theorem sustains_call (b : Bridge ε) (e : Entry ε) : (b.after (e.call ensureReady)).Sustains b := by
  have hsame := sameTables_call b [] e
  cases herrand : e.errand b with
  | nothing =>
    have hafter : b.after (e.call ensureReady) = b := by
      rw [e.after_call, Entry.service?, Entry.prepared, herrand]
      rfl
    rw [hafter]
    exact .refl
  | byName | byId =>
    rw [Entry.start?, herrand] at hsame
    exact .of_retains_ready hsame.retains (hsame.settled (settled_after_ensureReady b []))

theorem sustains_resolveId (b : Bridge ε) (space member : String) (kind : CallKind)
    (isStatic : Bool) :
    (b.after (resolveId (ensureReady []) space member kind isStatic)).Sustains b := by
  have hs := settled_after_ensureReady b []
  have hafter := congrArg Prod.snd
    (outcome_resolveId b (ensureReady []) space member kind isStatic)
  change b.after _ = _ at hafter
  rw [hafter]
  cases (Command.resolveId space member kind isStatic).asked?
    (b.after (ensureReady [])).registry with
  | none => exact .of_retains_ready .refl hs
  | some key =>
    have hphase : ((b.after (ensureReady [])).after (assignId key)).phase =
        (b.after (ensureReady [])).phase := by rw [after_assignId]
    have hkind : History.Kind Command.Quiet (.number key : Change ε) :=
      ⟨.resolveId space member kind isStatic, trivial, trivial⟩
    exact .of_retains_ready (Retains.apply hkind) (hs.of_phase_eq hphase)

/-- To give an object back changes what is lent only. -/
theorem sustains_release (b : Bridge ε) (handle : Handle) :
    (b.after (release handle)).Sustains b where
  retains := by
    have hsame : (b.after (release handle)).SameTables b := ⟨rfl, rfl, rfl⟩
    exact (sameTables_ready hsame rfl [] []).retains
  settled := id

end HostBridge.Bridge
