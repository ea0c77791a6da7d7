import HostBridge.Bridge.Builtins
import HostBridge.Playground.Functions
import HostBridge.Proofs.Change

/-!
# Histories of a bridge

A *history* leads from one bridge to another by public operations. Host code may work in
between, and an initializer is followed command by command, so a bridge that an
initializer works on has a history as well. The bridges with a history from a new one are
*reachable*. Every history is a sequence of changes, so what every change keeps holds on
all reachable bridges.

## Main definitions

- `Bridge.History` — one bridge comes from another by operations of given forms
- `Bridge.Reachable` — a bridge with a history from a new one
- `Initializer.Makes`, `Initializer.commands` — the changes that an initializer makes, and the
  operations that it performs
- `Bridge.changes_ensureReady`, `Bridge.History.changes` — the changes behind histories
- `Playground.lending` — a reachable bridge of the playground that lends a counter
-/

namespace HostBridge

variable {ε : Type} [Embedding ε]

/-- The changes that an initializer makes on a bridge. -/
def Initializer.Makes : Initializer ε → Change ε → Prop
  | .bundled rs, change => ∃ r ∈ rs, change = .register r
  | .custom cs, change => ∃ c ∈ cs, c.Makes change

/-- What an initializer does, as operations. -/
def Initializer.commands : Initializer ε → List (Command ε)
  | .bundled rs => rs.map .register
  | .custom cs => cs

namespace Bridge

/-- One bridge comes from another by public operations of the given forms. -/
inductive History (P : Command ε → Prop) (a : Bridge ε) : Bridge ε → Prop where
  | refl : History P a a
  /-- An operation, while calls under way keep hold of some objects. -/
  | performed {b : Bridge ε} {c : Command ε} (before : History P a b) (form : P c)
      (kept : List ObjectRef) : History P a (b.after (performWith ensureReady kept c))
  /-- The host has worked on its own state. -/
  | worked {b : Bridge ε} (before : History P a b) (host : Host ε) : History P a { b with host }
  /-- An initializer starts to work. -/
  | begun {b : Bridge ε} (before : History P a b) (uninitialized : b.phase = .uninitialized) :
      History P a b.begun
  /-- An initializer has done its work. -/
  | finished {b : Bridge ε} (before : History P a b) (initializing : b.phase = .initializing)
      (replies : List (Reply ε)) :
      History P a { b.finished with replies := b.replies ++ replies }

/-- A bridge that has just been made. -/
def IsNew (b : Bridge ε) : Prop :=
  ∃ config host, b = new config host ∨ b = bundled config host

theorem IsNew.tables_eq {b : Bridge ε} (h : b.IsNew) :
    b.registry = {} ∧ b.codecs = {} ∧ b.phase = .uninitialized := by
  obtain ⟨config, host, rfl | rfl⟩ := h <;> exact ⟨rfl, rfl, rfl⟩

/-- A bridge that comes from a new one by public operations. -/
def Reachable (b : Bridge ε) : Prop :=
  ∃ a : Bridge ε, a.IsNew ∧ History (fun _ => True) a b

-- ════════════════════════════════════════════════════════════════════════
-- The changes of an initializer
-- ════════════════════════════════════════════════════════════════════════

/-- Some operation makes the change. -/
def Made (change : Change ε) : Prop :=
  ∃ c : Command ε, c.Makes change

theorem made_of_makes {i : Initializer ε} {change : Change ε} (h : i.Makes change) :
    Made change := by
  cases i with
  | bundled rs =>
    obtain ⟨r, -, rfl⟩ := h
    exact ⟨.register r, trivial⟩
  | custom cs =>
    obtain ⟨c, -, hmakes⟩ := h
    exact ⟨c, hmakes⟩

variable {P : Change ε → Prop} (b : Bridge ε)

theorem changes_performAllWith (kept : List ObjectRef) {cs : List (Command ε)}
    (h : ∀ c ∈ cs, ∀ change, c.Makes change → P change) :
    Changes P b (b.after (performAllWith (fun _ => pure ()) kept cs)) := by
  induction cs generalizing b with
  | nil => exact .refl
  | cons c cs ih =>
    have hfirst : Changes P b (b.after (performWith (fun _ => pure ()) kept c)) :=
      changes_performWith b (fun _ _ _ => .refl) (h c List.mem_cons_self) kept
    exact hfirst.trans (ih _ fun d hd => h d (List.mem_cons_of_mem c hd))

theorem changes_registerAll {rs : List (Registration ε)} (h : ∀ r ∈ rs, P (.register r)) :
    Changes P b (b.after (registerAll rs)) := by
  induction rs generalizing b with
  | nil => exact .refl
  | cons r rs ih =>
    have hfirst : Changes P b (b.after (register r)) :=
      .single (h r List.mem_cons_self) trivial
    exact hfirst.trans (ih _ fun r' hr' => h r' (List.mem_cons_of_mem r hr'))

/-- An initializer makes changes of its operations, and then reports. -/
theorem exists_changes_install (kept : List ObjectRef) (i : Initializer ε) :
    ∃ (d : Bridge ε) (replies : List (Reply ε)), Changes i.Makes b d ∧
      b.after (install kept i) = { d with replies := d.replies ++ replies } := by
  cases i with
  | bundled rs =>
    refine ⟨b.after (registerAll rs), [], ?_, ?_⟩
    · exact changes_registerAll b fun r hr => ⟨r, hr, rfl⟩
    · rw [List.append_nil]
      rfl
  | custom cs =>
    exact ⟨_, _, changes_performAllWith b kept fun c hc _ hmakes => ⟨c, hc, hmakes⟩, rfl⟩

theorem after_performAllWith_register (ready : Readiness ε) (kept : List ObjectRef)
    (rs : List (Registration ε)) :
    b.after (performAllWith ready kept (rs.map .register)) = b.after (registerAll rs) := by
  induction rs generalizing b with
  | nil => rfl
  | cons r rs ih => exact ih (b.after (register r))

/-- To run an initializer is to perform its operations, and then to report. -/
theorem exists_replies_after_install (kept : List ObjectRef) (i : Initializer ε) :
    ∃ replies, b.after (install kept i) =
      { b.after (performAllWith (fun _ => pure ()) kept i.commands) with
        replies := (b.after (performAllWith (fun _ => pure ()) kept i.commands)).replies ++
          replies } := by
  cases i with
  | bundled rs =>
    refine ⟨[], ?_⟩
    rw [Initializer.commands, after_performAllWith_register, List.append_nil]
    rfl
  | custom cs => exact ⟨b.answer (performAllWith (fun _ => pure ()) kept cs), rfl⟩

variable {b}

theorem Changes.phase_eq {a : Bridge ε} (h : Changes Made a b) : b.phase = a.phase := by
  refine h.invariant (I := fun d => d.phase = a.phase) rfl ?_
  rintro d change ⟨c, hmakes⟩ - hd
  exact (phase_apply_of_makes d hmakes).trans hd

/-- To get ready is to start an initializer, to make its changes, and to finish it. -/
theorem changes_ensureReady (b : Bridge ε) (kept : List ObjectRef) :
    Changes (fun _ => True) b (b.after (ensureReady kept)) := by
  by_cases hs : b.Settled
  · rw [after_ensureReady_of_settled hs]
    exact .refl
  · have hphase : b.phase = .uninitialized := Decidable.not_not.mp hs
    cases hinit : b.initializer with
    | none =>
      rw [after_ensureReady_of_none hphase hinit]
      exact .single (c := .skip) trivial hphase
    | some i =>
      obtain ⟨d, replies, hd, hinstall⟩ := exists_changes_install b.begun kept i
      have hphase' : d.phase = .initializing :=
        (hd.mono fun _ hmakes => made_of_makes hmakes).phase_eq
      rw [after_ensureReady_of_some hphase hinit, hinstall]
      have hbegun : Changes (fun _ => True) b b.begun :=
        .single (c := .begin) trivial hphase
      exact (hbegun.trans (hd.mono fun _ _ => trivial)).snoc (c := .finish replies) trivial hphase'

-- ════════════════════════════════════════════════════════════════════════
-- Histories are changes
-- ════════════════════════════════════════════════════════════════════════

namespace History

variable {P : Command ε → Prop} {a : Bridge ε}

/-- A history is a sequence of changes. -/
theorem changes (h : History P a b) : Changes (fun _ => True) a b := by
  induction h with
  | refl => exact .refl
  | performed _ _ kept ih =>
    exact ih.trans (changes_performWith _ (fun kept d _ => changes_ensureReady d kept)
      (fun _ _ => trivial) kept)
  | worked _ host ih => exact ih.snoc (c := .work host) trivial trivial
  | begun _ hphase ih => exact ih.snoc (c := .begin) trivial hphase
  | finished _ hphase replies ih => exact ih.snoc (c := .finish replies) trivial hphase

end History

/-- What holds on new bridges and is kept by every change holds on reachable bridges. -/
theorem Reachable.invariant {I : Bridge ε → Prop} (h : Reachable b)
    (hnew : ∀ a : Bridge ε, a.IsNew → I a)
    (hstep : ∀ (d : Bridge ε) (c : Change ε), c.Possible d → I d → I (c.apply d)) : I b := by
  obtain ⟨a, ha, hhistory⟩ := h
  exact hhistory.changes.invariant (hnew a ha) fun d c _ hpossible hd => hstep d c hpossible hd

namespace History

variable {P : Command ε → Prop} {a : Bridge ε}

/-- The changes of a history of operations once the bridge is settled. -/
def Kind (P : Command ε → Prop) : Change ε → Prop
  | .work _ => True
  | .finish _ => True
  | change => ∃ c, P c ∧ c.Makes change

theorem settled_apply {change : Change ε} (h : Kind P change) (hs : a.Settled) :
    (change.apply a).Settled := by
  have hmade (hmakes : ∃ c : Command ε, P c ∧ c.Makes change) : (change.apply a).Settled := by
    obtain ⟨c, -, hmakes⟩ := hmakes
    exact hs.of_phase_eq (phase_apply_of_makes a hmakes)
  cases change with
  | work host => exact hs
  | finish replies => exact Phase.noConfusion
  | register | number | lend | release | releaseAll | clear | setInitializer => exact hmade h
  | begin | skip => exact hmade h

/-- A settled bridge gets ready by nothing, so its history has the changes of its
    operations only, and it stays settled. -/
theorem changes_of_settled (h : History P a b) (hs : a.Settled) :
    Changes (Kind P) a b ∧ b.Settled := by
  have hsettled {d : Bridge ε} (hd : Changes (Kind P) a d) : d.Settled :=
    hd.invariant hs fun _ _ hkind _ => settled_apply hkind
  suffices Changes (Kind P) a b from ⟨this, hsettled this⟩
  induction h with
  | refl => exact .refl
  | @performed d c _ hform kept ih =>
    refine ih.trans (changes_performWith d ?_ ?_ kept)
    · intro kept d' hphase
      rw [after_ensureReady_of_settled ((hsettled ih).of_phase_eq hphase)]
      exact .refl
    · intro change hmakes
      cases change with
      | work | finish => exact trivial
      | register | number | lend | release | releaseAll | clear | setInitializer
        | begin | skip => exact ⟨c, hform, hmakes⟩
  | worked _ host ih => exact ih.snoc (c := .work host) trivial trivial
  | begun _ hphase ih => exact absurd hphase (hsettled ih)
  | finished _ hphase replies ih => exact ih.snoc (c := .finish replies) trivial hphase

end History

end Bridge

-- ════════════════════════════════════════════════════════════════════════
-- A bridge that lends a counter
-- ════════════════════════════════════════════════════════════════════════

namespace Playground

open Bridge

/-- A host of the playground on which nothing has happened. -/
def quietHost : Host Playground where
  environment := .new Environment.defaultSeed
  own := {}

/-- The members of a bridge with a counter: the totals of counters, and a constant of
    the same name that belongs to the type. -/
def totals : List (Registration Playground) :=
  [Member.total.registration "total", .onType counterType "total" (.getter (return int32 7))]

/-- A bridge of the playground without the bundled members, which lends a counter under the
    first handle. -/
def lending : Bridge Playground :=
  let registered : Bridge Playground := totals.foldl
    (fun b r => b.after (performWith ensureReady [] (.register r))) (new {} quietHost)
  registered.after (performWith ensureReady [] (.lend counterType ({} : Counter)))

theorem reachable_lending : Reachable lending :=
  ⟨.new {} quietHost, ⟨_, _, Or.inl rfl⟩,
    ((History.refl.performed trivial []).performed trivial []).performed trivial []⟩

end Playground

end HostBridge
