import HostBridge.Proofs.Entry
import HostBridge.Proofs.History
import HostBridge.Proofs.NameHash

/-!
# Names in buffers

A script may hand over a name as a buffer, in which the name ends at the first NUL or with the
buffer. Only what a buffer spells up to there goes into its hash, and names reach bindings by
their hashes only. So requests whose buffers spell the same names are the same call. What stands
behind the NUL shows in diagnostics of misses only.

## Main definitions

- `NameHash.spelled` — what a buffer spells
- `Request.SpellsAlike` — a request differs from another one at most in what its buffers hold
  behind the names
- `Entry.outcome_call_of_spellsAlike` — such requests make the same call
- `NameHash.buffers_as_names` — buffers call like texts
-/

namespace HostBridge

variable {ε : Type} [Embedding ε]

namespace NameHash

/-- What a buffer spells: all before the first NUL. -/
def spelled (buffer : List UInt8) : List UInt8 :=
  buffer.takeWhile (· ≠ 0)

theorem takeWhile_append_cons_of_neg {α : Type} {p : α → Bool} {a : α} (h : p a = false)
    (before rest : List α) : (before ++ a :: rest).takeWhile p = before.takeWhile p := by
  have hstop : (a :: rest).takeWhile p = [] := List.takeWhile_cons_of_neg (by simp [h])
  rw [List.takeWhile_append, hstop, List.append_nil]
  split
  · next hlen =>
    have hbegins := List.takeWhile_prefix (l := before) p
    exact (hbegins.eq_of_length hlen).symm
  · rfl

theorem spelled_append_nul (buffer rest : List UInt8) :
    spelled (buffer ++ 0 :: rest) = spelled buffer :=
  takeWhile_append_cons_of_neg rfl buffer rest

/-- The hash of a buffer goes by what it spells. -/
theorem ofBytes_eq (buffer : List UInt8) :
    ofBytes buffer = ((spelled buffer).map (·.toUInt32)).foldl step offset := by
  have hzero (unit : UInt8) : decide (unit.toUInt32 ≠ 0) = decide (unit ≠ 0) := by
    have hiff : unit.toUInt32 = 0 ↔ unit = 0 := by
      rw [← UInt32.toNat_inj, ← UInt8.toNat_inj, UInt8.toNat_toUInt32]
      rfl
    simp only [ne_eq, hiff]
  rw [ofBytes, ofUnits, List.takeWhile_map, spelled]
  congr 3
  funext unit
  exact hzero unit

theorem ofBytes_congr {buffer buffer' : List UInt8} (h : spelled buffer' = spelled buffer) :
    ofBytes buffer' = ofBytes buffer := by
  rw [ofBytes_eq, ofBytes_eq, h]

/-- The hash of a text goes by the characters before its first NUL. -/
theorem ofText_append_nul (name rest : String) : ofText (name ++ "\x00" ++ rest) = ofText name := by
  have hunits : (name ++ "\x00" ++ rest).toList.map (·.val) =
      name.toList.map (·.val) ++ 0 :: rest.toList.map (·.val) := by
    simp
  rw [ofText, ofUnits, hunits, takeWhile_append_cons_of_neg rfl]
  rfl

/-- A buffer that spells an ASCII name has the hash of the name. -/
theorem ofBytes_of_ascii {name : String} (h : ∀ c ∈ name.toList, c.val < 128)
    {buffer : List UInt8} (hbuffer : spelled buffer = spelled (Text.utf8 name)) :
    ofBytes buffer = ofText name := by
  rw [ofBytes_congr hbuffer]
  exact (agrees_of_ascii fun c hc => h c ((List.takeWhile_prefix _).subset hc)).symm

end NameHash

-- ════════════════════════════════════════════════════════════════════════
-- Requests that spell the same names
-- ════════════════════════════════════════════════════════════════════════

/-- A request differs from another one at most in what its buffers hold behind the names. -/
structure Request.SpellsAlike (q' q : Request ε) : Prop where
  typeName : q'.typeName.map NameHash.spelled = q.typeName.map NameHash.spelled
  member : NameHash.spelled q'.member = NameHash.spelled q.member
  owner : q'.owner = q.owner
  kind : q'.kind = q.kind
  isStatic : q'.isStatic = q.isStatic
  target : q'.target = q.target
  args : q'.args = q.args

namespace Request.SpellsAlike

variable {q' q : Request ε}

omit [Embedding ε] in
theorem key_eq (h : q'.SpellsAlike q) : q'.key = q.key := by
  funext owner
  rw [key, key, h.kind, h.isStatic, Key.memberHash, Key.memberHash, NameHash.ofBytes_congr h.member]

/-- The names lead to the same binding. -/
theorem lookup?_eq (h : q'.SpellsAlike q) (registry : Registry (HostType ε) (Handler ε)) :
    Bridge.lookup? registry q' = Bridge.lookup? registry q := by
  have htypeName := h.typeName
  unfold Bridge.lookup?
  rw [h.owner, h.key_eq, h.isStatic]
  cases q.owner with
  | some t => rfl
  | none =>
    cases hname : q.typeName with
    | none =>
      rw [hname, Option.map_none, Option.map_eq_none_iff] at htypeName
      rw [htypeName]
    | some name =>
      rw [hname, Option.map_some, Option.map_eq_some_iff] at htypeName
      obtain ⟨name', hname', hspelled⟩ := htypeName
      rw [hname', Option.bind_some, Option.bind_some, NameHash.ofBytes_congr hspelled]

theorem serviceByName?_eq (h : q'.SpellsAlike q) (b : Bridge ε) :
    b.serviceByName? q' = b.serviceByName? q := by
  rw [Bridge.serviceByName?, Bridge.serviceByName?, h.lookup?_eq, h.target, h.args]

end Request.SpellsAlike

/-- Calls with the same names have the same flag and result, and leave the same bridge. -/
theorem Entry.outcome_call_of_spellsAlike (ready : Readiness ε) (b : Bridge ε) {e' e : Entry ε}
    {q' q : Request ε} (h' : e'.errand b = .byName q') (h : e.errand b = .byName q)
    (hsame : q'.SpellsAlike q) :
    b.outcome (e'.call ready) = b.outcome (e.call ready) := by
  rw [outcome_call, outcome_call, prepared, prepared, service?, service?, prepared, prepared, h', h]
  simp only [Errand.prepared, Errand.service?, hsame.target, hsame.serviceByName?_eq]

/-- A buffer with an ASCII name, which ends with the buffer or at a NUL, has the hash of the name
    as text, and what stands behind a NUL in a text does not count either. On every bridge, a
    request whose buffers hold the same up to their first NUL has the same flag, result and
    effects, whatever form the two calls are made in. -/
theorem NameHash.buffers_as_names :
    (∀ (name : String) (buffer : List UInt8), (∀ c ∈ name.toList, c.val < 128) →
      buffer = Text.utf8 name ∨ (∃ rest, buffer = Text.utf8 name ++ 0 :: rest) →
        ofBytes buffer = ofText name) ∧
      (∀ name rest : String, ofText (name ++ "\x00" ++ rest) = ofText name) ∧
      (∀ (b : Bridge ε) (q : Request ε) (typeName : Option (List UInt8)) (member : List UInt8),
        typeName.map spelled = q.typeName.map spelled → spelled member = spelled q.member →
          b.outcome ((Entry.request { q with typeName, member }).call Bridge.ensureReady) =
            b.outcome ((Entry.request q).call Bridge.ensureReady)) ∧
      ∀ (b : Bridge ε) (e' e : Entry ε) (q' q : Request ε), e'.errand b = .byName q' →
        e.errand b = .byName q → q'.SpellsAlike q →
          b.outcome (e'.call Bridge.ensureReady) = b.outcome (e.call Bridge.ensureReady) := by
  have hcalls (b : Bridge ε) (e' e : Entry ε) (q' q : Request ε) (h' : e'.errand b = .byName q')
      (h : e.errand b = .byName q) (hsame : q'.SpellsAlike q) :
      b.outcome (e'.call Bridge.ensureReady) = b.outcome (e.call Bridge.ensureReady) :=
    Entry.outcome_call_of_spellsAlike Bridge.ensureReady b h' h hsame
  refine ⟨?_, ofText_append_nul, ?_, hcalls⟩
  · intro name buffer hascii hbuffer
    refine ofBytes_of_ascii hascii ?_
    rcases hbuffer with rfl | ⟨rest, rfl⟩
    · rfl
    · exact spelled_append_nul (Text.utf8 name) rest
  · intro b q typeName member htypeName hmember
    exact hcalls b _ _ _ q rfl rfl ⟨htypeName, hmember, rfl, rfl, rfl, rfl, rfl⟩

/-- The constant of counters is read by names in texts, and by names in buffers that go on behind
    a NUL. -/
theorem NameHash.buffers_as_names_total :
    let b : Bridge Playground := Playground.lending
    let junk : List UInt8 := [0, 7, 0xFF]
    let texts : Entry Playground := .callee (.static "Counter" "total" .get) []
    let buffers : Entry Playground :=
      .callee (.buffers (some (Text.utf8 "Counter" ++ junk)) none (Text.utf8 "total" ++ junk) .get
        true none) []
    b.answer (texts.call Bridge.ensureReady) = some (.int32 7) ∧
      b.outcome (buffers.call Bridge.ensureReady) = b.outcome (texts.call Bridge.ensureReady) ∧
      ofBytes (Text.utf8 "total" ++ junk) = ofText "total" := by
  intro b junk texts buffers
  obtain ⟨hhash, -, -, hcalls⟩ := buffers_as_names (ε := Playground)
  refine ⟨rfl, hcalls b buffers texts _ _ rfl rfl ?_, ?_⟩
  · exact ⟨rfl, rfl, rfl, rfl, rfl, rfl, rfl⟩
  · exact hhash "total" _ (by simp) (Or.inr ⟨[7, 0xFF], rfl⟩)

end HostBridge
