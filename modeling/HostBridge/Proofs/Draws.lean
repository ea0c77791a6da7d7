import HostBridge.Proofs.Period
import Mathlib.Data.Nat.ModEq

/-!
# What hosts draw from random streams

A host draws words and floats from a stream and restarts it, in any order. Every draw steps from a
word to the next one, and what is drawn depends on the word alone. Two streams to which the same is
done have the same word at all times if their seeds agree modulo `2 ^ 32`, and never have the same
word otherwise.

## Main definitions

- `Draw`, `Drawn` — what a host asks of a stream, and what it gets
- `RandomStream.outputs`, `RandomStream.after` — what a stream comes to when it is asked
- `RandomStream.InStep` — two streams to which the same was done
- `RandomStream.outputs_determined` — seeds decide what is drawn, and a restart undoes all draws
-/

namespace HostBridge

/-- What a host asks of a stream. -/
inductive Draw where
  | next
  | unit
  | range (a b : Float32)
  | reset

/-- What a host gets from a stream. -/
inductive Drawn where
  | word (w : UInt32)
  | float (x : Float32)
  | done

namespace RandomStream

variable {r s : RandomStream}

def draw (r : RandomStream) : Draw → Drawn × RandomStream
  | .next => r.next.map .word id
  | .unit => r.unit.map .float id
  | .range a b => (r.range a b).map .float id
  | .reset => (.done, r.reset)

/-- What a host gets, in order. -/
def outputs (r : RandomStream) : List Draw → List Drawn
  | [] => []
  | d :: rest => (r.draw d).1 :: (r.draw d).2.outputs rest

/-- The stream that a host leaves. -/
def after (r : RandomStream) : List Draw → RandomStream
  | [] => r
  | d :: rest => (r.draw d).2.after rest

theorem outputs_append (r : RandomStream) (calls later : List Draw) :
    r.outputs (calls ++ later) = r.outputs calls ++ (r.after calls).outputs later := by
  induction calls generalizing r with
  | nil => rfl
  | cons d calls ih => simp only [List.cons_append, outputs, after, ih]

theorem range_eq (r : RandomStream) (a b : Float32) :
    r.range a b =
      (if a ≤ b then a + (b - a) * r.unit.1 else b + (a - b) * r.unit.1, r.next.2) := by
  by_cases h : a ≤ b
  · simp only [range, if_pos h]
    rfl
  · simp only [range, if_neg h]
    rfl

/-- All draws step to the next word; only a restart does not. -/
theorem snd_draw (r : RandomStream) {d : Draw} (h : d ≠ .reset) : (r.draw d).2 = r.next.2 := by
  cases d with
  | next => rfl
  | unit => rfl
  | range a b => exact congrArg Prod.snd (r.range_eq a b)
  | reset => exact absurd rfl h

theorem snd_draw_reset (r : RandomStream) : (r.draw .reset).2 = new r.seed := rfl

theorem seed_next (r : RandomStream) : r.next.2.seed = r.seed := by
  cases r
  rfl

theorem seed_draw (r : RandomStream) (d : Draw) : (r.draw d).2.seed = r.seed := by
  by_cases h : d = .reset
  · subst h
    rfl
  · rw [snd_draw r h, seed_next]

theorem seed_after (r : RandomStream) (calls : List Draw) : (r.after calls).seed = r.seed := by
  induction calls generalizing r with
  | nil => rfl
  | cons d calls ih => rw [after, ih, seed_draw]

/-- What is drawn depends on the word alone. -/
theorem fst_draw_congr (h : r.word = s.word) (d : Draw) : (r.draw d).1 = (s.draw d).1 := by
  have hnext : r.next.1 = s.next.1 := by
    rw [fst_next, fst_next, h]
  have hunit : r.unit.1 = s.unit.1 := by
    show r.next.1.toFloat32 / _ = s.next.1.toFloat32 / _
    rw [hnext]
  cases d with
  | next => exact congrArg Drawn.word hnext
  | unit => exact congrArg Drawn.float hunit
  | range a b =>
    have hrange : (r.range a b).1 = (s.range a b).1 := by
      rw [range_eq, range_eq, hunit]
    exact congrArg Drawn.float hrange
  | reset => rfl

/-- Two streams have the same word exactly if their seeds do. -/
def InStep (r s : RandomStream) : Prop :=
  r.word = s.word ↔ r.seed.toUInt32 = s.seed.toUInt32

namespace InStep

theorem new (a b : UInt64) : InStep (.new a) (.new b) :=
  Iff.rfl

theorem draw (h : InStep r s) (d : Draw) : InStep (r.draw d).2 (s.draw d).2 := by
  by_cases hd : d = .reset
  · subst hd
    rw [snd_draw_reset, snd_draw_reset]
    exact InStep.new r.seed s.seed
  · simp only [snd_draw _ hd, InStep, word_next, seed_next, successor_injective.eq_iff]
    exact h

theorem after (h : InStep r s) (calls : List Draw) : InStep (r.after calls) (s.after calls) := by
  induction calls generalizing r s with
  | nil => exact h
  | cons d calls ih => exact ih (h.draw d)

theorem fst_next_iff (h : InStep r s) :
    r.next.1 = s.next.1 ↔ r.seed.toUInt32 = s.seed.toUInt32 := by
  rw [fst_next, fst_next, successor_injective.eq_iff]
  exact h

theorem outputs_eq (h : InStep r s) (hseed : r.seed.toUInt32 = s.seed.toUInt32)
    (calls : List Draw) : r.outputs calls = s.outputs calls := by
  induction calls generalizing r s with
  | nil => rfl
  | cons d calls ih =>
    have hseed' : (r.draw d).2.seed.toUInt32 = (s.draw d).2.seed.toUInt32 := by
      rw [seed_draw, seed_draw]
      exact hseed
    rw [outputs, outputs, fst_draw_congr (h.mpr hseed), ih (h.draw d) hseed']

end InStep

theorem toUInt32_eq_iff (a b : UInt64) :
    a.toUInt32 = b.toUInt32 ↔ a.toNat ≡ b.toNat [MOD 2 ^ 32] := by
  rw [← UInt32.toNat_inj, UInt64.toNat_toUInt32, UInt64.toNat_toUInt32]
  rfl

/-- Seeds that agree modulo `2 ^ 32` give the same outputs to the same calls. With seeds that do
not, the next words differ whatever was called before. Either way a stream that is restarted goes
on as a fresh one. -/
theorem outputs_determined (a b : UInt64) (calls : List Draw) :
    (a.toNat ≡ b.toNat [MOD 2 ^ 32] → (new a).outputs calls = (new b).outputs calls) ∧
      (((new a).after calls).next.1 = ((new b).after calls).next.1 ↔
        a.toNat ≡ b.toNat [MOD 2 ^ 32]) ∧
      ∀ later, (new a).outputs (calls ++ .reset :: later) =
        (new a).outputs calls ++ .done :: (new a).outputs later := by
  refine ⟨fun h => ?_, ?_, fun later => ?_⟩
  · exact (InStep.new a b).outputs_eq ((toUInt32_eq_iff a b).mpr h) calls
  · rw [((InStep.new a b).after calls).fst_next_iff, seed_after, seed_after]
    exact toUInt32_eq_iff a b
  · have hrestarted : ((new a).after calls).reset = new a := by
      rw [reset, seed_after]
      rfl
    rw [outputs_append, outputs]
    show _ ++ .done :: ((new a).after calls).reset.outputs later = _
    rw [hrestarted]

end RandomStream

end HostBridge
