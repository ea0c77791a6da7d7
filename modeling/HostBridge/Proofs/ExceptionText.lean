import HostBridge.Proofs.Cutting
import HostBridge.Proofs.ScriptEngine
import HostBridge.Script.Session

/-!
# What a host is told of an exception

When a script throws, the host is told the text of what it threw, cut to the limit of the
context. To make the text may run functions of the script, but none of them changes the limit.
So what the host is told is the longest beginning of the whole text that fits the limit, whether
the exception left a script or a pending job.

## Main definitions

- `Session.answer`, `Session.after` — what a computation of the host answers, and the context that
  it leaves
- `Session.exceptionText_longestFit` — the host is told the longest beginning that fits
-/

namespace HostBridge.Session

open Script

variable {ε : Type} [Embedding ε] {α β : Type} (s : Script ε)

/-- What a computation of the host answers when it starts from a context. -/
def answer (x : SessionM ε α) : α :=
  (x s).value.1

/-- The context that a computation of the host leaves when it starts from a context. -/
def after (x : SessionM ε α) : Script ε :=
  (x s).value.2

@[simp] theorem answer_pure (a : α) : answer s (pure a) = a := rfl

@[simp] theorem after_pure (a : α) : after s (pure a) = s := rfl

@[simp] theorem answer_bind (x : SessionM ε α) (f : α → SessionM ε β) :
    answer s (x >>= f) = answer (after s x) (f (answer s x)) := rfl

@[simp] theorem after_bind (x : SessionM ε α) (f : α → SessionM ε β) :
    after s (x >>= f) = after (after s x) (f (answer s x)) := rfl

@[simp] theorem answer_get : answer s (get : SessionM ε (Script ε)) = s := rfl

@[simp] theorem after_get : after s (get : SessionM ε (Script ε)) = s := rfl

@[simp] theorem answer_attempt (x : ScriptM ε α) : answer s (attempt x) = s.answer x := rfl

@[simp] theorem after_attempt (x : ScriptM ε α) : after s (attempt x) = s.after x := rfl

-- ════════════════════════════════════════════════════════════════════════
-- Making the text
-- ════════════════════════════════════════════════════════════════════════

theorem after_textAt? (v : ScriptValue) (key : String) : after s (textAt? v key) = s := by
  rw [textAt?, after_bind, after_get, answer_get]
  split <;> rfl

theorem after_described (v : ScriptValue) :
    after s (described v) = s.after (describe engine v) := by
  rw [described, after_bind, after_attempt]
  split <;> rfl

/-- Functions of the script that describe a value keep every link. -/
theorem holds_described (link : Link ε) (v : ScriptValue) :
    link.holds (after s (described v)) s := by
  rw [after_described]
  exact keeps_describe (keeps_nesting maxNesting) v s

theorem holds_fullText (link : Link ε) (v : ScriptValue) : link.holds (after s (fullText v)) s := by
  unfold fullText
  split
  · simp only [after_bind, after_textAt?]
    split
    · exact link.of_follows .refl
    · exact link.of_follows .refl
    · exact holds_described s link v
  · exact holds_described s link v

/-- To make the text changes no limit. -/
theorem config_fullText (v : ScriptValue) : (after s (fullText v)).config = s.config :=
  have hsustains : (after s (fullText v)).Sustains s := holds_fullText s .sustaining v
  hsustains.config

/-- The whole text is cut to the limit that the context had before. -/
theorem answer_exceptionText (v : ScriptValue) :
    answer s (exceptionText v) = String.ofList
      (Text.cutBytes (answer s (fullText v)).toList s.config.exceptionMessageLimit) := by
  rw [exceptionText, answer_bind, answer_bind, answer_get, answer_pure, config_fullText]

-- ════════════════════════════════════════════════════════════════════════
-- What the host is told
-- ════════════════════════════════════════════════════════════════════════

variable {s} {v : ScriptValue}

theorem answer_guarded {code : ScriptM ε α} (h : s.answer code = .error (.exception v)) :
    answer s (guarded code) =
      .error (.exception (answer (s.after code) (exceptionText v))) := by
  rw [guarded, answer_bind, answer_attempt, h]
  rfl

theorem answer_tick {drained : Drained}
    (h : answer s (drain s.config.maxJobsPerTick 0 s.jobs) = drained)
    (hthrown : drained.thrown = some (.exception v)) :
    answer s tick = .error (.job (answer
      { after s (drain s.config.maxJobsPerTick 0 s.jobs) with jobs := drained.pending }
      (exceptionText v))) := by
  rw [tick, answer_bind, answer_get, after_get, answer_bind, h, answer_bind, hthrown]
  rfl

/-- What the host is told of an exception is the longest beginning of the whole text, in whole
    characters, that fits the limit of the context, and the whole text if that fits. The search
    for its end goes back at most three steps from the limit, and never below zero. This is the
    text in the error of a script that ends by the exception, where the limit is the one that the
    script started with, and in the error of a pending job. -/
theorem exceptionText_longestFit (s : Script ε) (v : ScriptValue) :
    let limit := s.config.exceptionMessageLimit
    let whole := answer s (fullText v)
    let told := answer s (exceptionText v)
    Text.LongestFit limit whole told ∧
      (whole.utf8ByteSize ≤ limit → told = whole) ∧
      (limit ≤ whole.utf8ByteSize → ∃ steps ≤ 3,
        Text.floorBoundary whole.toList limit = limit - steps ∧
          told.utf8ByteSize = limit - steps ∧
          Text.StopsWithin (fun i => String.Pos.Raw.IsValid whole ⟨i⟩) limit steps) ∧
      (∀ {α : Type} {t : Script ε} {code : ScriptM ε α},
        t.answer code = .error (.exception v) → t.after code = s →
          answer t (guarded code) = .error (.exception told) ∧
            (Retaining code → t.config.exceptionMessageLimit = limit)) ∧
      ∀ {t : Script ε} {drained : Drained},
        answer t (drain t.config.maxJobsPerTick 0 t.jobs) = drained →
        drained.thrown = some (.exception v) →
        { after t (drain t.config.maxJobsPerTick 0 t.jobs) with jobs := drained.pending } = s →
          answer t tick = .error (.job told) := by
  intro limit whole told
  have htold : told = String.ofList (Text.cutBytes whole.toList limit) := answer_exceptionText s v
  have hlongest : Text.LongestFit limit whole told := by
    rw [htold]
    exact Text.cutBytes_longestFit whole limit
  refine ⟨hlongest, hlongest.eq_whole, fun hlimit => ?_, ?_, ?_⟩
  · obtain ⟨steps, hthree, hfloor, hstops⟩ := Text.exists_stopsWithin hlimit
    refine ⟨steps, hthree, hfloor, ?_, hstops⟩
    rw [htold, Text.utf8ByteSize_cutBytes, hfloor]
  · rintro α t code hcode rfl
    refine ⟨answer_guarded hcode, fun hretaining => ?_⟩
    exact congrArg ScriptConfig.exceptionMessageLimit (hretaining t).config.symm
  · rintro t drained hdrained hthrown rfl
    exact answer_tick hdrained hthrown

/-- With a limit of three bytes, of a message with an umlaut behind its second byte the host is
    told what stands before the umlaut: the limit is inside it. -/
theorem exceptionText_longestFit_umlaut :
    let s : Script Playground := (Script.new { exceptionMessageLimit := 3 }
      (Bridge.new {} Playground.quietHost)).value
    let v : ScriptValue := .error .error (CodePoints.ofString "Größe") none
    answer s (fullText v) = "Größe" ∧ Text.LongestFit 3 "Größe" "Gr" ∧
      answer s (guarded (throw (.exception v) : ScriptM Playground Unit)) =
        .error (.exception "Gr") := by
  intro s v
  have hwhole : answer s (fullText v) = "Größe" := rfl
  have htold : answer s (exceptionText v) = "Gr" := rfl
  obtain ⟨hlongest, -, -, hguarded, -⟩ := exceptionText_longestFit s v
  rw [hwhole, htold] at hlongest
  rw [htold] at hguarded
  exact ⟨hwhole, hlongest, (hguarded rfl rfl).1⟩

end HostBridge.Session
