import LivePreview.Proofs.Engine.History

/-!
# What an engine tells

An engine's status, the payload it gives out and the fingerprint it holds for the one shown are
written on many paths. `Truthful log e`: they agree with each other, with what is pending and with
the history. It holds at the start and is kept by all that an engine can do (`Truthful.does`).

`status_truthful` says this of every session; a surface that is asked to show a payload reads that
this very build is under way.
-/

namespace LivePreview

/-- A payload that the surface accepts. -/
def Event.shows? : Event → Option Load
  | .offered p d .accepts => some ⟨p, d⟩
  | _ => none

/-- The payloads of a history that the surface accepted, in their order. -/
def shows (log : List Event) : List Load := log.filterMap Event.shows?

theorem shows_append (log events : List Event) :
    shows (log ++ events) = shows log ++ shows events := List.filterMap_append

theorem shows_eq_nil {log : List Event} :
    shows log = [] ↔ ∀ p d, .offered p d .accepts ∉ log := by
  rw [shows, List.filterMap_eq_nil_iff]
  constructor
  · intro h p d hm
    exact absurd (h _ hm) (by simp [Event.shows?])
  · intro h event hm
    unfold Event.shows?
    split
    · exact absurd hm (h _ _)
    · rfl

/-- Between two steps, an engine's status agrees with what it has. -/
structure Calm (e : Engine) : Prop where
  loading : e.status.isLoading = e.pending.isSome
  phase : e.status.phase ≠ .building
  error : e.status.error.isSome = true ↔ e.status.phase = .failed
  ready : e.status.phase = .ready → e.shown.isSome = true
  idle : e.status.phase = .idle → e.shown = none

/-- What an engine tells agrees with what it has and with its history. -/
structure Truthful (log : List Event) (e : Engine) : Prop where
  calm : e.crashed = false → Calm e
  shown : ∀ f, e.shown = some f → ∃ p, e.latest = some p ∧ p.fingerprint = f
  loads : e.loads = shows log
  buildId : e.status.buildId = e.builds

namespace Truthful

variable {w : Workshop} {now : Nat} {e e' : Engine} {log events : List Event}

theorem start : Truthful [] {} where
  calm _ := ⟨rfl, by simp, by simp, by simp, by simp⟩
  shown := by simp
  loads := rfl
  buildId := rfl

/-- A build that ends without a payload. -/
theorem fail (h : Truthful log e) (error : String) (quiet : shows events = []) :
    Truthful (log ++ events) (e.begun.fail error) where
  calm _ := ⟨rfl, by simp [Engine.fail], by simp [Engine.fail], by simp [Engine.fail],
    by simp [Engine.fail]⟩
  shown := by simp [Engine.fail]
  loads := by
    rw [shows_append, quiet, List.append_nil]
    exact h.loads
  buildId := rfl

theorem accept (h : Truthful log e) (p : Payload) (now : Nat) (r : Request) :
    Truthful (log ++ [.started now r, .offered p e.begun.status .accepts]) (e.begun.accept p) where
  calm _ := ⟨rfl, by simp [Engine.accept], by simp [Engine.accept], by simp [Engine.accept],
    by simp [Engine.accept]⟩
  shown f hf := by
    refine ⟨p, ?_, Option.some.inj hf⟩
    simp [Engine.latest, Engine.accept]
  loads := by
    rw [shows_append, ← h.loads]
    rfl
  buildId := rfl

/-- Whatever an engine does, it tells the truth about it. -/
theorem does (h : Truthful log e) (alive : e.crashed = false)
    (step : Engine.Does w now e events e') : Truthful (log ++ events) e' := by
  have calm := h.calm alive
  have kept : ∀ c, shows (log ++ [.handled now c]) = shows log := fun c => by
    rw [shows_append]
    exact List.append_nil _
  cases step with
  | miscompile _ _ => exact h.fail _ rfl
  | accept _ _ => exact h.accept _ _ _
  | reject _ _ _ => exact h.fail _ rfl
  | panic _ _ =>
    refine ⟨by simp, h.shown, ?_, rfl⟩
    rw [shows_append]
    exact h.loads.trans (List.append_nil _).symm
  | repeated _ => exact ⟨h.calm, h.shown, (kept _).symm ▸ h.loads, h.buildId⟩
  | clear _ _ => exact ⟨fun _ => ⟨rfl, by simp, by simp, by simp, by simp⟩, by simp,
      (kept _).symm ▸ h.loads, rfl⟩
  | arm _ _ => exact ⟨fun _ => ⟨rfl, calm.phase, calm.error, calm.ready, calm.idle⟩, h.shown,
      (kept _).symm ▸ h.loads, rfl⟩
  | ignore _ _ => exact ⟨h.calm, h.shown, (kept _).symm ▸ h.loads, h.buildId⟩
  | apply _ => exact ⟨fun _ => ⟨rfl, by simp, by simp, by simp, by simp⟩, h.shown,
      (kept _).symm ▸ h.loads, rfl⟩

end Truthful

/-- A payload is offered right after the start of its build, while the engine tells of that
build. -/
theorem Engine.Does.offered {w : Workshop} {now : Nat} {e e' : Engine}
    {events before after : List Event} {p : Payload} {d : Status} {v : Verdict}
    (step : Engine.Does w now e events e')
    (he : events = before ++ .offered p d v :: after) :
    ∃ r output, before = [.started now r] ∧ w.build r = .ok output ∧ output.payload = p ∧
      d = ⟨.building, true, none, e.builds + 1⟩ := by
  have pair : ∀ {r : Request} {output : Output} {verdict : Verdict}, w.build r = .ok output →
      [.started now r, .offered output.payload e.begun.status verdict] =
        before ++ .offered p d v :: after →
      ∃ r output, before = [.started now r] ∧ w.build r = .ok output ∧ output.payload = p ∧
        d = ⟨.building, true, none, e.builds + 1⟩ := by
    intro r output verdict build he
    rcases before with _ | ⟨a, _ | ⟨b, before⟩⟩
    · cases he
    · cases he
      exact ⟨r, output, rfl, build, rfl, rfl⟩
    · simp at he
  cases step with
  | accept _ build => exact pair build he
  | reject _ _ build => exact pair build he
  | panic _ build => exact pair build he
  | _ => rcases before with _ | ⟨a, before⟩ <;> simp at he

namespace Recorded

variable {w : Workshop} {s : Session} {log : List Event}

theorem truthful (h : Recorded w s log) : Truthful log s.engine := by
  induction h with
  | start => exact .start
  | does _ going step ih =>
    simp only [Session.hasEnded, Bool.or_eq_false_iff] at going
    exact ih.does going.2 step
  | pass _ _ ih => exact ih
  | swap _ _ ih => exact ih
  | close _ _ ih =>
    refine ⟨ih.calm, ih.shown, ?_, ih.buildId⟩
    rw [shows_append]
    exact ih.loads.trans (List.append_nil _).symm
  | reclose _ _ ih => exact ih

/-- What a surface reads in the status when it is asked to show a payload. -/
theorem offered (h : Recorded w s log) {before after : List Event} {p : Payload} {d : Status}
    {v : Verdict} (he : log = before ++ .offered p d v :: after) :
    ∃ earlier t r output, before = earlier ++ [.started t r] ∧ w.build r = .ok output ∧
      output.payload = p ∧ d = ⟨.building, true, none, (builds before).length⟩ := by
  induction h generalizing before after with
  | start => simp at he
  | @does s log events e h _ step ih =>
    rcases List.append_eq_append_iff.1 he with ⟨b, rfl, hb⟩ | ⟨c, hc, hx⟩
    · obtain ⟨r, output, rfl, build, hp, rfl⟩ := step.offered hb
      refine ⟨log, s.now, r, output, rfl, build, hp, ?_⟩
      rw [builds_snoc, List.length_append, h.length_builds]
      rfl
    · rcases c with _ | ⟨x, c⟩
      · have first : events = [] ++ .offered p d v :: after := hx.symm
        obtain ⟨_, _, hb, -⟩ := step.offered first
        cases hb
      · cases hx
        exact ih hc
  | pass _ _ ih => exact ih he
  | swap _ _ ih => exact ih he
  | close _ _ ih =>
    rcases snoc_eq_append_cons.1 he with ⟨-, -, hx⟩ | ⟨after', -, hlog⟩
    · cases hx
    · exact ih hlog
  | reclose _ _ ih => exact ih he

end Recorded

/-! ## Main statement -/

/-- In every session the engine tells the truth: about itself between two steps, about the payload
last accepted and the number of its builds at all times, and about the build under way whenever a
surface is asked to show a payload. -/
theorem status_truthful (w : Workshop) (surface : Surface) (moves : List Move) :
    let s := (Session.fresh w surface).afterAll moves
    let log := (Session.fresh w surface).log moves
    (s.engine.crashed = false → Calm s.engine) ∧
    (∀ f, s.engine.shown = some f → ∃ p, s.engine.latest = some p ∧ p.fingerprint = f) ∧
    s.engine.latest = (shows log).getLast?.map (·.payload) ∧
    (s.engine.latest = none ↔ ∀ p d, .offered p d .accepts ∉ log) ∧
    s.engine.status.buildId = (builds log).length ∧
    (∀ before p d v after, log = before ++ .offered p d v :: after →
      ∃ earlier t r output, before = earlier ++ [.started t r] ∧ w.build r = .ok output ∧
        output.payload = p ∧ d = ⟨.building, true, none, (builds before).length⟩) := by
  intro s log
  have h : Recorded w s log := recorded_moves w surface moves
  refine ⟨h.truthful.calm, h.truthful.shown, ?_, ?_, h.truthful.buildId.trans h.length_builds.symm,
    fun before p d v after he => h.offered he⟩
  · rw [Engine.latest, h.truthful.loads]
  · rw [Engine.latest, h.truthful.loads, Option.map_eq_none_iff, List.getLast?_eq_none_iff,
      shows_eq_nil]

/-- A payload that is shown, then a report that names no build. -/
theorem status_truthful_report :
    let w : Workshop := ⟨2, fun _ => .ok default⟩
    let moves : List Move := [.take (.update { entrySource := "a" }), .pass, .pass,
      .take (.runtimeError "lost" "" none)]
    let s := (Session.fresh w fun _ => .accepts).afterAll moves
    s.engine.status = ⟨.failed, false, some "Runtime Error: lost", 1⟩ ∧
      s.engine.latest = some default ∧ Calm s.engine :=
  ⟨rfl, rfl, (status_truthful ⟨2, fun _ => .ok default⟩ (fun _ => .accepts)
    [.take (.update { entrySource := "a" }), .pass, .pass,
      .take (.runtimeError "lost" "" none)]).1 rfl⟩

end LivePreview
