import LivePreview.Proofs.Engine.Debounce
import LivePreview.Proofs.Engine.Status

/-!
# Reports of superseded previews

A preview goes on running while newer ones are built, so what it reports may come late. Whether a
report counts is told by the history alone. `Settles w earlier event`: the event ends a build, or
is an update without code that stops the preview. `Stands w log p`: the last event that settled
anything was that the surface accepted `p`.

`Recorded.tracks`: the fingerprint that an engine holds as shown is that of the payload that
stands. `report_applies_iff`: a report that names a build counts exactly if it names that one.
-/

namespace LivePreview

/-- After `earlier`, the event settles what is shown. A build without a payload ends where it
starts, and one in which the surface breaks down never ends. -/
def Settles (w : Workshop) (earlier : List Event) : Event → Prop
  | .started _ r => ∃ error, w.build r = .error error
  | .offered _ _ verdict => verdict ≠ .panics
  | .handled _ (.update r) =>
    lastFingerprint? earlier ≠ some r.fingerprint ∧ Text.isBlank r.entrySource = true
  | .handled _ (.runtimeError _ _ _) => False
  | .closed => False

/-- The surface accepted the payload, and nothing has settled since. -/
def Stands (w : Workshop) (log : List Event) (p : Payload) : Prop :=
  ∃ earlier d between, log = earlier ++ .offered p d .accepts :: between ∧
    ∀ mid event rest, between = mid ++ event :: rest →
      ¬ Settles w (earlier ++ .offered p d .accepts :: mid) event

/-- A report that names `build` counts: it names none, or the one whose payload stands. -/
def Counts (w : Workshop) (log : List Event) (build : Option String) : Prop :=
  build = none ∨ ∃ p, Stands w log p ∧ build = some p.fingerprint

/-! ## Adding an event -/

theorem not_stands_nil (w : Workshop) (p : Payload) : ¬ Stands w [] p := by
  rintro ⟨earlier, d, between, he, -⟩
  simp at he

/-- What settles nothing leaves the payload that stands. -/
theorem stands_snoc_of_quiet {w : Workshop} {log : List Event} {event : Event}
    (quiet : ¬ Settles w log event) (p : Payload) :
    Stands w (log ++ [event]) p ↔ Stands w log p := by
  constructor
  · rintro ⟨earlier, d, between, he, unsettled⟩
    rcases snoc_eq_append_cons.1 he with ⟨-, -, rfl⟩ | ⟨between', rfl, hlog⟩
    · exact absurd (by simp [Settles]) quiet
    · refine ⟨earlier, d, between', hlog, fun mid event' rest hb => ?_⟩
      exact unsettled mid event' (rest ++ [event]) (by simp [hb])
  · rintro ⟨earlier, d, between, rfl, unsettled⟩
    refine ⟨earlier, d, between ++ [event], by simp, fun mid event' rest hb => ?_⟩
    rcases snoc_eq_append_cons.1 hb with ⟨-, rfl, rfl⟩ | ⟨rest', -, hbetween⟩
    · exact quiet
    · exact unsettled mid event' rest' hbetween

/-- After what settles, the payload that it made the surface accept stands. -/
theorem stands_snoc_of_settles {w : Workshop} {log : List Event} {event : Event}
    (settles : Settles w log event) (p : Payload) :
    Stands w (log ++ [event]) p ↔ ∃ d, event = .offered p d .accepts := by
  constructor
  · rintro ⟨earlier, d, between, he, unsettled⟩
    rcases snoc_eq_append_cons.1 he with ⟨-, -, rfl⟩ | ⟨between', rfl, hlog⟩
    · exact ⟨d, rfl⟩
    · exact absurd (hlog ▸ settles) (unsettled between' event [] rfl)
  · rintro ⟨d, rfl⟩
    exact ⟨log, d, [], rfl, by simp⟩

theorem exists_stands_snoc {w : Workshop} {log : List Event} {event : Event}
    (settles : Settles w log event) (f : String) :
    (∃ p, Stands w (log ++ [event]) p ∧ p.fingerprint = f) ↔
      ∃ p d, event = .offered p d .accepts ∧ p.fingerprint = f := by
  simp only [stands_snoc_of_settles settles]
  constructor
  · rintro ⟨p, ⟨d, he⟩, hf⟩
    exact ⟨p, d, he, hf⟩
  · rintro ⟨p, d, he, hf⟩
    exact ⟨p, ⟨d, he⟩, hf⟩

/-! ## What is shown -/

/-- An engine that holds `shown` holds the fingerprint of the payload that stands. -/
def Tracks (w : Workshop) (log : List Event) (shown : Option String) : Prop :=
  ∀ f, shown = some f ↔ ∃ p, Stands w log p ∧ p.fingerprint = f

namespace Tracks

variable {w : Workshop} {log : List Event} {shown : Option String}

theorem start (w : Workshop) : Tracks w [] none := by
  intro f
  constructor
  · rintro ⟨⟩
  · rintro ⟨p, hp, -⟩
    exact absurd hp (not_stands_nil w p)

theorem quiet (h : Tracks w log shown) {event : Event} (quiet : ¬ Settles w log event) :
    Tracks w (log ++ [event]) shown := by
  intro f
  simp only [stands_snoc_of_quiet quiet]
  exact h f

theorem clear {event : Event} (settles : Settles w log event)
    (other : ∀ p d, event ≠ .offered p d .accepts) : Tracks w (log ++ [event]) none := by
  intro f
  rw [exists_stands_snoc settles]
  constructor
  · rintro ⟨⟩
  · rintro ⟨p, d, he, -⟩
    exact absurd he (other p d)

theorem accept (w : Workshop) (log : List Event) (p : Payload) (d : Status) :
    Tracks w (log ++ [.offered p d .accepts]) (some p.fingerprint) := by
  intro f
  rw [exists_stands_snoc (by simp [Settles])]
  constructor
  · intro hf
    exact ⟨p, d, rfl, Option.some.inj hf⟩
  · rintro ⟨p', d', he, rfl⟩
    cases he
    rfl

/-- Whatever an engine does, it holds the payload that stands. -/
theorem does {now : Nat} {e e' : Engine} {events : List Event} (h : Tracks w log e.shown)
    (last : e.lastFingerprint = lastFingerprint? log) (step : Engine.Does w now e events e') :
    Tracks w (log ++ events) e'.shown := by
  cases step with
  | miscompile _ build => exact clear (by simp [Settles, build]) (by simp)
  | accept _ _ =>
    rw [List.append_cons]
    exact accept w _ _ _
  | reject _ _ _ =>
    rw [List.append_cons]
    exact clear (by simp [Settles]) (by simp)
  | panic _ build =>
    -- the build has started and will never end, so what stood before it still stands
    rw [List.append_cons]
    exact (h.quiet (by simp [Settles, build])).quiet (by simp [Settles])
  | repeated same => exact h.quiet (by simp [Settles, ← last, same])
  | clear changed blank => exact clear ⟨last ▸ changed, blank⟩ (by simp)
  | arm _ code => exact h.quiet (by simp [Settles, code])
  | ignore _ _ => exact h.quiet id
  | apply _ => exact h.quiet id

end Tracks

namespace Recorded

variable {w : Workshop} {s : Session} {log : List Event}

theorem tracks (h : Recorded w s log) : Tracks w log s.engine.shown := by
  induction h with
  | start => exact .start w
  | does h _ step ih => exact ih.does h.debounced.last step
  | pass _ _ ih => exact ih
  | swap _ _ ih => exact ih
  | close _ _ ih => exact ih.quiet id
  | reclose _ _ ih => exact ih

theorem counts_iff (h : Recorded w s log) (build : Option String) :
    Counts w log build ↔ ¬ (build.isSome ∧ s.engine.shown ≠ build) := by
  cases build with
  | none => simp [Counts]
  | some f =>
    have named : Counts w log (some f) ↔ ∃ p, Stands w log p ∧ p.fingerprint = f := by
      simp [Counts, eq_comm]
    simp [named, ← h.tracks f]

/-- A report that does not count leaves the engine as it is. -/
theorem report_of_stale (h : Recorded w s log) (message : String) {build : Option String}
    (stale : ¬ Counts w log build) : s.engine.report message build = s.engine := by
  rw [h.counts_iff, Decidable.not_not] at stale
  exact if_pos stale

/-- A report that counts is told in the status, and changes nothing else. -/
theorem report_of_counts (h : Recorded w s log) (message : String) {build : Option String}
    (counts : Counts w log build) :
    s.engine.report message build =
      { s.engine with
        status := ⟨.failed, s.engine.pending.isSome, some ("Runtime Error: " ++ message),
          s.engine.status.buildId⟩
        writes := s.engine.writes + 1 } := by
  rw [h.counts_iff] at counts
  rw [h.truthful.buildId]
  exact if_neg counts

end Recorded

/-! ## Main statement -/

/-- A report is told in the status if it names no build, or that of the payload which the surface
was the last to accept, with no build ended and no preview stopped since. Any other report leaves
the engine as it is; and one that is told leaves alone what is pending, what is shown, the payloads
and the number of builds. -/
theorem report_applies_iff (w : Workshop) (surface : Surface) (moves : List Move)
    (message stack : String) (build : Option String)
    (going : ((Session.fresh w surface).afterAll moves).poll.hasEnded = false) :
    let s := (Session.fresh w surface).afterAll moves
    let log := (Session.fresh w surface).log moves ++ s.pollEvents
    let e := s.poll.engine
    let e' := (s.after (.take (.runtimeError message stack build))).engine
    let told : Status := ⟨.failed, e.pending.isSome, some ("Runtime Error: " ++ message),
      e.status.buildId⟩
    (e'.writes ≠ e.writes ↔ Counts w log build) ∧
    (e'.status ≠ e.status ↔ Counts w log build ∧ e.status ≠ told) ∧
    (¬ Counts w log build → e' = e) ∧
    (Counts w log build → e' = { e with status := told, writes := e.writes + 1 }) := by
  intro s log e e' told
  have h : Recorded w s.poll log := (recorded_moves w surface moves).poll
  have taken : e' = e.report message build :=
    Session.engine_take going (.runtimeError message stack build)
  have stale : ¬ Counts w log build → e' = e := fun no => taken.trans (h.report_of_stale message no)
  have counts : Counts w log build → e' = { e with status := told, writes := e.writes + 1 } :=
    fun yes => taken.trans (h.report_of_counts message yes)
  have counted : e' ≠ e → Counts w log build := fun changed =>
    Classical.byContradiction fun no => changed (stale no)
  refine ⟨⟨fun written => counted fun same => written (by rw [same]), fun yes => ?_⟩,
    ⟨fun changed => ?_, fun ⟨yes, new⟩ => ?_⟩, stale, counts⟩
  · simp [counts yes]
  · have yes : Counts w log build := counted fun same => changed (by rw [same])
    refine ⟨yes, fun same => changed ?_⟩
    rw [counts yes, same]
  · rw [counts yes]
    exact new.symm

/-- The preview that is shown reports that it failed. -/
theorem report_applies_shown :
    let w : Workshop := ⟨2, fun _ => .ok default⟩
    let moves : List Move := [.take (.update { entrySource := "a" }), .pass, .pass, .poll]
    let s := (Session.fresh w fun _ => .accepts).afterAll moves
    s.poll.hasEnded = false ∧
      (s.after (.take (.runtimeError "lost" "" (some "")))).engine.status =
        ⟨.failed, false, some "Runtime Error: lost", 1⟩ := by
  intro w moves s
  have stands : Stands w ((Session.fresh w fun _ => .accepts).log moves ++ s.pollEvents) default :=
    ⟨[.handled 0 (.update { entrySource := "a" }), .started 2 { entrySource := "a" }],
      ⟨.building, true, none, 1⟩, [], rfl, by simp⟩
  have told := (report_applies_iff w (fun _ => .accepts) moves "lost" "" (some "") rfl).2.2.2
    (.inr ⟨default, stands, rfl⟩)
  exact ⟨rfl, congrArg Engine.status told⟩

end LivePreview
