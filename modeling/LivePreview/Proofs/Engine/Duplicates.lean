import LivePreview.Proofs.Engine.Debounce
import LivePreview.Proofs.Request.Encoding

/-!
# Updates that are passed by

An engine passes an update by if it has the fingerprint of the update before it
(`Recorded.take_eq_iff`). Where no text has a null character that means that it is the same update
(`edits_told_apart`): the bytes behind a fingerprint determine the request, so two requests with one
fingerprint would be a collision of the digest. A null character can move text from one part of a
request to the next, and then an edit is passed by (`edit_passed_by`).
-/

namespace LivePreview

/-- The update handled last. -/
def lastUpdate? (log : List Event) : Option Request := (log.filterMap Event.update?).getLast?

theorem lastFingerprint?_eq (log : List Event) :
    lastFingerprint? log = (lastUpdate? log).map (·.fingerprint) := rfl

/-- A request that is not passed by is told in the status. -/
theorem Engine.schedule_eq_iff (w : Workshop) (now : Nat) (r : Request) (e : Engine) :
    e.schedule w now r = e ↔ e.lastFingerprint = some r.fingerprint := by
  constructor
  · intro h
    refine Decidable.byContradiction fun changed => ?_
    have written : (e.schedule w now r).writes = e.writes + 1 := by
      unfold schedule
      rw [if_neg changed]
      split <;> rfl
    rw [h] at written
    exact Nat.succ_ne_self _ written.symm
  · intro same
    rw [schedule, if_pos same]

/-- An update is passed by exactly if it has the fingerprint of the one before it. -/
theorem Recorded.take_eq_iff {w : Workshop} {s : Session} {log : List Event}
    (h : Recorded w s log) (going : s.poll.hasEnded = false) (r : Request) :
    (s.after (.take (.update r))).engine = s.poll.engine ↔
      ∃ last, lastUpdate? log = some last ∧ last.fingerprint = r.fingerprint := by
  rw [Session.engine_take going, Engine.schedule_eq_iff, h.lastFingerprint_poll,
    lastFingerprint?_eq, Option.map_eq_some_iff]

/-! ## Main statement -/

/-- No edit is mistaken for a repetition, as long as no text has a null character. The bytes of two
requests and of their projects are the same only for one request; requests with one fingerprint are
the same, or are a collision of the digest; so an update is passed by only if it is the same as the
one handled before it, and then it is. -/
theorem edits_told_apart (w : Workshop) (surface : Surface) (moves : List Move) :
    let s := (Session.fresh w surface).afterAll moves
    let log := (Session.fresh w surface).log moves
    (∀ a b : Request, NullFree a.texts → NullFree b.texts →
      (a.bytes = b.bytes ∧ a.files.bytes = b.files.bytes ↔ a = b) ∧
      (a.fingerprint = b.fingerprint → a = b ∨ Request.Collide a b)) ∧
    (s.poll.hasEnded = false → ∀ r,
      ((s.after (.take (.update r))).engine = s.poll.engine →
        ∃ last, lastUpdate? log = some last ∧
          (NullFree r.texts → NullFree last.texts → last = r ∨ Request.Collide last r)) ∧
      (lastUpdate? log = some r → (s.after (.take (.update r))).engine = s.poll.engine)) := by
  intro s log
  have h : Recorded w s log := recorded_moves w surface moves
  refine ⟨fun a b ha hb => ⟨Request.bytes_inj ha hb, Request.eq_or_collide ha hb⟩,
    fun going r => ⟨fun passed => ?_, fun last => ?_⟩⟩
  · obtain ⟨last, hl, same⟩ := (h.take_eq_iff going r).1 passed
    exact ⟨last, hl, fun hr hlast => Request.eq_or_collide hlast hr same⟩
  · exact (h.take_eq_iff going r).2 ⟨r, last, rfl⟩

/-- A package that is asked for is seen in the bytes of the request, and the request that was
handled last is passed by when it comes again. -/
theorem edits_told_apart_package :
    let a : Request := { entrySource := "x" }
    let b : Request := { entrySource := "x", dependencies := ["lodash"] }
    let s := (Session.fresh ⟨2, fun _ => .error default⟩ fun _ => .accepts).afterAll
      [.take (.update a)]
    (NullFree a.texts ∧ NullFree b.texts ∧
      ¬ (a.bytes = b.bytes ∧ a.files.bytes = b.files.bytes)) ∧
    s.poll.hasEnded = false ∧ (s.after (.take (.update a))).engine = s.poll.engine := by
  have going : ((Session.fresh ⟨2, fun _ => .error default⟩ fun _ => .accepts).afterAll
      [.take (.update { entrySource := "x" })]).poll.hasEnded = false := rfl
  intro a b s
  have ha : NullFree a.texts := by decide
  have hb : NullFree b.texts := by decide
  have told := edits_told_apart ⟨2, fun _ => .error default⟩ (fun _ => .accepts)
    [.take (.update a)]
  refine ⟨⟨ha, hb, fun h => ?_⟩, going, (told.2 going a).2 rfl⟩
  simpa [a, b] using (told.1 a b ha hb).1.1 h

/-- An edit that turns the end of the stylesheet into the name of a package is passed by. -/
theorem edit_passed_by :
    let a : Request := { entrySource := "x", stylesheet := some "y\x00lodash" }
    let b : Request := { entrySource := "x", stylesheet := some "y", dependencies := ["lodash"] }
    let s := (Session.fresh ⟨2, fun _ => .error default⟩ fun _ => .accepts).afterAll
      [.take (.update a)]
    a ≠ b ∧ a.bytes = b.bytes ∧ a.files.bytes = b.files.bytes ∧ a.fingerprint = b.fingerprint ∧
      (s.after (.take (.update b))).engine = s.poll.engine := by
  have going : ((Session.fresh ⟨2, fun _ => .error default⟩ fun _ => .accepts).afterAll
      [.take (.update { entrySource := "x", stylesheet := some "y\x00lodash" })]).poll.hasEnded =
        false := rfl
  intro a b s
  have bytes : a.bytes = b.bytes := rfl
  have same : a.fingerprint = b.fingerprint := congrArg Hash.sha256 bytes
  have h := recorded_moves ⟨2, fun _ => .error default⟩ (fun _ => .accepts) [.take (.update a)]
  exact ⟨by decide, bytes, rfl, same, (h.take_eq_iff going b).2 ⟨a, rfl, same⟩⟩

end LivePreview
