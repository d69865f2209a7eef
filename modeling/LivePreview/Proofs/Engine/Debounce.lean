import LivePreview.Proofs.Engine.History

/-!
# The latest input wins

Which builds a history holds, told by its updates alone. An update is accepted (`Accepts`) if it
differs from the one handled before it and has code. `Awaited debounce log p`: after `log`, the last
update that was accepted is still to be built, as `p` says, and nothing has changed since.

`Debounced` ties what an engine has pending to the history: it holds at the start and is kept by
all that an engine can do (`Debounced.does`). `latest_input_wins`: every build is that of an update
awaited at that very time, no update is built twice, and none that is still awaited when its time
is over is left out.
-/

namespace LivePreview

/-! ## Updates and builds of a history -/

namespace Event

def update? : Event → Option Request
  | .handled _ (.update r) => some r
  | _ => none

end Event

/-- The fingerprint of the update handled last. -/
def lastFingerprint? (log : List Event) : Option String :=
  (log.filterMap Event.update?).getLast?.map (·.fingerprint)

/-- After `log` an update to `r` is accepted. -/
def Accepts (log : List Event) (r : Request) : Prop :=
  lastFingerprint? log ≠ some r.fingerprint ∧ Text.isBlank r.entrySource = false

instance (log : List Event) (r : Request) : Decidable (Accepts log r) :=
  inferInstanceAs (Decidable (_ ∧ _))

/-- An accepted update, with the time at which it is handled. -/
def Event.accepted? (earlier : List Event) : Event → Option (Nat × Request)
  | .handled t (.update r) => if Accepts earlier r then some (t, r) else none
  | _ => none

/-- The accepted updates of `log`, which follows `earlier`. -/
def acceptedAfter (earlier : List Event) : List Event → List (Nat × Request)
  | [] => []
  | event :: log => (event.accepted? earlier).toList ++ acceptedAfter (earlier ++ [event]) log

/-- The updates of a history that are accepted, in their order. -/
def accepted (log : List Event) : List (Nat × Request) := acceptedAfter [] log

/-- No update among the events differs from `r`, and no build starts. -/
structure Unchanged (r : Request) (events : List Event) : Prop where
  updates : ∀ t r', .handled t (.update r') ∈ events → r'.fingerprint = r.fingerprint
  builds : ∀ t r', .started t r' ∉ events

/-- After `log` the request `p` is to be built at its deadline: it came by the last update that was
accepted, `debounce` before, and nothing has changed since. -/
def Awaited (debounce : Nat) (log : List Event) (p : Pending) : Prop :=
  ∃ earlier t between, log = earlier ++ .handled t (.update p.request) :: between ∧
    Accepts earlier p.request ∧ p.deadline = t + debounce ∧ Unchanged p.request between

/-! ## Adding an event -/

theorem lastFingerprint?_snoc (log : List Event) (event : Event) :
    lastFingerprint? (log ++ [event]) =
      (event.update?.map (·.fingerprint)).or (lastFingerprint? log) := by
  unfold lastFingerprint?
  cases h : event.update? <;> simp [h]

/-- Repeating the last update does not change which was the last. -/
theorem lastFingerprint?_append {log events : List Event} {r : Request}
    (h : lastFingerprint? log = some r.fingerprint)
    (same : ∀ t r', .handled t (.update r') ∈ events → r'.fingerprint = r.fingerprint) :
    lastFingerprint? (log ++ events) = some r.fingerprint := by
  induction events generalizing log with
  | nil => simpa using h
  | cons event events ih =>
    rw [List.append_cons]
    refine ih ?_ fun t r' hm => same t r' (List.mem_cons_of_mem _ hm)
    rw [lastFingerprint?_snoc, h]
    cases hu : event.update? with
    | none => rfl
    | some r' =>
      obtain ⟨t, rfl⟩ : ∃ t, event = .handled t (.update r') := by
        unfold Event.update? at hu
        split at hu
        · cases hu; exact ⟨_, rfl⟩
        · cases hu
      simpa using same t r' List.mem_cons_self

theorem acceptedAfter_append (earlier log events : List Event) :
    acceptedAfter earlier (log ++ events) =
      acceptedAfter earlier log ++ acceptedAfter (earlier ++ log) events := by
  induction log generalizing earlier with
  | nil => simp [acceptedAfter]
  | cons event log ih => simp [acceptedAfter, ih]

theorem accepted_snoc (log : List Event) (event : Event) :
    accepted (log ++ [event]) = accepted log ++ (event.accepted? log).toList := by
  simp [accepted, acceptedAfter_append, acceptedAfter]

theorem Unchanged.nil (r : Request) : Unchanged r [] := ⟨by simp, by simp⟩

theorem Unchanged.snoc {r : Request} {events : List Event} {event : Event}
    (h : Unchanged r events)
    (update : ∀ r', event.update? = some r' → r'.fingerprint = r.fingerprint)
    (start : event.start? = none) : Unchanged r (events ++ [event]) := by
  constructor
  · intro t r' hm
    rcases List.mem_append.1 hm with hm | hm
    · exact h.updates t r' hm
    · obtain rfl := List.mem_singleton.1 hm
      exact update r' rfl
  · intro t r' hm
    rcases List.mem_append.1 hm with hm | hm
    · exact h.builds t r' hm
    · obtain rfl := List.mem_singleton.1 hm
      simp [Event.start?] at start

theorem Awaited.snoc {debounce : Nat} {log : List Event} {p : Pending} {event : Event}
    (h : Awaited debounce log p)
    (update : ∀ r, event.update? = some r → r.fingerprint = p.request.fingerprint)
    (start : event.start? = none) : Awaited debounce (log ++ [event]) p := by
  obtain ⟨earlier, t, between, rfl, accepts, deadline, unchanged⟩ := h
  exact ⟨earlier, t, between ++ [event], by simp, accepts, deadline, unchanged.snoc update start⟩

/-- What is awaited came by the update handled last. -/
theorem Awaited.last {debounce : Nat} {log : List Event} {p : Pending}
    (h : Awaited debounce log p) : lastFingerprint? log = some p.request.fingerprint := by
  obtain ⟨earlier, t, between, rfl, -, -, unchanged⟩ := h
  rw [List.append_cons]
  exact lastFingerprint?_append (by simp [lastFingerprint?_snoc, Event.update?]) unchanged.updates

/-! ## The invariant -/

/-- A build in its time: what the list of builds and that of accepted updates share. -/
def Pending.build (p : Pending) : Nat × Request := (p.deadline, p.request)

/-- What an engine has pending, and which update it saw last, agree with the history. -/
structure Debounced (debounce : Nat) (log : List Event) (last : Option String)
    (pending : Option Pending) : Prop where
  last : last = lastFingerprint? log
  waits : ∀ p, pending = some p → Awaited debounce log p
  timely : ∀ before t r after, log = before ++ .started t r :: after →
    Awaited debounce before ⟨r, t⟩
  ordered : ∃ done, (accepted log).map (fun a => (a.1 + debounce, a.2)) =
    done ++ (pending.map Pending.build).toList ∧ (builds log).Sublist done
  complete : ∀ earlier t r between, log = earlier ++ .handled t (.update r) :: between →
    Accepts earlier r →
    (∀ t' r', .handled t' (.update r') ∈ between → r'.fingerprint = r.fingerprint) →
    .started (t + debounce) r ∈ between ∨ pending = some ⟨r, t + debounce⟩

namespace Debounced

variable {debounce : Nat} {log : List Event} {last : Option String} {pending : Option Pending}

theorem start (debounce : Nat) : Debounced debounce [] none none where
  last := rfl
  waits := by simp
  timely := by simp
  ordered := ⟨[], rfl, List.Sublist.refl _⟩
  complete := by simp

/-- The part of `timely` that is about earlier events. -/
theorem timely_snoc (h : Debounced debounce log last pending) {event : Event}
    (start : event.start? = none) {before : List Event} {t : Nat} {r : Request}
    {after : List Event} (he : log ++ [event] = before ++ .started t r :: after) :
    Awaited debounce before ⟨r, t⟩ := by
  rcases snoc_eq_append_cons.1 he with ⟨-, -, rfl⟩ | ⟨after', -, he⟩
  · simp [Event.start?] at start
  · exact h.timely before t r after' he

/-- An event that is no update and no start of a build. -/
theorem quiet (h : Debounced debounce log last pending) (event : Event)
    (update : event.update? = none) (start : event.start? = none) :
    Debounced debounce (log ++ [event]) last pending := by
  have accepted : event.accepted? log = none := by
    unfold Event.accepted?
    split
    · simp [Event.update?] at update
    · rfl
  refine ⟨?_, ?_, fun before t r after he => h.timely_snoc start he, ?_, ?_⟩
  · rw [lastFingerprint?_snoc, update]
    simpa using h.last
  · exact fun p hp => (h.waits p hp).snoc (by simp [update]) start
  · simpa [accepted_snoc, builds_snoc, accepted, start] using h.ordered
  · intro earlier t r between he accepts same
    rcases snoc_eq_append_cons.1 he with ⟨-, -, rfl⟩ | ⟨between', rfl, rfl⟩
    · simp [Event.update?] at update
    · refine (h.complete earlier t r between' rfl accepts fun t' r' hm =>
        same t' r' (List.mem_append_left _ hm)).imp_left (List.mem_append_left _)

/-- What is pending is built when its time has come. -/
theorem build {p : Pending} (h : Debounced debounce log last (some p)) :
    Debounced debounce (log ++ [.started p.deadline p.request]) last none := by
  refine ⟨?_, by simp, ?_, ?_, ?_⟩
  · rw [lastFingerprint?_snoc]
    exact h.last
  · intro before t r after he
    rcases snoc_eq_append_cons.1 he with ⟨-, rfl, hx⟩ | ⟨after', -, hlog⟩
    · cases hx
      exact h.waits p rfl
    · exact h.timely before t r after' hlog
  · obtain ⟨done, hd, hs⟩ := h.ordered
    refine ⟨done ++ [p.build], ?_, ?_⟩
    · simpa [accepted_snoc, Event.accepted?] using hd
    · rw [builds_snoc]
      exact hs.append (List.Sublist.refl _)
  · intro earlier t r between he accepts same
    left
    rcases snoc_eq_append_cons.1 he with ⟨-, -, hx⟩ | ⟨between', rfl, rfl⟩
    · cases hx
    · rcases h.complete earlier t r between' rfl accepts fun t' r' hm =>
        same t' r' (List.mem_append_left _ hm) with hm | hp
      · exact List.mem_append_left _ hm
      · obtain rfl := Option.some.inj hp
        simp

/-- An update that repeats the last one. -/
theorem repeated {r : Request} (h : Debounced debounce log last pending) (t : Nat)
    (same : last = some r.fingerprint) :
    Debounced debounce (log ++ [.handled t (.update r)]) last pending := by
  have hl := h.last
  rw [same] at hl
  have accepts : ¬ Accepts log r := fun ha => ha.1 hl.symm
  refine ⟨?_, ?_, fun before t r after he => h.timely_snoc rfl he, ?_, ?_⟩
  · rw [lastFingerprint?_snoc]
    exact same
  · intro p hp
    have ha := h.waits p hp
    refine ha.snoc (fun r' hr => ?_) rfl
    cases hr
    exact Option.some.inj (hl.trans ha.last)
  · simpa [accepted_snoc, builds_snoc, Event.accepted?, Event.start?, accepts] using h.ordered
  · intro earlier t' r' between he ha same'
    rcases snoc_eq_append_cons.1 he with ⟨-, rfl, hx⟩ | ⟨between', rfl, rfl⟩
    · cases hx
      exact absurd ha accepts
    · refine (h.complete earlier t' r' between' rfl ha fun t' r' hm =>
        same' t' r' (List.mem_append_left _ hm)).imp_left (List.mem_append_left _)

/-- An update that differs from the last one leaves no older one awaited: any run of repetitions
ends with it. -/
theorem not_repeats {r r' : Request} (hl : lastFingerprint? log ≠ some r.fingerprint)
    {earlier between : List Event} {t : Nat}
    (he : log = earlier ++ .handled t (.update r') :: between)
    (same : ∀ t₁ r₁, .handled t₁ (.update r₁) ∈ between → r₁.fingerprint = r'.fingerprint) :
    r.fingerprint ≠ r'.fingerprint := by
  intro hr
  refine hl ?_
  rw [he, List.append_cons, hr]
  exact lastFingerprint?_append (by simp [lastFingerprint?_snoc, Event.update?]) same

/-- An update without code. -/
theorem clear {r : Request} (h : Debounced debounce log last pending) (t : Nat)
    (changed : last ≠ some r.fingerprint) (blank : Text.isBlank r.entrySource = true) :
    Debounced debounce (log ++ [.handled t (.update r)]) (some r.fingerprint) none := by
  have accepts : ¬ Accepts log r := fun ha => by simp [ha.2] at blank
  refine ⟨?_, by simp, fun before t r after he => h.timely_snoc rfl he, ?_, ?_⟩
  · rw [lastFingerprint?_snoc]
    rfl
  · obtain ⟨done, hd, hs⟩ := h.ordered
    refine ⟨done ++ (pending.map Pending.build).toList, ?_, ?_⟩
    · simpa [accepted_snoc, Event.accepted?, accepts] using hd
    · simpa [builds_snoc, Event.start?] using hs.trans (List.sublist_append_left ..)
  · intro earlier t' r' between he ha same
    rcases snoc_eq_append_cons.1 he with ⟨-, rfl, hx⟩ | ⟨between', rfl, hlog⟩
    · cases hx
      exact absurd ha accepts
    · exact absurd (same t r (by simp)) (not_repeats (h.last ▸ changed) hlog fun t₁ r₁ hm =>
        same t₁ r₁ (List.mem_append_left _ hm))

/-- An accepted update. -/
theorem arm {r : Request} (h : Debounced debounce log last pending) (t : Nat)
    (changed : last ≠ some r.fingerprint) (code : Text.isBlank r.entrySource = false) :
    Debounced debounce (log ++ [.handled t (.update r)]) (some r.fingerprint)
      (some ⟨r, t + debounce⟩) := by
  have accepts : Accepts log r := ⟨h.last ▸ changed, code⟩
  refine ⟨?_, ?_, fun before t r after he => h.timely_snoc rfl he, ?_, ?_⟩
  · rw [lastFingerprint?_snoc]
    rfl
  · rintro p hp
    obtain rfl := Option.some.inj hp
    exact ⟨log, t, [], rfl, accepts, rfl, Unchanged.nil r⟩
  · obtain ⟨done, hd, hs⟩ := h.ordered
    refine ⟨done ++ (pending.map Pending.build).toList, ?_, ?_⟩
    · simp [accepted_snoc, Event.accepted?, accepts, hd, Pending.build]
    · simpa [builds_snoc, Event.start?] using hs.trans (List.sublist_append_left ..)
  · intro earlier t' r' between he ha same
    rcases snoc_eq_append_cons.1 he with ⟨-, rfl, hx⟩ | ⟨between', rfl, hlog⟩
    · cases hx
      exact .inr rfl
    · exact absurd (same t r (by simp)) (not_repeats (h.last ▸ changed) hlog fun t₁ r₁ hm =>
        same t₁ r₁ (List.mem_append_left _ hm))

/-- Whatever an engine does keeps what it has pending in step with the history, if its turns come
in time. -/
theorem does {w : Workshop} {now : Nat} {e e' : Engine} {log events : List Event}
    (h : Debounced w.debounce log e.lastFingerprint e.pending)
    (punctual : ∀ p, e.pending = some p → now ≤ p.deadline) (step : Engine.Does w now e events e') :
    Debounced w.debounce (log ++ events) e'.lastFingerprint e'.pending := by
  have built : ∀ r, e.due? now = some r →
      Debounced w.debounce (log ++ [.started now r]) e.lastFingerprint none := by
    intro r due
    obtain ⟨p, hp, hd, rfl⟩ := Engine.due?_eq_some.1 due
    obtain rfl : p.deadline = now := Nat.le_antisymm hd (punctual p hp)
    exact (hp ▸ h).build
  have shown : ∀ r payload status verdict, e.due? now = some r →
      Debounced w.debounce (log ++ [.started now r, .offered payload status verdict])
        e.lastFingerprint none := by
    intro r payload status verdict due
    rw [List.append_cons]
    exact (built r due).quiet _ rfl rfl
  cases step with
  | miscompile due _ => exact built _ due
  | accept due _ => exact shown _ _ _ _ due
  | reject _ due _ => exact shown _ _ _ _ due
  | panic due _ => exact shown _ _ _ _ due
  | repeated same => exact h.repeated now same
  | clear changed blank => exact h.clear now changed blank
  | arm changed code => exact h.arm now changed code
  | ignore _ _ => exact h.quiet _ rfl rfl
  | apply _ => exact h.quiet _ rfl rfl

end Debounced

namespace Recorded

variable {w : Workshop} {s : Session} {log : List Event}

/-- No deadline passes without the engine having its turn. -/
theorem punctual (h : Recorded w s log) (going : s.hasEnded = false) {p : Pending}
    (hp : s.engine.pending = some p) : s.now ≤ p.deadline := by
  induction h with
  | start => cases hp
  | does h alive step ih =>
    cases step with
    | repeated _ => exact ih alive hp
    | arm _ _ =>
      obtain rfl := Option.some.inj hp
      exact Nat.le_add_right ..
    | ignore _ _ => exact ih alive hp
    | apply _ => exact ih alive hp
    | _ => cases hp
  | pass h idle _ => exact Engine.due?_eq_none.1 (idle going) p hp
  | swap _ _ ih => exact ih going hp
  | close _ _ _ => cases going
  | reclose _ _ _ => cases going

theorem debounced (h : Recorded w s log) :
    Debounced w.debounce log s.engine.lastFingerprint s.engine.pending := by
  induction h with
  | start => exact .start _
  | does h going step ih => exact ih.does (fun p hp => h.punctual going hp) step
  | pass _ _ ih => exact ih
  | swap _ _ ih => exact ih
  | close _ _ ih => exact ih.quiet _ rfl rfl
  | reclose _ _ ih => exact ih

theorem closed_of_mem (h : Recorded w s log) (hm : .closed ∈ log) : s.closed = true := by
  induction h with
  | start => cases hm
  | does _ _ step ih =>
    rcases List.mem_append.1 hm with hm | hm
    · exact ih hm
    · cases step <;> simp at hm
  | pass _ _ ih => exact ih hm
  | swap _ _ ih => exact ih hm
  | close _ _ _ => rfl
  | reclose _ _ _ => rfl

/-- After an engine has seen that no more commands will come it does nothing. -/
theorem closed_last (h : Recorded w s log) {before after : List Event}
    (he : log = before ++ .closed :: after) : after = [] := by
  induction h generalizing before after with
  | start => simp at he
  | @does s log events e h going step ih =>
    have unseen : .closed ∉ log := fun hm => by
      have := h.closed_of_mem hm
      simp [Session.hasEnded, this] at going
    have : .closed ∉ log ++ events := by
      rw [List.mem_append, not_or]
      exact ⟨unseen, by cases step <;> simp⟩
    rw [he] at this
    simp at this
  | pass _ _ ih => exact ih he
  | swap _ _ ih => exact ih he
  | close h going _ =>
    rcases snoc_eq_append_cons.1 he with ⟨rfl, -, -⟩ | ⟨after', -, hlog⟩
    · rfl
    · have := h.closed_of_mem (by simp [hlog])
      simp [Session.hasEnded, this] at going
  | reclose _ _ ih => exact ih he

/-- What the engine does with a command, after a turn in which it has not broken down. -/
theorem does_take (h : Recorded w s log) (going : s.poll.hasEnded = false) (c : Command) :
    Engine.Does w s.now s.poll.engine [.handled s.now c] (s.after (.take c)).engine := by
  obtain rfl := h.workshop
  rw [Session.engine_take going c]
  cases c with
  | update r => exact Engine.does_schedule _ _ r _
  | runtimeError message stack build => exact Engine.does_report _ _ message stack build _

/-- A command does nothing to a session that has ended in the turn before it. -/
theorem take_of_ended (ended : s.poll.hasEnded = true) (c : Command) :
    (s.after (.take c)).engine = s.poll.engine := by
  by_cases already : s.hasEnded = true
  · simp [Session.after, Session.poll, already]
  · have crashed : (s.engine.tick s.workshop s.surface s.now).crashed = true := by
      simp only [Session.hasEnded, Bool.or_eq_true, not_or] at already
      simpa [Session.poll, Session.hasEnded, already] using ended
    simpa [Session.after, Session.poll, already] using Engine.handle_of_crashed _ _ _ _ c crashed

theorem lastFingerprint_poll (h : Recorded w s log) :
    s.poll.engine.lastFingerprint = lastFingerprint? log := by
  rw [← h.debounced.last]
  unfold Session.poll
  split
  · rfl
  · exact Engine.lastFingerprint_tick _ _ _ _

/-- Neither a report nor an update that repeats the last one touches what is pending. -/
theorem pending_take (h : Recorded w s log) {c : Command}
    (same : ∀ r, c = .update r → lastFingerprint? log = some r.fingerprint) :
    (s.after (.take c)).engine.pending = s.poll.engine.pending := by
  by_cases going : s.poll.hasEnded = false
  · have step := h.does_take going c
    have last := h.lastFingerprint_poll
    generalize (s.after (.take c)).engine = e at step
    cases step with
    | clear changed _ => exact absurd (last.trans (same _ rfl)) changed
    | arm changed _ => exact absurd (last.trans (same _ rfl)) changed
    | _ => rfl
  · rw [take_of_ended (by simpa using going)]

/-- An update without code leaves nothing to build. -/
theorem pending_take_blank (h : Recorded w s log) (going : s.hasEnded = false) {r : Request}
    (changed : lastFingerprint? log ≠ some r.fingerprint)
    (blank : Text.isBlank r.entrySource = true) :
    (s.after (.take (.update r))).engine.pending = none := by
  obtain ⟨closed, alive⟩ : s.closed = false ∧ s.engine.crashed = false := by
    simpa [Session.hasEnded] using going
  by_cases goes : s.poll.hasEnded = false
  · have step := h.does_take goes (.update r)
    have last := h.lastFingerprint_poll
    generalize (s.after (.take (.update r))).engine = e at step
    cases step with
    | repeated same => exact absurd (last.symm.trans same) changed
    | clear _ _ => rfl
    | arm _ code => simp [blank] at code
  · rw [take_of_ended (by simpa using goes)]
    have crashed : s.poll.engine.crashed = true := by
      simpa [Session.poll, Session.hasEnded, closed, alive] using goes
    exact Session.pending_after (by simp [alive]) .poll crashed

/-- An accepted update is to be built, unless a turn before it broke the engine down. -/
theorem pending_take_accepted (h : Recorded w s log) (going : s.poll.hasEnded = false) {r : Request}
    (accepts : Accepts log r) :
    (s.after (.take (.update r))).engine.pending = some ⟨r, s.now + w.debounce⟩ := by
  have step := h.does_take going (.update r)
  have last := h.lastFingerprint_poll
  generalize (s.after (.take (.update r))).engine = e at step
  cases step with
  | repeated same => exact absurd (last.symm.trans same) accepts.1
  | clear _ blank => simp [accepts.2] at blank
  | arm _ _ => rfl

/-- A turn in which a build starts is that build. -/
theorem poll_of_started (h : Recorded w s log) {t : Nat} {r : Request}
    (start : .started t r ∈ s.pollEvents) :
    t = s.now ∧ s.poll.engine = { s.engine with pending := none }.build w s.surface r := by
  obtain rfl := h.workshop
  unfold Session.pollEvents at start
  split at start
  · cases start
  next going =>
    obtain ⟨now, due⟩ := Engine.mem_turnEvents_started.1 start
    exact ⟨now, by rw [Session.poll, if_neg going, Engine.tick_eq_build _ _ due]⟩

/-- A turn in which no build starts leaves the engine as it is. -/
theorem poll_of_idle (idle : ∀ t r, .started t r ∉ s.pollEvents) : s.poll = s := by
  unfold Session.pollEvents at idle
  unfold Session.poll
  split
  · rfl
  next going =>
    rw [if_neg going] at idle
    cases due : s.engine.due? s.now with
    | none => rw [Engine.tick_of_none _ _ due]
    | some r => exact absurd (Engine.mem_turnEvents_started.2 ⟨rfl, due⟩) (idle s.now r)

/-- An accepted update that nothing changed has been built when its time is over. -/
theorem started_of_accepted (h : Recorded w s log) (going : s.hasEnded = false)
    {earlier between : List Event} {t : Nat} {r : Request}
    (he : log = earlier ++ .handled t (.update r) :: between) (accepts : Accepts earlier r)
    (same : ∀ t' r', .handled t' (.update r') ∈ between → r'.fingerprint = r.fingerprint)
    (late : t + w.debounce < s.now) : .started (t + w.debounce) r ∈ between := by
  rcases h.debounced.complete earlier t r between he accepts same with hm | hp
  · exact hm
  · exact absurd (h.punctual going hp) (Nat.not_le.2 late)

end Recorded

/-! ## Main statement -/

/-- The latest input wins. Every build is that of an update awaited at that very time, so with no
other change and no other build since; no accepted update is built twice, and the builds come in
the order of the updates. A turn in which a build starts comes to that build, and any other turn to
nothing. Repeated updates and reports leave alone what is pending, an update
without code ends it, an accepted one starts the wait anew, and nothing comes after the end of the
commands. No run leaves out an update that is still awaited when its time is over. -/
theorem latest_input_wins (w : Workshop) (surface : Surface) (moves : List Move) :
    let s := (Session.fresh w surface).afterAll moves
    let log := (Session.fresh w surface).log moves
    (∀ before t r after, log = before ++ .started t r :: after →
      Awaited w.debounce before ⟨r, t⟩) ∧
    (builds log).Sublist ((accepted log).map fun a => (a.1 + w.debounce, a.2)) ∧
    (builds log).length = s.engine.builds ∧
    (∀ t r, .started t r ∈ s.pollEvents →
      t = s.now ∧ s.poll.engine = { s.engine with pending := none }.build w s.surface r) ∧
    ((∀ t r, .started t r ∉ s.pollEvents) → s.poll = s) ∧
    (∀ c, (∀ r, c = .update r → lastFingerprint? log = some r.fingerprint) →
      (s.after (.take c)).engine.pending = s.poll.engine.pending) ∧
    (∀ r, s.hasEnded = false → lastFingerprint? log ≠ some r.fingerprint →
      Text.isBlank r.entrySource = true → (s.after (.take (.update r))).engine.pending = none) ∧
    (∀ r, s.poll.hasEnded = false → Accepts log r →
      (s.after (.take (.update r))).engine.pending = some ⟨r, s.now + w.debounce⟩) ∧
    (∀ before after, log = before ++ .closed :: after → after = []) ∧
    (∀ earlier t r between, log = earlier ++ .handled t (.update r) :: between →
      Accepts earlier r →
      (∀ t' r', .handled t' (.update r') ∈ between → r'.fingerprint = r.fingerprint) →
      s.hasEnded = false → t + w.debounce < s.now → .started (t + w.debounce) r ∈ between) := by
  intro s log
  have h : Recorded w s log := recorded_moves w surface moves
  refine ⟨h.debounced.timely, ?_, h.length_builds, fun t r start => h.poll_of_started start,
    Recorded.poll_of_idle, fun c same => h.pending_take same,
    fun r going changed blank => h.pending_take_blank going changed blank,
    fun r going accepts => h.pending_take_accepted going accepts,
    fun before after he => h.closed_last he,
    fun earlier t r between he accepts same going late =>
      h.started_of_accepted going he accepts same late⟩
  obtain ⟨done, hd, hs⟩ := h.debounced.ordered
  rw [hd]
  exact hs.trans (List.sublist_append_left ..)

/-- An update that stays alone is built when the wait is over. -/
theorem latest_input_wins_alone :
    let w : Workshop := ⟨2, fun _ => .error default⟩
    let r : Request := { entrySource := "a" }
    let moves : List Move := [.take (.update r), .pass, .pass, .poll]
    (Session.fresh w fun _ => .accepts).log moves = [.handled 0 (.update r), .started 2 r] ∧
      Awaited 2 [.handled 0 (.update r)] ⟨r, 2⟩ :=
  ⟨rfl, (latest_input_wins ⟨2, fun _ => .error default⟩ (fun _ => .accepts)
    [.take (.update { entrySource := "a" }), .pass, .pass, .poll]).1 _ _ _ [] rfl⟩

end LivePreview
