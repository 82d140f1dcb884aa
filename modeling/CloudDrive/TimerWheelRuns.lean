import CloudDrive.TimerWheelExpiry

/-!
# Runs of the timing wheel

A run is any sequence of calls whose timestamps never go back.  The theorem at
the end follows one descriptor from the call that last set its deadline: it is
reported at most once, never early, and never later than the first advance
that reaches its rounded-up deadline.
-/

namespace CloudDrive

/-- The public calls of the wheel with the answers of the allocator and of the
publication callback. -/
inductive TimerCall where
  | track (fd : Int) (now : Timespec) (allocated : Bool)
  | trackAndPublish (fd : Int) (now : Timespec) (allocated published : Bool)
  | touch (fd : Int) (now : Timespec)
  | remove (fd : Int)
  | advance (now : Timespec)
deriving DecidableEq, Repr

namespace TimerCall

/-- The timestamp a call reads. -/
def time? : TimerCall → Option Timespec
  | track _ now _ | trackAndPublish _ now _ _ | touch _ now | advance now =>
      some now
  | remove _ => none

/-- The descriptor and time of a call that tracks or touches. -/
def arms? : TimerCall → Option (Int × Timespec)
  | track fd now _ | trackAndPublish fd now _ _ | touch fd now =>
      some (fd, now)
  | remove _ | advance _ => none

/-- The wheel after a call, its result, and the descriptors it reports. -/
def perform (wheel : TimerWheel) : TimerCall → TimerWheel × Int × List Int
  | track fd now allocated =>
      let result := wheel.trackAt fd now allocated
      (result.2, result.1, [])
  | trackAndPublish fd now allocated published =>
      let result := wheel.trackAndPublish fd now allocated published
      (result.2, result.1, [])
  | touch fd now =>
      let result := wheel.touchAt fd now
      (result.2, result.1, [])
  | remove fd => (wheel.remove fd, 0, [])
  | advance now =>
      let result := wheel.advanceAt now
      (result.1, 0, result.2)

/-- Timestamps are well formed, start at `clock` and never go back. -/
def Timely : Timespec → List TimerCall → Prop
  | _, [] => True
  | clock, call :: calls =>
      match call.time? with
      | none => Timely clock calls
      | some now => now.Valid ∧ clock.AtMost now ∧ Timely now calls

end TimerCall

namespace TimerCall

theorem Timely.left {clock : Timespec} {first second : List TimerCall}
    (timely : Timely clock (first ++ second)) : Timely clock first := by
  induction first generalizing clock with
  | nil => trivial
  | cons call calls ih =>
      cases call with
      | remove fd => exact ih timely
      | track _ _ _ | trackAndPublish _ _ _ _ | touch _ _ | advance _ =>
          exact ⟨timely.1, timely.2.1, ih timely.2.2⟩

end TimerCall

namespace TimerWheel

open TimerCall

def afterCalls (wheel : TimerWheel) : List TimerCall → TimerWheel
  | [] => wheel
  | call :: calls => afterCalls (perform wheel call).1 calls

/-- The descriptors reported by a sequence of calls, in order. -/
def reports (wheel : TimerWheel) : List TimerCall → List Int
  | [] => []
  | call :: calls =>
      (perform wheel call).2.2 ++ reports (perform wheel call).1 calls

@[simp]
theorem afterCalls_append (wheel : TimerWheel) (first second : List TimerCall) :
    afterCalls wheel (first ++ second) =
      afterCalls (afterCalls wheel first) second := by
  induction first generalizing wheel with
  | nil => rfl
  | cons call calls ih => exact ih _

@[simp]
theorem reports_append (wheel : TimerWheel) (first second : List TimerCall) :
    reports wheel (first ++ second) =
      reports wheel first ++ reports (afterCalls wheel first) second := by
  induction first generalizing wheel with
  | nil => rfl
  | cons call calls ih => simp [reports, afterCalls, ih]

/-- No call of the sequence sets the deadline of `fd` again or removes it. -/
def Untouched (fd : Int) : TimerWheel → List TimerCall → Prop
  | _, [] => True
  | wheel, call :: calls =>
      (∀ now, call.arms? = some (fd, now) → (perform wheel call).2.1 ≠ 0) ∧
        call ≠ .remove fd ∧ Untouched fd (perform wheel call).1 calls

theorem Untouched.append {fd : Int} {wheel : TimerWheel}
    {first second : List TimerCall} (quiet : Untouched fd wheel (first ++ second)) :
    Untouched fd wheel first ∧ Untouched fd (afterCalls wheel first) second := by
  induction first generalizing wheel with
  | nil => exact ⟨trivial, quiet⟩
  | cons call calls ih =>
      obtain ⟨unarmed, unremoved, rest⟩ := quiet
      obtain ⟨restFirst, restSecond⟩ := ih rest
      exact ⟨⟨unarmed, unremoved, restFirst⟩, restSecond⟩

/-- The invariant of a run: the links are intact, the wheel has not moved past
the clock, and every deadline is ahead of it. -/
structure Sound (timeoutSeconds : Nat) (clock : Timespec)
    (wheel : TimerWheel) : Prop where
  linked : WellLinked wheel
  ahead : Ahead wheel
  timeoutSeconds_eq : wheel.timeoutSeconds = timeoutSeconds
  currentSecond_le : wheel.currentSecond ≤ clock.tvSec

theorem sound_create {timeoutSeconds : Nat} {origin : Timespec}
    {wheel : TimerWheel} (created : create timeoutSeconds origin = some wheel) :
    Sound timeoutSeconds origin wheel := by
  have linked := wellLinked_create created
  unfold create at created
  split at created
  · cases created
  · cases created
    refine ⟨linked, ?_, rfl, Nat.le_refl _⟩
    intro fd deadline tracked
    simp [deadlineOf, findNode] at tracked

theorem tvSec_le_of_atMost {left right : Timespec} (order : left.AtMost right) :
    left.tvSec ≤ right.tvSec := by
  unfold Timespec.AtMost at order
  omega

section Steps

variable {timeoutSeconds : Nat} {clock now : Timespec} {wheel : TimerWheel}

/-- A call that sets a deadline a whole timeout away keeps the run sound. -/
theorem Sound.armed (sound : Sound timeoutSeconds clock wheel)
    (positive : 0 < timeoutSeconds) (order : clock.AtMost now) {fd : Int}
    {result : Int × TimerWheel}
    (armed : Armed wheel fd (now.addSeconds wheel.timeoutSeconds) result) :
    Sound timeoutSeconds now result.2 := by
  have notPast := Nat.le_trans sound.currentSecond_le (tvSec_le_of_atMost order)
  refine ⟨armed.linked, ?_,
    armed.sameClock.timeoutSeconds_eq.trans sound.timeoutSeconds_eq,
    armed.sameClock.currentSecond_eq ▸ notPast⟩
  intro other deadline tracked
  rw [armed.sameClock.currentSecond_eq]
  rcases armed.outcome with ⟨_, changed⟩ | ⟨_, unchanged⟩
  · rw [changed] at tracked
    by_cases same : other = fd
    · rw [same, Function.update_self, Option.some.injEq] at tracked
      subst tracked
      have := sound.timeoutSeconds_eq
      simp only [deadlineTick, Timespec.addSeconds_tvSec]
      omega
    · rw [Function.update_of_ne same] at tracked
      exact sound.ahead other deadline tracked
  · rw [unchanged] at tracked
    exact sound.ahead other deadline tracked

theorem Sound.removed (sound : Sound timeoutSeconds clock wheel) (fd : Int) :
    Sound timeoutSeconds clock (wheel.remove fd) := by
  by_cases nonneg : 0 ≤ fd
  · obtain ⟨linked, sameClock, changed⟩ := sound.linked.remove nonneg
    refine ⟨linked, ?_,
      sameClock.timeoutSeconds_eq.trans sound.timeoutSeconds_eq,
      sameClock.currentSecond_eq ▸ sound.currentSecond_le⟩
    intro other deadline tracked
    rw [changed] at tracked
    rw [sameClock.currentSecond_eq]
    by_cases same : other = fd
    · simp [same] at tracked
    · rw [Function.update_of_ne same] at tracked
      exact sound.ahead other deadline tracked
  · simpa [TimerWheel.remove, Int.not_le.mp nonneg] using sound

theorem Sound.advanced (sound : Sound timeoutSeconds clock wheel)
    (valid : now.Valid) (order : clock.AtMost now) :
    Sound timeoutSeconds now (wheel.advanceAt now).1 := by
  obtain ⟨advanced, reached⟩ := sound.linked.advanceAt now
  have := tvSec_le_of_atMost order
  have := sound.currentSecond_le
  exact ⟨advanced.linked, sound.ahead.advanceAt sound.linked valid.1,
    advanced.timeoutSeconds_eq.trans sound.timeoutSeconds_eq,
    by rw [reached]; omega⟩

/-- Every call of a timely run keeps it sound. -/
theorem Sound.perform (sound : Sound timeoutSeconds clock wheel)
    (positive : 0 < timeoutSeconds) {call : TimerCall} {calls : List TimerCall}
    (timely : Timely clock (call :: calls)) :
    ∃ clock', Sound timeoutSeconds clock' (perform wheel call).1 ∧
      Timely clock' calls := by
  cases call with
  | track fd now allocated =>
      obtain ⟨_, order, rest⟩ := timely
      exact ⟨now, sound.armed positive order
        (sound.linked.trackAt fd now allocated), rest⟩
  | trackAndPublish fd now allocated published =>
      obtain ⟨_, order, rest⟩ := timely
      exact ⟨now, sound.armed positive order
        (sound.linked.trackAndPublish fd now allocated published), rest⟩
  | touch fd now =>
      obtain ⟨_, order, rest⟩ := timely
      exact ⟨now, sound.armed positive order (sound.linked.touchAt fd now),
        rest⟩
  | remove fd => exact ⟨clock, sound.removed fd, timely⟩
  | advance now =>
      obtain ⟨valid, order, rest⟩ := timely
      exact ⟨now, sound.advanced valid order, rest⟩

theorem Sound.afterCalls (sound : Sound timeoutSeconds clock wheel)
    (positive : 0 < timeoutSeconds) {first second : List TimerCall}
    (timely : Timely clock (first ++ second)) :
    ∃ clock', Sound timeoutSeconds clock' (afterCalls wheel first) ∧
      Timely clock' second := by
  induction first generalizing clock wheel with
  | nil => exact ⟨clock, sound, timely⟩
  | cons call calls ih =>
      obtain ⟨clock', sound', timely'⟩ := sound.perform positive timely
      exact ih sound' timely'

end Steps

section OneDescriptor

variable {timeoutSeconds : Nat} {clock : Timespec} {wheel : TimerWheel}
  {fd : Int}

private theorem deadlineOf_armed {other : Int} {deadline : Timespec}
    {result : Int × TimerWheel} (armed : Armed wheel other deadline result)
    (refused : other = fd → result.1 ≠ 0) :
    deadlineOf result.2 fd = deadlineOf wheel fd := by
  rcases armed.outcome with ⟨succeeded, changed⟩ | ⟨_, unchanged⟩
  · have differs : fd ≠ other := fun same => refused same.symm succeeded
    rw [changed, Function.update_of_ne differs]
  · rw [unchanged]

/-- A call that neither sets the deadline of a descriptor nor removes it keeps
the deadline, or reports the descriptor once and drops it. -/
theorem Sound.deadlineOf_perform (sound : Sound timeoutSeconds clock wheel)
    {call : TimerCall} {calls : List TimerCall}
    (timely : Timely clock (call :: calls))
    (quiet : Untouched fd wheel (call :: calls)) :
    (fd ∉ (TimerCall.perform wheel call).2.2 ∧
        deadlineOf (TimerCall.perform wheel call).1 fd = deadlineOf wheel fd) ∨
      ((TimerCall.perform wheel call).2.2.count fd = 1 ∧
        deadlineOf (TimerCall.perform wheel call).1 fd = none ∧
        ∃ now deadline, call = .advance now ∧
          deadlineOf wheel fd = some deadline ∧ deadline.AtMost now) := by
  obtain ⟨unarmed, unremoved, _⟩ := quiet
  cases call with
  | track other now allocated =>
      refine Or.inl ⟨by simp [TimerCall.perform], deadlineOf_armed
        (sound.linked.trackAt other now allocated) fun same => ?_⟩
      exact unarmed now (by simp [arms?, same])
  | trackAndPublish other now allocated published =>
      refine Or.inl ⟨by simp [TimerCall.perform], deadlineOf_armed
        (sound.linked.trackAndPublish other now allocated published)
        fun same => ?_⟩
      exact unarmed now (by simp [arms?, same])
  | touch other now =>
      refine Or.inl ⟨by simp [TimerCall.perform], deadlineOf_armed
        (sound.linked.touchAt other now) fun same => ?_⟩
      exact unarmed now (by simp [arms?, same])
  | remove other =>
      refine Or.inl ⟨by simp [TimerCall.perform], ?_⟩
      have differs : fd ≠ other := fun same => unremoved (by rw [same])
      change deadlineOf (wheel.remove other) fd = deadlineOf wheel fd
      by_cases nonneg : 0 ≤ other
      · rw [(sound.linked.remove nonneg).2.2, Function.update_of_ne differs]
      · simp [TimerWheel.remove, Int.not_le.mp nonneg]
  | advance now =>
      obtain ⟨valid, order, _⟩ := timely
      obtain ⟨advanced, _⟩ := sound.linked.advanceAt now
      by_cases reported : fd ∈ (wheel.advanceAt now).2
      · obtain ⟨deadline, tracked, isDue⟩ := advanced.due fd reported
        exact Or.inr ⟨List.count_eq_one_of_mem advanced.nodup reported,
          advanced.dropped fd reported, now, deadline, rfl, tracked, isDue⟩
      · exact Or.inl ⟨reported, advanced.kept fd reported⟩

/-- An untracked descriptor that is not tracked again is never reported. -/
theorem Sound.silent (sound : Sound timeoutSeconds clock wheel)
    (positive : 0 < timeoutSeconds) (untracked : deadlineOf wheel fd = none)
    {calls : List TimerCall} (timely : Timely clock calls)
    (quiet : Untouched fd wheel calls) :
    (reports wheel calls).count fd = 0 ∧
      deadlineOf (TimerWheel.afterCalls wheel calls) fd = none := by
  induction calls generalizing clock wheel with
  | nil => exact ⟨rfl, untracked⟩
  | cons call calls ih =>
      obtain ⟨clock', sound', timely'⟩ := sound.perform positive timely
      rcases sound.deadlineOf_perform timely quiet with
        ⟨unreported, kept⟩ | ⟨_, _, _, deadline, _, tracked, _⟩
      · obtain ⟨later, still⟩ := ih sound' (kept.trans untracked) timely'
          quiet.2.2
        refine ⟨?_, still⟩
        rw [reports, List.count_append, later,
          List.count_eq_zero_of_not_mem unreported]
      · simp [untracked] at tracked

/-- A tracked descriptor that is left alone is still tracked, or has been
reported exactly once and is tracked no more. -/
theorem Sound.followed (sound : Sound timeoutSeconds clock wheel)
    (positive : 0 < timeoutSeconds) {deadline : Timespec}
    (tracked : deadlineOf wheel fd = some deadline) {calls : List TimerCall}
    (timely : Timely clock calls) (quiet : Untouched fd wheel calls) :
    ((reports wheel calls).count fd = 0 ∧
        deadlineOf (TimerWheel.afterCalls wheel calls) fd = some deadline) ∨
      ((reports wheel calls).count fd = 1 ∧
        deadlineOf (TimerWheel.afterCalls wheel calls) fd = none) := by
  induction calls generalizing clock wheel with
  | nil => exact Or.inl ⟨rfl, tracked⟩
  | cons call calls ih =>
      obtain ⟨clock', sound', timely'⟩ := sound.perform positive timely
      rcases sound.deadlineOf_perform timely quiet with
        ⟨unreported, kept⟩ | ⟨once, dropped, _⟩
      · have silentFirst := List.count_eq_zero_of_not_mem unreported
        simpa [reports, TimerWheel.afterCalls, silentFirst] using
          ih sound' (kept.trans tracked) timely' quiet.2.2
      · obtain ⟨later, still⟩ := sound'.silent positive dropped timely'
          quiet.2.2
        exact Or.inr ⟨by rw [reports, List.count_append, once, later], still⟩

/-- A successful call that tracks or touches a descriptor sets its deadline a
timeout away. -/
theorem Sound.deadlineOf_armed (sound : Sound timeoutSeconds clock wheel)
    {call : TimerCall} {time : Timespec}
    (arms : call.arms? = some (fd, time))
    (succeeded : (TimerCall.perform wheel call).2.1 = 0) :
    deadlineOf (TimerCall.perform wheel call).1 fd =
      some (time.addSeconds timeoutSeconds) := by
  have whenArmed : ∀ {result : Int × TimerWheel},
      Armed wheel fd (time.addSeconds wheel.timeoutSeconds) result →
      result.1 = 0 →
      deadlineOf result.2 fd = some (time.addSeconds timeoutSeconds) := by
    intro result armed zero
    rcases armed.outcome with ⟨_, changed⟩ | ⟨failed, _⟩
    · rw [changed, Function.update_self, sound.timeoutSeconds_eq]
    · omega
  cases call with
  | track other now allocated =>
      cases arms
      exact whenArmed (sound.linked.trackAt fd time allocated) succeeded
  | trackAndPublish other now allocated published =>
      cases arms
      exact whenArmed
        (sound.linked.trackAndPublish fd time allocated published) succeeded
  | touch other now =>
      cases arms
      exact whenArmed (sound.linked.touchAt fd time) succeeded
  | remove other => cases arms
  | advance now => cases arms

/-- After an advance every tracked deadline, rounded up, is still to come. -/
theorem Sound.beyond_advance (sound : Sound timeoutSeconds clock wheel)
    {now : Timespec} (valid : now.Valid) {deadline : Timespec}
    (tracked : deadlineOf (wheel.advanceAt now).1 fd = some deadline) :
    now.tvSec < deadlineTick deadline := by
  have reached := (sound.linked.advanceAt now).2
  have := sound.ahead.advanceAt sound.linked valid.1 fd deadline tracked
  omega

end OneDescriptor

/-- A descriptor last tracked or touched at `time` and not removed since is
reported at most once, never by an advance before `time` plus the timeout, and
by the first advance that reaches that deadline rounded up at the latest.
After any advance of the run, every tracked deadline rounded up is still to
come. -/
theorem reports_exactly_once {timeoutSeconds : Nat} {origin time : Timespec}
    {wheel : TimerWheel} (created : create timeoutSeconds origin = some wheel)
    {before later : List TimerCall} {call : TimerCall} {fd : Int}
    (timely : Timely origin (before ++ call :: later))
    (arms : call.arms? = some (fd, time))
    (succeeded : (perform (afterCalls wheel before) call).2.1 = 0)
    (quiet : Untouched fd (afterCalls wheel (before ++ [call])) later) :
    let armed := afterCalls wheel (before ++ [call])
    let deadline := time.addSeconds timeoutSeconds
    (reports armed later).count fd ≤ 1 ∧
      (∀ pre now post, later = pre ++ .advance now :: post →
        (fd ∈ ((afterCalls armed pre).advanceAt now).2 →
          deadline.AtMost now) ∧
        (deadlineTick deadline ≤ now.tvSec →
          (reports armed (pre ++ [.advance now])).count fd = 1)) ∧
      ∀ pre now post,
        before ++ call :: later = pre ++ .advance now :: post →
        ∀ other pending,
          deadlineOf (afterCalls wheel (pre ++ [.advance now])) other =
            some pending →
          now.tvSec < deadlineTick pending := by
  have positive : 0 < timeoutSeconds := by
    unfold create at created
    split at created
    · cases created
    · omega
  have start := sound_create created
  obtain ⟨clock, sound, timelyCall⟩ := start.afterCalls positive timely
  have tracked := sound.deadlineOf_armed arms succeeded
  obtain ⟨clock', soundArmed, timelyLater⟩ := sound.perform positive timelyCall
  simp only [afterCalls_append, TimerWheel.afterCalls] at quiet ⊢
  refine ⟨?_, ?_, ?_⟩
  · rcases soundArmed.followed positive tracked timelyLater quiet with
      ⟨never, _⟩ | ⟨once, _⟩ <;> omega
  · rintro pre now post rfl
    obtain ⟨quietPre, quietPost⟩ := quiet.append
    obtain ⟨clockPre, soundPre, timelyAdvance⟩ :=
      soundArmed.afterCalls positive timelyLater
    have step := soundPre.deadlineOf_perform timelyAdvance quietPost
    have whole : reports (perform (afterCalls wheel before) call).1
        (pre ++ [.advance now]) = reports
          (perform (afterCalls wheel before) call).1 pre ++
            ((afterCalls (perform (afterCalls wheel before) call).1
              pre).advanceAt now).2 := by
      simp [reports, TimerCall.perform]
    rw [whole, List.count_append]
    rcases soundArmed.followed positive tracked timelyLater.left quietPre with
      ⟨never, still⟩ | ⟨once, dropped⟩
    · rcases step with ⟨unreported, kept⟩ | ⟨reported, _, _, _, ⟨⟩, same, isDue⟩
      · refine ⟨fun reported => (unreported reported).elim, fun reached => ?_⟩
        have beyond := soundPre.beyond_advance timelyAdvance.1
          (kept.trans still)
        omega
      · cases still.symm.trans same
        exact ⟨fun _ => isDue, fun _ => by
          rw [never, Nat.zero_add]
          exact reported⟩
    · rcases step with ⟨unreported, _⟩ | ⟨_, _, _, _, ⟨⟩, same, _⟩
      · refine ⟨fun reported => (unreported reported).elim, fun _ => ?_⟩
        rw [once]
        exact congrArg (1 + ·) (List.count_eq_zero_of_not_mem unreported)
      · simp [dropped] at same
  · intro pre now post split other pending trackedOther
    obtain ⟨clockPre, soundPre, timelyAdvance⟩ :=
      start.afterCalls positive (split ▸ timely)
    exact soundPre.beyond_advance timelyAdvance.1 (by
      simpa [TimerWheel.afterCalls, TimerCall.perform] using trackedOther)

/-- With a timeout of three seconds, a descriptor tracked 0.2 seconds into
second 100 is reported once by an advance to the same fraction of second
104. -/
theorem reports_exactly_once_three_seconds :
    ∃ wheel, create 3 ⟨100, 0⟩ = some wheel ∧
      (reports (afterCalls wheel [.track 11 ⟨100, 200000000⟩ true])
        [.touch 10 ⟨102, 200000000⟩, .advance ⟨104, 200000000⟩]).count 11 = 1 := by
  refine ⟨_, rfl, ?_⟩
  have followed := @reports_exactly_once 3 ⟨100, 0⟩ ⟨100, 200000000⟩ _ rfl []
    [.touch 10 ⟨102, 200000000⟩, .advance ⟨104, 200000000⟩]
    (.track 11 ⟨100, 200000000⟩ true) 11
    ⟨by decide, by decide, by decide, by decide, by decide, by decide, trivial⟩
    rfl (by decide)
    ⟨by simp [arms?], by simp, by simp [arms?], by simp, trivial⟩
  exact (followed.2.1 [.touch 10 ⟨102, 200000000⟩] _ [] rfl).2 (by decide)

end TimerWheel

end CloudDrive
