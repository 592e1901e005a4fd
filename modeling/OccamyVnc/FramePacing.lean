import OccamyVnc.Machine

/-!
# Frame pacing

After each server message inside a frame, guac_vnc_client_thread decides whether to stretch the
frame for lagging viewers, to wait briefly for more data, or to end the frame. The timestamps are
64-bit `guac_timestamp`s, but `frame_remaining`, `time_elapsed`, `required_wait` and the timeout
`required_wait*1000` are `int`s. `frameStep` computes in those types, `frameStepExact` in exact
integers; they agree whenever lag and gaps stay in the ranges the `int`s can carry, and differ
beyond them.

`innerLoop` and `frameLoop` run the decision over a frame and over the frames of a connection,
with the environment's answers (message handling, clock, waits) given as data, and record every
timeout passed to guac_vnc_wait_for_messages, the wait for the start of each frame included. In
range the loop in the code's types is the loop in exact integers, and never waits with a negative
timeout or longer than the lag it compensates.
-/

namespace OccamyVnc

/-- What one inner iteration does next: wait for messages for the given number of microseconds,
or end the frame. -/
inductive FrameStep
  | wait (timeout : Int)
  | endFrame
  deriving DecidableEq, Repr

/-- Lines 760–778 in the code's types. `frameDuration` and `frameTimeout` stand for
GUAC_VNC_FRAME_DURATION and GUAC_VNC_FRAME_TIMEOUT, which vnc.h defines. -/
def frameStep (frameDuration frameTimeout processingLag lastFrameEnd frameStart frameEnd : Int) :
    FrameStep :=
  let frameRemaining := toInt32 (toInt64 (toInt64 (frameStart + frameDuration) - frameEnd))
  let timeElapsed := toInt32 (toInt64 (frameEnd - lastFrameEnd))
  let requiredWait := toInt32 (processingLag - timeElapsed)
  if requiredWait > frameTimeout then .wait (toInt32 (requiredWait * 1000))
  else if frameRemaining > 0 then .wait (toInt32 (frameTimeout * 1000))
  else .endFrame

/-- The same decision in exact integer arithmetic. -/
def frameStepExact (frameDuration frameTimeout processingLag lastFrameEnd frameStart frameEnd : Int) :
    FrameStep :=
  let requiredWait := processingLag - (frameEnd - lastFrameEnd)
  if requiredWait > frameTimeout then .wait (requiredWait * 1000)
  else if frameStart + frameDuration > frameEnd then .wait (frameTimeout * 1000)
  else .endFrame

/-- The inputs of one decision keep every `int` and `int64` of lines 760–778 in range: a lag of
at most 2147483 ms (35.8 minutes), a frame timeout whose `×1000` fits an `int`, a clock that does
not go back, no 64-bit overflow, and less than 2^31 ms since the last frame. -/
structure InRange (frameDuration frameTimeout processingLag lastFrameEnd frameStart frameEnd : Int) :
    Prop where
  lag : 0 ≤ processingLag ∧ processingLag ≤ 2147483
  timeout : -2147483 ≤ frameTimeout ∧ frameTimeout ≤ 2147483
  duration : 0 ≤ frameDuration ∧ frameDuration < 2147483648
  clock : -9223372036854775808 ≤ lastFrameEnd ∧ lastFrameEnd ≤ frameStart ∧ frameStart ≤ frameEnd
  sum : frameStart + frameDuration < 9223372036854775808
  gap : frameEnd - lastFrameEnd < 2147483648

theorem frameStep_eq_exact {frameDuration frameTimeout processingLag lastFrameEnd frameStart frameEnd : Int}
    (h : InRange frameDuration frameTimeout processingLag lastFrameEnd frameStart frameEnd) :
    frameStep frameDuration frameTimeout processingLag lastFrameEnd frameStart frameEnd =
      frameStepExact frameDuration frameTimeout processingLag lastFrameEnd frameStart frameEnd := by
  obtain ⟨hlag, htimeout, hduration, hclock, hsum, hgap⟩ := h
  have hstart : toInt64 (frameStart + frameDuration) = frameStart + frameDuration :=
    toInt64_of_range (by omega) hsum
  have hrem : toInt64 (frameStart + frameDuration - frameEnd) = frameStart + frameDuration - frameEnd :=
    toInt64_of_range (by omega) (by omega)
  have hremaining : toInt32 (frameStart + frameDuration - frameEnd) > 0 ↔
      frameStart + frameDuration > frameEnd := by
    unfold toInt32; omega
  have helapsed : toInt32 (toInt64 (frameEnd - lastFrameEnd)) = frameEnd - lastFrameEnd := by
    rw [toInt64_of_range (by omega) (by omega), toInt32_of_range (by omega) hgap]
  have hwait : toInt32 (processingLag - (frameEnd - lastFrameEnd)) =
      processingLag - (frameEnd - lastFrameEnd) := toInt32_of_range (by omega) (by omega)
  unfold frameStep frameStepExact
  simp only [hstart, hrem, helapsed, hwait, hremaining]
  split_ifs <;> first
    | rfl
    | (congr 1; exact toInt32_of_range (by omega) (by omega))

/-- The `unsigned int usecs` that WaitForMessage receives for the `int` timeout
guac_vnc_wait_for_messages passes on: the value modulo 2^32. -/
def waitForMessageUsecs (timeout : Int) : Nat := (timeout % 4294967296).toNat

/-- `required_wait*1000` wraps modulo 2^32. With every timestamp 0, a lag of 2147484 ms gives the
negative `int` timeout -2147483296, which WaitForMessage's `unsigned` parameter turns back into
2147484000 µs; but a lag of 4294968 ms makes the loop wait 704 µs where exact arithmetic waits
4294968000 µs. -/
theorem frameStep_timeout_overflows :
    frameStep 40 0 2147484 0 0 0 = .wait (-2147483296) ∧ waitForMessageUsecs (-2147483296) = 2147484000 ∧
      frameStep 40 0 4294968 0 0 0 = .wait 704 ∧ waitForMessageUsecs 704 = 704 ∧
      frameStepExact 40 0 4294968 0 0 0 = .wait 4294968000 := by
  refine ⟨by decide, by decide, by decide, by decide, by decide⟩

/-! ### The frame loop -/

/-- One iteration of the inner loop as the environment answers it: whether HandleRFBServerMessage
succeeded, the clock at `frame_end`, and what the wait that may follow returns. -/
structure Iteration where
  handled : Bool
  frameEnd : Int
  waitResult : Int
  deriving DecidableEq, Repr

/-- How the do-while of a frame ends: it leaves with `wait_result`, HandleRFBServerMessage fails,
or the environment's answers run out inside the frame. -/
inductive InnerEnd
  | exit (waitResult : Int)
  | messageFailed
  | pending
  deriving DecidableEq, Repr

/-- The do-while loop of lines 747–780, with `next` the decision of an iteration at `frame_end`:
the timeouts it waits with, and how it ends. -/
def innerLoop (next : Int → FrameStep) (waitResult : Int) : List Iteration → List Int × InnerEnd
  | [] => ([], .pending)
  | it :: rest =>
    if it.handled then
      match next it.frameEnd with
      | .endFrame => ([], .exit waitResult)
      | .wait timeout =>
        if 0 < it.waitResult then
          ((innerLoop next it.waitResult rest).1.cons timeout, (innerLoop next it.waitResult rest).2)
        else ([timeout], .exit it.waitResult)
    else ([], .messageFailed)

/-- One iteration of the outer loop: what the wait for the start of a frame returns, then the
processing lag and the clock at `frame_start`, and the inner iterations. -/
structure Frame where
  startWait : Int
  processingLag : Int
  frameStart : Int
  iterations : List Iteration
  deriving DecidableEq, Repr

/-- The loop of lines 731–796 while the client runs, from `last_frame_end`, with
`frameStartTimeout` for GUAC_VNC_FRAME_START_TIMEOUT and `next lag lastFrameEnd frameStart` the
decisions of a frame: the timeouts of each frame, the wait for its start first, and the text
guac_client_abort reports with UPSTREAM_ERROR, if it is called. `last_frame_end` becomes the
frame's start once a frame began. -/
def frameLoop (frameStartTimeout : Int) (next : Int → Int → Int → Int → FrameStep) (lastFrameEnd : Int) :
    List Frame → List (List Int) × Option String
  | [] => ([], none)
  | f :: rest =>
    if 0 < f.startWait then
      match innerLoop (next f.processingLag lastFrameEnd f.frameStart) f.startWait f.iterations with
      | (timeouts, .messageFailed) =>
        ([frameStartTimeout :: timeouts], some "Error handling message from VNC server.")
      | (timeouts, .pending) => ([frameStartTimeout :: timeouts], none)
      | (timeouts, .exit waitResult) =>
        if waitResult < 0 then ([frameStartTimeout :: timeouts], some "Connection closed.")
        else ((frameLoop frameStartTimeout next f.frameStart rest).1.cons (frameStartTimeout :: timeouts),
          (frameLoop frameStartTimeout next f.frameStart rest).2)
    else if f.startWait < 0 then ([[frameStartTimeout]], some "Connection closed.")
    else ((frameLoop frameStartTimeout next lastFrameEnd rest).1.cons [frameStartTimeout],
      (frameLoop frameStartTimeout next lastFrameEnd rest).2)

theorem innerLoop_congr {next next' : Int → FrameStep} (waitResult : Int) (its : List Iteration)
    (h : ∀ it ∈ its, next it.frameEnd = next' it.frameEnd) :
    innerLoop next waitResult its = innerLoop next' waitResult its := by
  induction its generalizing waitResult with
  | nil => rfl
  | cons it rest ih =>
    have hrest := ih it.waitResult fun it' h' => h it' (List.mem_cons_of_mem it h')
    simp only [innerLoop, h it (List.mem_cons_self it rest), hrest]

instance (frameDuration frameTimeout processingLag lastFrameEnd frameStart frameEnd : Int) :
    Decidable (InRange frameDuration frameTimeout processingLag lastFrameEnd frameStart frameEnd) :=
  decidable_of_iff ((0 ≤ processingLag ∧ processingLag ≤ 2147483) ∧
      (-2147483 ≤ frameTimeout ∧ frameTimeout ≤ 2147483) ∧
      (0 ≤ frameDuration ∧ frameDuration < 2147483648) ∧
      (-9223372036854775808 ≤ lastFrameEnd ∧ lastFrameEnd ≤ frameStart ∧ frameStart ≤ frameEnd) ∧
      frameStart + frameDuration < 9223372036854775808 ∧ frameEnd - lastFrameEnd < 2147483648)
    ⟨fun ⟨a, b, c, d, e, f⟩ => ⟨a, b, c, d, e, f⟩, fun ⟨a, b, c, d, e, f⟩ => ⟨a, b, c, d, e, f⟩⟩

/-- Every decision of the frame loop over `frames` from `lastFrameEnd` has its inputs in range. -/
def FramesInRange (frameDuration frameTimeout : Int) : Int → List Frame → Prop
  | _, [] => True
  | lastFrameEnd, f :: rest =>
    (0 < f.startWait → ∀ it ∈ f.iterations,
      InRange frameDuration frameTimeout f.processingLag lastFrameEnd f.frameStart it.frameEnd) ∧
    FramesInRange frameDuration frameTimeout (if 0 < f.startWait then f.frameStart else lastFrameEnd) rest

instance decFramesInRange (frameDuration frameTimeout : Int) :
    ∀ lastFrameEnd frames, Decidable (FramesInRange frameDuration frameTimeout lastFrameEnd frames)
  | _, [] => isTrue trivial
  | _, _ :: rest =>
    @instDecidableAnd _ _ inferInstance (decFramesInRange frameDuration frameTimeout _ rest)

theorem frameLoop_congr {frameDuration frameTimeout : Int} {next next' : Int → Int → Int → Int → FrameStep}
    (hnext : ∀ {lag last start stop}, InRange frameDuration frameTimeout lag last start stop →
      next lag last start stop = next' lag last start stop)
    (frameStartTimeout lastFrameEnd : Int) (frames : List Frame)
    (h : FramesInRange frameDuration frameTimeout lastFrameEnd frames) :
    frameLoop frameStartTimeout next lastFrameEnd frames = frameLoop frameStartTimeout next' lastFrameEnd frames := by
  induction frames generalizing lastFrameEnd with
  | nil => rfl
  | cons f rest ih =>
    obtain ⟨hf, hrest⟩ := h
    by_cases hstart : 0 < f.startWait
    · rw [if_pos hstart] at hrest
      simp only [frameLoop, if_pos hstart, ih _ hrest,
        innerLoop_congr _ _ fun it hit => hnext (hf hstart it hit)]
    · rw [if_neg hstart] at hrest
      simp only [frameLoop, if_neg hstart, ih _ hrest]

/-- Over every sequence of frames whose clock readings and lags stay in range, the loop computed in
the code's types waits with exactly the timeouts, and aborts exactly when and with the text, of
the loop in exact integers. -/
theorem frameLoop_eq_exact (frameDuration frameTimeout frameStartTimeout lastFrameEnd : Int)
    (frames : List Frame) (h : FramesInRange frameDuration frameTimeout lastFrameEnd frames) :
    frameLoop frameStartTimeout (frameStep frameDuration frameTimeout) lastFrameEnd frames =
      frameLoop frameStartTimeout (frameStepExact frameDuration frameTimeout) lastFrameEnd frames :=
  frameLoop_congr frameStep_eq_exact frameStartTimeout lastFrameEnd frames h

/-- A viewer 500 ms behind: after a wait of a second for the frame's start, the first frame is
stretched by 400 ms and then by 350 ms, until a wait times out; the next wait for a frame times out
too. -/
theorem frameLoop_lagging_viewer :
    FramesInRange 40 0 0 [⟨1, 500, 100, [⟨true, 100, 1⟩, ⟨true, 150, 0⟩]⟩, ⟨0, 0, 0, []⟩] ∧
      frameLoop 1000000 (frameStep 40 0) 0 [⟨1, 500, 100, [⟨true, 100, 1⟩, ⟨true, 150, 0⟩]⟩, ⟨0, 0, 0, []⟩] =
        ([[1000000, 400000, 350000], [1000000]], none) :=
  have h : FramesInRange 40 0 0 [⟨1, 500, 100, [⟨true, 100, 1⟩, ⟨true, 150, 0⟩]⟩, ⟨0, 0, 0, []⟩] := by
    decide
  ⟨h, (frameLoop_eq_exact 40 0 1000000 0 _ h).trans (by decide)⟩

theorem frameStepExact_wait_nonneg {frameDuration frameTimeout : Int} (htimeout : 0 ≤ frameTimeout)
    {lag last start stop t : Int} (h : frameStepExact frameDuration frameTimeout lag last start stop = .wait t) :
    0 ≤ t := by
  simp only [frameStepExact] at h
  split_ifs at h <;> cases h <;> omega

theorem frameStepExact_wait_le {frameDuration frameTimeout lag last start stop t : Int} (hclock : last ≤ stop)
    (h : frameStepExact frameDuration frameTimeout lag last start stop = .wait t) :
    t ≤ max lag frameTimeout * 1000 := by
  simp only [frameStepExact] at h
  split_ifs at h <;> cases h <;> omega

theorem innerLoop_timeouts {next : Int → FrameStep} {P : Int → Prop} (waitResult : Int) (its : List Iteration)
    (hnext : ∀ it ∈ its, ∀ t, next it.frameEnd = .wait t → P t) :
    ∀ t ∈ (innerLoop next waitResult its).1, P t := by
  induction its generalizing waitResult with
  | nil => simp [innerLoop]
  | cons it rest ih =>
    have hrest := ih it.waitResult fun it' h' => hnext it' (List.mem_cons_of_mem it h')
    cases hn : next it.frameEnd with
    | endFrame => simp only [innerLoop, hn]; split_ifs <;> simp
    | wait timeout =>
      have ht := hnext it (List.mem_cons_self it rest) timeout hn
      simp only [innerLoop, hn]
      split_ifs
      · exact List.forall_mem_cons.2 ⟨ht, hrest⟩
      · exact List.forall_mem_singleton.2 ht
      · simp

theorem frameLoop_timeouts {frameDuration frameTimeout frameStartTimeout : Int}
    {next : Int → Int → Int → Int → FrameStep} {P : Int → Prop} (hstart : P frameStartTimeout)
    (lastFrameEnd : Int) (frames : List Frame) (h : FramesInRange frameDuration frameTimeout lastFrameEnd frames)
    (hnext : ∀ f ∈ frames, ∀ last stop t,
      InRange frameDuration frameTimeout f.processingLag last f.frameStart stop →
      next f.processingLag last f.frameStart stop = .wait t → P t) :
    ∀ timeouts ∈ (frameLoop frameStartTimeout next lastFrameEnd frames).1, ∀ t ∈ timeouts, P t := by
  induction frames generalizing lastFrameEnd with
  | nil => simp [frameLoop]
  | cons f rest ih =>
    obtain ⟨hf, hrest⟩ := h
    have hnext' := fun f' hf' => hnext f' (List.mem_cons_of_mem f hf')
    simp only [frameLoop]
    split_ifs with hwait
    · rw [if_pos hwait] at hrest
      have hinner := @innerLoop_timeouts (next f.processingLag lastFrameEnd f.frameStart) _ f.startWait
        f.iterations fun it hit t hw => hnext f (List.mem_cons_self f rest) _ _ t (hf hwait it hit) hw
      have hframe := List.forall_mem_cons.2 ⟨hstart, hinner⟩
      rcases hrun : innerLoop (next f.processingLag lastFrameEnd f.frameStart) f.startWait f.iterations
        with ⟨timeouts, _ | _ | _⟩
      all_goals simp only [hrun] at hframe ⊢
      · split_ifs
        · exact List.forall_mem_singleton.2 hframe
        · exact List.forall_mem_cons.2 ⟨hframe, ih f.frameStart hrest hnext'⟩
      all_goals exact List.forall_mem_singleton.2 hframe
    · simpa using hstart
    · rw [if_neg hwait] at hrest
      exact List.forall_mem_cons.2 ⟨List.forall_mem_singleton.2 hstart, ih lastFrameEnd hrest hnext'⟩

/-- In range and with frame timeouts that are not negative, the loop never passes
guac_vnc_wait_for_messages a negative timeout. -/
theorem frameLoop_waits_nonneg (frameDuration frameTimeout frameStartTimeout lastFrameEnd : Int)
    (frames : List Frame) (htimeout : 0 ≤ frameTimeout) (hstart : 0 ≤ frameStartTimeout)
    (h : FramesInRange frameDuration frameTimeout lastFrameEnd frames) :
    ∀ timeouts ∈ (frameLoop frameStartTimeout (frameStep frameDuration frameTimeout) lastFrameEnd frames).1,
      ∀ t ∈ timeouts, 0 ≤ t := by
  rw [frameLoop_congr frameStep_eq_exact frameStartTimeout lastFrameEnd frames h]
  exact frameLoop_timeouts hstart lastFrameEnd frames h fun _ _ _ _ _ _ hw =>
    frameStepExact_wait_nonneg htimeout hw

theorem frameLoop_waits_nonneg_lagging :
    (0 : Int) ≤ 0 ∧ (0 : Int) ≤ 1000000 ∧
      FramesInRange 40 0 0 [⟨1, 500, 100, [⟨true, 100, 1⟩, ⟨true, 150, 0⟩]⟩] ∧
      ∀ timeouts ∈ (frameLoop 1000000 (frameStep 40 0) 0 [⟨1, 500, 100, [⟨true, 100, 1⟩, ⟨true, 150, 0⟩]⟩]).1,
        ∀ t ∈ timeouts, 0 ≤ t :=
  have h : FramesInRange 40 0 0 [⟨1, 500, 100, [⟨true, 100, 1⟩, ⟨true, 150, 0⟩]⟩] := by decide
  ⟨Int.le_refl 0, by decide, h, frameLoop_waits_nonneg 40 0 1000000 0 _ (Int.le_refl 0) (by decide) h⟩

/-- In range, the loop never waits longer than the wait for a frame's start, or than the largest
processing lag it read or the frame timeout: stretching a frame for lagging viewers never exceeds
the lag it compensates. -/
theorem frameLoop_waits_le_lag (frameDuration frameTimeout frameStartTimeout lastFrameEnd maxLag : Int)
    (frames : List Frame) (hlag : ∀ f ∈ frames, f.processingLag ≤ maxLag)
    (h : FramesInRange frameDuration frameTimeout lastFrameEnd frames) :
    ∀ timeouts ∈ (frameLoop frameStartTimeout (frameStep frameDuration frameTimeout) lastFrameEnd frames).1,
      ∀ t ∈ timeouts, t ≤ max (max maxLag frameTimeout * 1000) frameStartTimeout := by
  rw [frameLoop_congr frameStep_eq_exact frameStartTimeout lastFrameEnd frames h]
  refine frameLoop_timeouts ?_ lastFrameEnd frames h fun f hf last stop t hr hw => ?_
  · exact Int.le_max_right _ _
  · have hwait := frameStepExact_wait_le (Int.le_trans hr.clock.2.1 hr.clock.2.2) hw
    have := hlag f hf
    omega

theorem frameLoop_waits_le_lag_lagging :
    (∀ f ∈ [(⟨1, 500, 100, [⟨true, 100, 1⟩, ⟨true, 150, 0⟩]⟩ : Frame)], f.processingLag ≤ 500) ∧
      FramesInRange 40 0 0 [⟨1, 500, 100, [⟨true, 100, 1⟩, ⟨true, 150, 0⟩]⟩] ∧
      ∀ timeouts ∈ (frameLoop 1000000 (frameStep 40 0) 0 [⟨1, 500, 100, [⟨true, 100, 1⟩, ⟨true, 150, 0⟩]⟩]).1,
        ∀ t ∈ timeouts, t ≤ max (max 500 0 * 1000) 1000000 :=
  have hlag : ∀ f ∈ [(⟨1, 500, 100, [⟨true, 100, 1⟩, ⟨true, 150, 0⟩]⟩ : Frame)], f.processingLag ≤ 500 := by
    decide
  have h : FramesInRange 40 0 0 [⟨1, 500, 100, [⟨true, 100, 1⟩, ⟨true, 150, 0⟩]⟩] := by decide
  ⟨hlag, h, frameLoop_waits_le_lag 40 0 1000000 0 500 _ hlag h⟩

end OccamyVnc
