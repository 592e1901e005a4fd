import OccamyVnc.SessionSafety

/-!
# The lifecycle of the session and its abort status

guac_vnc_client_thread aborts the connection twice at most in its code: with UPSTREAM_NOT_FOUND
when the last connection attempt fails, before it creates the display, and with UPSTREAM_ERROR
when HandleRFBServerMessage fails in the message loop. In every interleaving with the users'
handlers: the status is UPSTREAM_NOT_FOUND exactly when the thread has ended without a display;
UPSTREAM_ERROR is reported only once the display exists; an aborted session is never running;
and a status once reported is never replaced.
-/

namespace OccamyVnc

/-- How the abort status, the thread and the display relate. -/
structure StatusInv (s : VncClient) : Prop where
  notFound : s.status = some .upstreamNotFound → s.thread = .finished ∧ s.display = none
  error : s.status = some .upstreamError → s.display.isSome = true
  stopped : s.status.isSome = true → s.running = false
  ended : s.thread = .finished → s.display = none → s.status = some .upstreamNotFound

theorem StatusInv.initial : StatusInv VncClient.initial where
  notFound h := by cases h
  error h := by cases h
  stopped h := by cases h
  ended h := by cases h

theorem StatusInv.status_none {s : VncClient} (hinv : SessionInv s) (hs : StatusInv s)
    (hbefore : s.thread.beforeDisplay = true) : s.status = none := by
  cases hst : s.status with
  | none => rfl
  | some st =>
    cases st with
    | upstreamNotFound => rw [(hs.notFound hst).1] at hbefore; cases hbefore
    | upstreamError =>
      have := hs.error hst
      rw [hinv.no_display hbefore] at this; cases this

/-- What one step does to the status: the invariant is kept and a reported status stays. -/
def StatusStep (s s' : VncClient) : Prop :=
  StatusInv s' ∧ ∀ st, s.status = some st → s'.status = some st

theorem StatusInv.frame {s s' : VncClient} (hs : StatusInv s) (hstatus : s'.status = s.status)
    (hthread : s'.thread = s.thread) (hdisplay : s'.display.isSome = s.display.isSome)
    (hrunning : s'.running = true → s.running = true) : StatusStep s s' := by
  have hnone : s'.display = none ↔ s.display = none := by
    simpa only [Option.isSome_iff_ne_none, ne_eq, not_iff_not] using Iff.of_eq (congrArg (· = true) hdisplay)
  refine ⟨⟨fun h => ?_, fun h => ?_, fun h => ?_, fun h hd => ?_⟩, fun st h => hstatus.trans h⟩
  · obtain ⟨h1, h2⟩ := hs.notFound (hstatus ▸ h); exact ⟨hthread.trans h1, hnone.mpr h2⟩
  · exact hdisplay.trans (hs.error (hstatus ▸ h))
  · cases hr : s'.running
    · rfl
    · rw [hs.stopped (hstatus ▸ h)] at hrunning; exact absurd (hrunning hr) fun h => by cases h
  · exact hstatus.trans (hs.ended (hthread ▸ h) (hnone.mp hd))

theorem StatusInv.advance {s s' : VncClient} (hinv : SessionInv s) (hs : StatusInv s)
    (hbefore : s.thread.beforeDisplay = true) (hstatus : s'.status = s.status)
    (hthread : s'.thread ≠ .finished) : StatusStep s s' := by
  have hnone := hs.status_none hinv hbefore
  rw [hnone] at hstatus
  refine ⟨⟨fun h => ?_, fun h => ?_, fun h => ?_, fun h => absurd h hthread⟩, fun st h => ?_⟩ <;>
    simp only [hstatus, hnone, reduceCtorEq, Option.isSome_none, Bool.false_eq_true] at h

section Thread

variable (order : ByteOrder)

theorem StatusInv.of_step {s s' : VncClient} {a : Action} (hinv : SessionInv s) (hs : StatusInv s)
    (h : step order s a = some (.ok s')) : StatusStep s s' := by
  have quiet : StatusStep s s := hs.frame rfl rfl rfl id
  cases a with
  | join user owner parsed threadCreated =>
    simp only [step] at h
    split at h <;> cases h
    rename_i henabled
    obtain ⟨settings, thread, users, heq, -, hthread, -⟩ :=
      guacVncUserJoinHandler_eq s user owner parsed threadCreated
    rw [heq]
    rcases hthread with rfl | ⟨rfl, rfl⟩
    · exact hs.frame rfl rfl rfl id
    · have hbefore := ThreadPc.beforeDisplay_of_isIdle
        (by simpa only [Bool.true_and, Bool.not_true, Bool.false_and, Bool.or_false] using henabled)
      exact hs.advance hinv hbefore rfl fun h => by cases h
  | leave user =>
    simp only [step] at h
    split at h <;> cases h
    rw [guacVncUserLeaveHandler_eq]
    exact hs.frame rfl rfl (by cases s.display <;> rfl) id
  | mouse user x y mask =>
    simp only [step] at h
    split at h
    · cases hd : s.display with
      | none => simp only [guacVncUserMouseHandler, deref, hd] at h; cases h
      | some d =>
        rw [guacVncUserMouseHandler_eq hd] at h; cases h
        exact hs.frame rfl rfl (by rw [hd]; rfl) id
    · cases h; exact quiet
  | key user keysym pressed =>
    simp only [step] at h
    split at h <;> cases h
    · unfold guacVncUserKeyHandler; split <;> exact hs.frame rfl rfl rfl id
    · exact quiet
  | stop => cases h; exact hs.frame rfl rfl rfl fun h => by cases h
  | attempt outcome =>
    obtain ⟨hbefore, n, rfl⟩ := step_attempt order hinv h
    exact hs.advance hinv hbefore rfl fun h => by cases h
  | proceed =>
    obtain ⟨c, r, hth, rfl⟩ | ⟨r, hth, rfl⟩ := step_proceed order h
    · exact hs.advance hinv (hth ▸ rfl) rfl fun h => by cases h
    · have hbefore : s.thread.beforeDisplay = true := hth ▸ rfl
      have hnone := hs.status_none hinv hbefore
      refine ⟨⟨fun _ => ⟨rfl, hinv.no_display hbefore⟩, (fun h => by cases h), fun _ => rfl, fun _ _ => rfl⟩,
        fun st h => ?_⟩
      rw [hnone] at h; cases h
  | storeClient =>
    obtain ⟨c, hth, rfl⟩ := step_storeClient order h
    exact hs.advance hinv (hth ▸ rfl) rfl fun h => by cases h
  | allocDisplay =>
    obtain ⟨c, settings, hth, -, rfl⟩ := step_allocDisplay order hinv h
    exact hs.advance hinv (hth ▸ rfl) rfl fun h => by cases h
  | message m =>
    obtain ⟨hth, -, hm⟩ := step_message order h
    obtain ⟨d, c, settings, hd, hc, hset, -⟩ := hinv.running_fields hth
    cases m
    case failure =>
      simp only [handleServerMessage] at hm; cases hm
      refine ⟨⟨(fun h => by cases h), (fun _ => by rw [hd]; rfl), fun _ => rfl, fun h => ?_⟩, fun st h => ?_⟩
      · rw [hth] at h; cases h
      · cases st
        · rw [(hs.notFound h).1] at hth; cases hth
        · rfl
    all_goals
      simp only [handleServerMessage, deref, hd, hc, hset, guacVncMallocFramebuffer] at hm
      cases hm
      exact hs.frame rfl rfl (by rw [hd]; rfl) id
  | flush =>
    obtain ⟨-, rfl⟩ := step_flush order hinv h
    exact quiet
  | exit =>
    obtain ⟨hth, -, rfl⟩ := step_exit order h
    have hd := hinv.running_display hth
    refine ⟨⟨fun h => ?_, hs.error, hs.stopped, fun _ h => ?_⟩, fun _ h => h⟩
    · rw [(hs.notFound h).1] at hth; cases hth
    · rw [h] at hd; cases hd

theorem StatusInv.of_run (as : List Action) :
    ∀ {s s' : VncClient}, SessionInv s → StatusInv s → run order s as = some (.ok s') → StatusStep s s' := by
  induction as with
  | nil => intro s s' _ hs h; cases h; exact ⟨hs, fun _ h => h⟩
  | cons a as ih =>
    intro s s' hinv hs h
    simp only [run] at h
    split at h
    · next s₁ h₁ =>
      obtain ⟨hs₁, hkeep₁⟩ := hs.of_step order hinv h₁
      obtain ⟨hs', hkeep⟩ := ih (step_outcome order hinv h₁) hs₁ h
      exact ⟨hs', fun st hst => hkeep st (hkeep₁ st hst)⟩
    · cases h
    · cases h

theorem reachable_statusInv {s : VncClient} (h : Reachable order s) : StatusInv s := by
  induction h with
  | initial => exact .initial
  | step hr hstep ih => exact (ih.of_step order (reachable_inv order hr) hstep).1

/-- In every reachable state: the status is UPSTREAM_NOT_FOUND exactly when the thread has ended
without a display; UPSTREAM_ERROR is reported only once the display exists; and an aborted
session is not running. -/
theorem reachable_status {s : VncClient} (h : Reachable order s) :
    (s.status = some .upstreamNotFound ↔ s.thread = .finished ∧ s.display = none) ∧
      (s.status = some .upstreamError → s.display.isSome = true) ∧
      (s.status.isSome = true → s.running = false) :=
  have hs := reachable_statusInv order h
  ⟨⟨hs.notFound, fun ⟨hth, hd⟩ => hs.ended hth hd⟩, hs.error, hs.stopped⟩

/-- In every interleaving, an abort status once reported is never replaced by another. -/
theorem run_status_final {s s' : VncClient} (hs : Reachable order s) (as : List Action)
    (h : run order s as = some (.ok s')) {st : Status} (hst : s.status = some st) : s'.status = some st :=
  ((reachable_statusInv order hs).of_run order as (reachable_inv order hs) h).2 st hst

end Thread

theorem reachable_status_not_found :
    ∃ s, (Reachable .littleEndian s ∧ s.status = some .upstreamNotFound) ∧
      (s.status = some .upstreamNotFound ↔ s.thread = .finished ∧ s.display = none) ∧
      (s.status = some .upstreamError → s.display.isSome = true) ∧
      (s.status.isSome = true → s.running = false) := by
  have h := Reachable.of_run .littleEndian
    [.join 0 true (some ⟨"localhost", 5900, none, 24, false, false, false, false, 5000, 0, none, 0, none, none⟩) true, .attempt none, .proceed] .initial rfl
  exact ⟨_, ⟨h, rfl⟩, reachable_status .littleEndian h⟩

theorem run_status_final_guest :
    let as : List Action := [.join 1 false (some ⟨"localhost", 5900, none, 24, false, false, false, false, 5000, 0, none, 0, none, none⟩) true, .key 1 65 true, .leave 1]
    ∃ s s', (Reachable .littleEndian s ∧ run .littleEndian s as = some (.ok s') ∧
        s.status = some .upstreamNotFound) ∧ s'.status = some .upstreamNotFound := by
  intro as
  have h := Reachable.of_run .littleEndian
    [.join 0 true (some ⟨"localhost", 5900, none, 24, false, false, false, false, 5000, 0, none, 0, none, none⟩) true, .attempt none, .proceed] .initial rfl
  exact ⟨_, _, ⟨h, rfl, rfl⟩, run_status_final .littleEndian h as (by exact rfl) (by exact rfl)⟩

end OccamyVnc
