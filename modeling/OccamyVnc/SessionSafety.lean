import OccamyVnc.Session

/-!
# Safety of the interleaved session

An invariant of every reachable state says which fields are set in each phase of the client
thread, that the default surface has the handle's size whenever the display exists, and that no
input event has gone upstream while the handle is NULL. From it: the surface size follows every
resize in every interleaving; and the only dereference of NULL in any interleaving is the mouse
handler's `vnc_client->display->cursor` before line 718, which every state before line 718 with
a user holding the input handlers can reach.
-/

namespace OccamyVnc

/-- The size of the default surface. -/
def Display.dims (d : Display) : Nat × Nat := (d.defaultSurface.width, d.defaultSurface.height)

theorem ThreadPc.beforeDisplay_of_isIdle {t : ThreadPc} (h : t.isIdle = true) :
    t.beforeDisplay = true := by
  cases t <;> first | rfl | cases h

/-- What holds in every reachable state. -/
structure SessionInv (s : VncClient) : Prop where
  settings_set : s.thread.isIdle = false → s.settings.isSome = true
  no_display : s.thread.beforeDisplay = true → s.display = none
  stored_client : ∀ c, s.thread = .stored c → s.rfbClient = some c
  running_display : s.thread = .running → s.display.isSome = true
  dims : ∀ d, s.display = some d → ∃ c, s.rfbClient = some c ∧ d.dims = (c.width, c.height)
  no_events : s.rfbClient = none → s.upstream = []

theorem SessionInv.initial : SessionInv VncClient.initial where
  settings_set h := by cases h
  no_display _ := rfl
  stored_client _ h := by cases h
  running_display h := by cases h
  dims _ h := by cases h
  no_events _ := rfl

theorem SessionInv.settings_some {s : VncClient} (hinv : SessionInv s) (h : s.thread.isIdle = false) :
    ∃ settings, s.settings = some settings :=
  Option.isSome_iff_exists.mp (hinv.settings_set h)

/-- `s'` keeps what the invariant reads of `s`: the thread, the settings, the handle, the size of
the display, and, while the handle is NULL, the events sent upstream. -/
structure SameShape (s s' : VncClient) : Prop where
  thread : s'.thread = s.thread
  settings : s'.settings = s.settings
  rfbClient : s'.rfbClient = s.rfbClient
  display : s'.display.map Display.dims = s.display.map Display.dims
  upstream : s'.rfbClient = none → s'.upstream = s.upstream

theorem SessionInv.frame {s s' : VncClient} (hinv : SessionInv s) (h : SameShape s s') :
    SessionInv s' where
  settings_set hidle := h.settings ▸ hinv.settings_set (h.thread ▸ hidle)
  no_display hbefore := Option.map_eq_none'.mp
    (h.display.trans (congrArg (Option.map Display.dims) (hinv.no_display (h.thread ▸ hbefore))))
  stored_client c hc := h.rfbClient ▸ hinv.stored_client c (h.thread ▸ hc)
  running_display hrun := by
    simpa only [Option.isSome_map'] using (congrArg Option.isSome h.display).trans
      (by simpa only [Option.isSome_map'] using hinv.running_display (h.thread ▸ hrun))
  dims d hd := by
    obtain ⟨d₀, hd₀, hdims⟩ :=
      Option.map_eq_some'.mp (h.display.symm.trans (congrArg (Option.map Display.dims) hd))
    obtain ⟨c, hc, hcd⟩ := hinv.dims d₀ hd₀
    exact ⟨c, h.rfbClient ▸ hc, hdims ▸ hcd⟩
  no_events hc := (h.upstream hc).trans (hinv.no_events (h.rfbClient ▸ hc))

theorem SessionInv.of_beforeDisplay {s : VncClient} (hbefore : s.thread.beforeDisplay = true)
    (hsettings : s.settings.isSome = true) (hdisplay : s.display = none)
    (hstored : ∀ c, s.thread = .stored c → s.rfbClient = some c)
    (hevents : s.rfbClient = none → s.upstream = []) : SessionInv s where
  settings_set _ := hsettings
  no_display _ := hdisplay
  stored_client := hstored
  running_display h := by rw [h] at hbefore; cases hbefore
  dims _ h := by rw [hdisplay] at h; cases h
  no_events := hevents

theorem SessionInv.of_running {s : VncClient} (hthread : s.thread = .running)
    (hsettings : s.settings.isSome = true) (d : Display) (c : RfbClient)
    (hd : s.display = some d) (hc : s.rfbClient = some c) (hdims : d.dims = (c.width, c.height)) :
    SessionInv s where
  settings_set _ := hsettings
  no_display h := by rw [hthread] at h; cases h
  stored_client _ h := by rw [hthread] at h; cases h
  running_display _ := hd ▸ rfl
  dims d' hd' := ⟨c, hc, by rw [hd] at hd'; cases hd'; exact hdims⟩
  no_events h := by rw [hc] at h; cases h

theorem SessionInv.finished {s s' : VncClient} (hinv : SessionInv s) (hidle : s.thread.isIdle = false)
    (hthread : s'.thread = .finished) (hsettings : s'.settings = s.settings)
    (hclient : s'.rfbClient = s.rfbClient) (hdisplay : s'.display = s.display)
    (hupstream : s'.upstream = s.upstream) : SessionInv s' where
  settings_set _ := hsettings ▸ hinv.settings_set hidle
  no_display h := by rw [hthread] at h; cases h
  stored_client _ h := by rw [hthread] at h; cases h
  running_display h := by rw [hthread] at h; cases h
  dims d hd := hclient ▸ hinv.dims d (hdisplay ▸ hd)
  no_events h := hupstream ▸ hinv.no_events (hclient ▸ h)

/-! ### The user handlers -/

theorem joinHandler_inv {s : VncClient} (hinv : SessionInv s) (user : Nat) (owner : Bool)
    (parsed : Option Settings) (threadCreated : Bool) (hidle : owner = true → s.thread.isIdle = true) :
    SessionInv (guacVncUserJoinHandler s user owner parsed threadCreated).1 := by
  unfold guacVncUserJoinHandler
  cases parsed with
  | none => exact hinv
  | some settings =>
    cases owner with
    | false => exact hinv.frame ⟨rfl, rfl, rfl, rfl, fun _ => rfl⟩
    | true =>
      have hnone := hinv.no_display (ThreadPc.beforeDisplay_of_isIdle (hidle rfl))
      cases threadCreated with
      | true => exact .of_beforeDisplay rfl rfl hnone (fun _ h => by cases h) hinv.no_events
      | false => exact { hinv with settings_set := fun _ => rfl }

theorem guacVncUserMouseHandler_error {s : VncClient} {user : Nat} {x y mask : Int} {f : Fault}
    (h : guacVncUserMouseHandler s user x y mask = .error f) : s.display = none ∧ f = .nullDisplay := by
  cases hd : s.display with
  | none => simp only [guacVncUserMouseHandler, deref, hd] at h; exact ⟨rfl, (Except.error.inj h).symm⟩
  | some d =>
    cases hc : s.rfbClient <;> simp only [guacVncUserMouseHandler, deref, hd, hc] at h <;> cases h

theorem guacVncUserMouseHandler_shape {s s' : VncClient} {user : Nat} {x y mask : Int}
    (h : guacVncUserMouseHandler s user x y mask = .ok s') : SameShape s s' := by
  cases hd : s.display with
  | none => simp only [guacVncUserMouseHandler, deref, hd] at h; cases h
  | some d =>
    cases hc : s.rfbClient <;> simp only [guacVncUserMouseHandler, deref, hd, hc] at h <;> cases h <;>
      exact ⟨rfl, rfl, hc.symm, by rw [hd]; rfl, fun h => by first | rfl | cases h⟩

theorem guacVncUserKeyHandler_shape (s : VncClient) (keysym : Int) (pressed : Bool) :
    SameShape s (guacVncUserKeyHandler s keysym pressed) := by
  unfold guacVncUserKeyHandler
  split
  · next c hc => exact ⟨rfl, rfl, rfl, rfl, fun h => by rw [hc] at h; cases h⟩
  · exact ⟨rfl, rfl, rfl, rfl, fun _ => rfl⟩

theorem guacVncUserLeaveHandler_shape (s : VncClient) (user : Nat) :
    SameShape s (guacVncUserLeaveHandler s user) := by
  unfold guacVncUserLeaveHandler
  split
  · next d hd => exact ⟨rfl, rfl, rfl, by rw [hd]; rfl, fun _ => rfl⟩
  · exact ⟨rfl, rfl, rfl, rfl, fun _ => rfl⟩

theorem hasHandlers_append (s : VncClient) (joined : User) {u : Nat} (h : s.hasHandlers u = true) :
    { s with users := s.users ++ [joined] }.hasHandlers u = true := by
  simp only [VncClient.hasHandlers, List.any_append, Bool.or_eq_true] at h ⊢
  exact .inl h

theorem guacVncUserJoinHandler_eq (s : VncClient) (user : Nat) (owner : Bool) (parsed : Option Settings)
    (threadCreated : Bool) :
    ∃ settings thread users, (guacVncUserJoinHandler s user owner parsed threadCreated).1 =
        { s with settings := settings, thread := thread, users := users } ∧
      (owner = false → settings = s.settings) ∧ (thread = s.thread ∨ owner = true ∧ thread = .started) ∧
      ∀ u, s.hasHandlers u = true → (users.any fun x => x.id = u && x.handlers) = true := by
  unfold guacVncUserJoinHandler
  cases parsed with
  | none => exact ⟨s.settings, s.thread, s.users, rfl, fun _ => rfl, .inl rfl, fun _ h => h⟩
  | some settings =>
    cases owner with
    | false => exact ⟨s.settings, s.thread, _, rfl, fun _ => rfl, .inl rfl, fun _ => hasHandlers_append s _⟩
    | true =>
      cases threadCreated with
      | true => exact ⟨some settings, .started, _, rfl, (fun h => by cases h), .inr ⟨rfl, rfl⟩,
          fun _ => hasHandlers_append s _⟩
      | false => exact ⟨some settings, s.thread, s.users, rfl, (fun h => by cases h), .inl rfl, fun _ h => h⟩

theorem guacVncUserLeaveHandler_eq (s : VncClient) (user : Nat) :
    guacVncUserLeaveHandler s user =
      { s with
        display := s.display.map fun d => { d with cursor := d.cursor.removeUser user }
        users := s.users.filter fun u => u.id ≠ user } := by
  unfold guacVncUserLeaveHandler
  cases hd : s.display <;> simp only [hd, Option.map_none', Option.map_some']

theorem guacVncUserMouseHandler_eq {s : VncClient} {d : Display} (hd : s.display = some d)
    (user : Nat) (x y mask : Int) :
    guacVncUserMouseHandler s user x y mask =
      .ok { s with
        display := some { d with cursor := d.cursor.update user x y mask }
        upstream := s.upstream ++ (s.rfbClient.map fun _ => RfbEvent.pointer x y mask).toList } := by
  cases hc : s.rfbClient <;>
    simp only [guacVncUserMouseHandler, deref, hd, hc, Option.map_none', Option.map_some', Option.toList,
      List.append_nil] <;> rfl

/-! ### The client thread -/

theorem connectAttempt_of_no_display {s : VncClient} (h : s.display = none) (outcome : Option RfbClient) :
    connectAttempt s outcome = s := by
  cases outcome with
  | none => rfl
  | some c => simp only [connectAttempt, guacVncMallocFramebuffer, h]

theorem SessionInv.connecting {s : VncClient} (hinv : SessionInv s) (hidle : s.thread.isIdle = false)
    (hbefore : s.thread.beforeDisplay = true) (outcome : Option RfbClient) (retriesRemaining : Int) :
    SessionInv { connectAttempt s outcome with thread := .connecting outcome retriesRemaining } := by
  rw [connectAttempt_of_no_display (hinv.no_display hbefore)]
  exact .of_beforeDisplay rfl (hinv.settings_set hidle) (hinv.no_display hbefore) (fun _ h => by cases h)
    hinv.no_events

theorem allocDisplay_dims (settings : Settings) (c : RfbClient) :
    (allocDisplay settings c).dims = (c.width, c.height) := by
  unfold allocDisplay; split_ifs <;> rfl

theorem guacVncUpdate_dims (order : ByteOrder) (swapRedBlue : Bool) (ds : DrawState) (r : Rect) :
    (guacVncUpdate order swapRedBlue ds r).surface.width = ds.surface.width ∧
      (guacVncUpdate order swapRedBlue ds r).surface.height = ds.surface.height := by
  unfold guacVncUpdate; split <;> exact ⟨rfl, rfl⟩

theorem handleRect_dims (order : ByteOrder) (swapRedBlue : Bool) (ds : DrawState) (m : RectMessage) :
    (handleRect order swapRedBlue ds m).surface.width = ds.surface.width ∧
      (handleRect order swapRedBlue ds m).surface.height = ds.surface.height := by
  cases m with
  | decoded r pixels => exact guacVncUpdate_dims _ _ _ r
  | copyRect srcX srcY r => exact guacVncUpdate_dims _ _ _ r

theorem SessionInv.running_fields {s : VncClient} (hinv : SessionInv s) (hrun : s.thread = .running) :
    ∃ d c settings, s.display = some d ∧ s.rfbClient = some c ∧ s.settings = some settings ∧
      d.dims = (c.width, c.height) := by
  obtain ⟨d, hd⟩ := Option.isSome_iff_exists.mp (hinv.running_display hrun)
  obtain ⟨c, hc, hdims⟩ := hinv.dims d hd
  obtain ⟨settings, hs⟩ := hinv.settings_some (hrun ▸ rfl)
  exact ⟨d, c, settings, hd, hc, hs, hdims⟩

/-- What an action does from a state of the invariant: the state it leaves satisfies the
invariant, and a fault is a mouse event on a NULL display. -/
def StepOutcome (s : VncClient) (a : Action) : Except Fault VncClient → Prop
  | .ok s' => SessionInv s'
  | .error f => (∃ user x y mask, a = .mouse user x y mask) ∧ s.display = none ∧ f = .nullDisplay

section Thread

variable (order : ByteOrder)

theorem handleServerMessage_inv {s s' : VncClient} (hinv : SessionInv s) (hrun : s.thread = .running)
    (m : ServerMessage) (h : handleServerMessage order s m = .ok s') : SessionInv s' := by
  obtain ⟨d, c, settings, hd, hc, hs, hdims⟩ := hinv.running_fields hrun
  cases m with
  | rect m =>
    simp only [handleServerMessage, deref, hd, hc, hs] at h; cases h
    obtain ⟨hw, hh⟩ := handleRect_dims order settings.swapRedBlue ⟨c.framebuffer, d.defaultSurface, s.copyRectUsed⟩ m
    exact .of_running hrun rfl _ _ rfl rfl (by simp only [Display.dims, hw, hh]; exact hdims)
  | resize w h' =>
    simp only [handleServerMessage, deref, hc, guacVncMallocFramebuffer, hd] at h; cases h
    exact .of_running hrun (hs ▸ rfl) _ _ rfl rfl rfl
  | cursorShape hotspotX hotspotY w h' bpp rcSource rcMask =>
    simp only [handleServerMessage, deref, hd, hc, hs] at h; cases h
    exact .of_running hrun rfl _ _ rfl rfl hdims
  | failure =>
    simp only [handleServerMessage] at h; cases h
    exact .of_running hrun (hs ▸ rfl) _ _ hd hc hdims

theorem handleServerMessage_ok {s : VncClient} (hinv : SessionInv s) (hrun : s.thread = .running)
    (m : ServerMessage) (f : Fault) : handleServerMessage order s m ≠ .error f := by
  obtain ⟨d, c, settings, hd, hc, hs, -⟩ := hinv.running_fields hrun
  cases m <;> simp only [handleServerMessage, deref, hd, hc, hs] <;> intro h <;> cases h

theorem step_outcome {s : VncClient} {a : Action} {r : Except Fault VncClient} (hinv : SessionInv s)
    (h : step order s a = some r) : StepOutcome s a r := by
  cases a with
  | join user owner parsed threadCreated =>
    simp only [step] at h
    split at h <;> cases h
    rename_i henabled
    refine joinHandler_inv hinv user owner parsed threadCreated fun ho => ?_
    simpa only [ho, Bool.true_and, Bool.not_true, Bool.false_and, Bool.or_false] using henabled
  | leave user =>
    simp only [step] at h
    split at h <;> cases h
    exact hinv.frame (guacVncUserLeaveHandler_shape s user)
  | mouse user x y mask =>
    simp only [step] at h
    split at h
    · cases h
      cases hm : guacVncUserMouseHandler s user x y mask with
      | ok s' => exact hinv.frame (guacVncUserMouseHandler_shape hm)
      | error f => exact ⟨⟨user, x, y, mask, rfl⟩, guacVncUserMouseHandler_error hm⟩
    · cases h; exact hinv
  | key user keysym pressed =>
    simp only [step] at h
    split at h <;> cases h
    · exact hinv.frame (guacVncUserKeyHandler_shape s keysym pressed)
    · exact hinv
  | stop => cases h; exact hinv.frame ⟨rfl, rfl, rfl, rfl, fun _ => rfl⟩
  | attempt outcome =>
    cases hth : s.thread <;> simp only [step, hth, reduceCtorEq] at h
    case started =>
      obtain ⟨settings, hs⟩ := hinv.settings_some (hth ▸ rfl)
      simp only [deref, hs] at h; cases h
      exact hinv.connecting (hth ▸ rfl) (hth ▸ rfl) outcome _
    case connecting last retriesRemaining =>
      cases last <;> simp only [reduceCtorEq] at h
      split at h <;> cases h
      exact hinv.connecting (hth ▸ rfl) (hth ▸ rfl) outcome _
  | proceed =>
    cases hth : s.thread <;> simp only [step, hth, reduceCtorEq] at h
    case connecting last retriesRemaining =>
      cases last <;> simp only at h
      case some c =>
        cases h
        exact .of_beforeDisplay rfl (hinv.settings_set (hth ▸ rfl)) (hinv.no_display (hth ▸ rfl))
          (fun _ h => by cases h) hinv.no_events
      case none =>
        split at h <;> cases h
        exact hinv.finished (hth ▸ rfl) rfl rfl rfl rfl rfl
  | storeClient =>
    cases hth : s.thread <;> simp only [step, hth, reduceCtorEq] at h
    case connected c =>
      cases h
      exact .of_beforeDisplay rfl (hinv.settings_set (hth ▸ rfl)) (hinv.no_display (hth ▸ rfl))
        (fun _ h => by cases h; rfl) fun h => by cases h
  | allocDisplay =>
    cases hth : s.thread <;> simp only [step, hth, reduceCtorEq] at h
    case stored c =>
      obtain ⟨settings, hs⟩ := hinv.settings_some (hth ▸ rfl)
      simp only [deref, hs] at h; cases h
      exact .of_running rfl rfl _ c rfl (hinv.stored_client c hth) (allocDisplay_dims settings c)
  | message m =>
    cases hth : s.thread <;> simp only [step, hth, reduceCtorEq] at h
    case running =>
      split at h <;> cases h
      cases hm : handleServerMessage order s m with
      | ok s' => exact handleServerMessage_inv order hinv hth m hm
      | error f => exact absurd hm (handleServerMessage_ok order hinv hth m f)
  | flush =>
    cases hth : s.thread <;> simp only [step, hth, reduceCtorEq] at h
    case running =>
      obtain ⟨d, hd⟩ := Option.isSome_iff_exists.mp (hinv.running_display hth)
      simp only [deref, hd] at h; cases h
      exact hinv
  | exit =>
    cases hth : s.thread <;> simp only [step, hth, reduceCtorEq] at h
    case running =>
      split at h <;> cases h
      exact hinv.finished (hth ▸ rfl) rfl rfl rfl rfl rfl

/-! ### What each of the thread's actions does -/

theorem step_attempt {s s' : VncClient} {outcome : Option RfbClient} (hinv : SessionInv s)
    (h : step order s (.attempt outcome) = some (.ok s')) :
    s.thread.beforeDisplay = true ∧ ∃ n, s' = { s with thread := .connecting outcome n } := by
  cases hth : s.thread <;> simp only [step, hth, reduceCtorEq] at h
  case started =>
    obtain ⟨settings, hs⟩ := hinv.settings_some (hth ▸ rfl)
    simp only [deref, hs] at h; cases h
    exact ⟨rfl, settings.retries, by rw [connectAttempt_of_no_display (hinv.no_display (hth ▸ rfl))]⟩
  case connecting last retriesRemaining =>
    cases last <;> simp only [reduceCtorEq] at h
    split at h <;> cases h
    exact ⟨rfl, retriesRemaining - 1, by rw [connectAttempt_of_no_display (hinv.no_display (hth ▸ rfl))]⟩

theorem step_proceed {s s' : VncClient} (h : step order s .proceed = some (.ok s')) :
    (∃ c r, s.thread = .connecting (some c) r ∧ s' = { s with thread := .connected c }) ∨
      ∃ r, s.thread = .connecting none r ∧
        s' = { s with thread := .finished, status := some .upstreamNotFound, running := false } := by
  cases hth : s.thread <;> simp only [step, hth, reduceCtorEq] at h
  case connecting last retriesRemaining =>
    cases last <;> simp only at h
    case some c => cases h; exact .inl ⟨c, retriesRemaining, rfl, rfl⟩
    case none => split at h <;> cases h; exact .inr ⟨retriesRemaining, rfl, rfl⟩

theorem step_storeClient {s s' : VncClient} (h : step order s .storeClient = some (.ok s')) :
    ∃ c, s.thread = .connected c ∧ s' = { s with rfbClient := some c, thread := .stored c } := by
  cases hth : s.thread <;> simp only [step, hth, reduceCtorEq] at h
  case connected c => cases h; exact ⟨c, rfl, rfl⟩

theorem step_allocDisplay {s s' : VncClient} (hinv : SessionInv s) (h : step order s .allocDisplay = some (.ok s')) :
    ∃ c settings, s.thread = .stored c ∧ s.settings = some settings ∧
      s' = { s with display := some (allocDisplay settings c), thread := .running } := by
  cases hth : s.thread <;> simp only [step, hth, reduceCtorEq] at h
  case stored c =>
    obtain ⟨settings, hs⟩ := hinv.settings_some (hth ▸ rfl)
    simp only [deref, hs] at h; cases h
    exact ⟨c, settings, rfl, hs, by rw [hs]⟩

theorem step_message {s s' : VncClient} {m : ServerMessage} (h : step order s (.message m) = some (.ok s')) :
    s.thread = .running ∧ m.delivered s = true ∧ handleServerMessage order s m = .ok s' := by
  cases hth : s.thread <;> simp only [step, hth, reduceCtorEq] at h
  case running =>
    split at h
    · exact ⟨rfl, ‹_›, Option.some.inj h⟩
    · cases h

theorem step_flush {s s' : VncClient} (hinv : SessionInv s) (h : step order s .flush = some (.ok s')) :
    s.thread = .running ∧ s' = s := by
  cases hth : s.thread <;> simp only [step, hth, reduceCtorEq] at h
  case running =>
    obtain ⟨d, hd⟩ := Option.isSome_iff_exists.mp (hinv.running_display hth)
    simp only [deref, hd] at h; cases h
    exact ⟨rfl, rfl⟩

theorem step_exit {s s' : VncClient} (h : step order s .exit = some (.ok s')) :
    s.thread = .running ∧ s.running = false ∧ s' = { s with thread := .finished } := by
  cases hth : s.thread <;> simp only [step, hth, reduceCtorEq] at h
  case running =>
    split at h <;> cases h
    exact ⟨rfl, by simpa only [Bool.not_eq_true] using ‹¬s.running = true›, rfl⟩

theorem reachable_inv {s : VncClient} (h : Reachable order s) : SessionInv s := by
  induction h with
  | initial => exact .initial
  | step _ hstep ih => exact step_outcome order ih hstep

theorem Reachable.of_run (as : List Action) {s s' : VncClient} (hs : Reachable order s)
    (h : run order s as = some (.ok s')) : Reachable order s' := by
  induction as generalizing s with
  | nil => cases h; exact hs
  | cons a as ih =>
    simp only [run] at h
    split at h
    · next s₁ h₁ => exact ih (.step hs h₁) h
    · cases h
    · cases h

/-- Whenever the display exists, in every interleaving and between any two actions, the default
surface has the size of `rfb_client`. -/
theorem reachable_surface_dims {s : VncClient} (h : Reachable order s) (d : Display)
    (hd : s.display = some d) :
    ∃ c, s.rfbClient = some c ∧ d.defaultSurface.width = c.width ∧ d.defaultSurface.height = c.height := by
  obtain ⟨c, hc, hdims⟩ := (reachable_inv order h).dims d hd
  exact ⟨c, hc, Prod.ext_iff.mp hdims⟩

theorem reachable_surface_dims_after_resize :
    ∃ s d, Reachable .littleEndian s ∧ s.display = some d ∧
      ∃ c, s.rfbClient = some c ∧ d.defaultSurface.width = c.width ∧ d.defaultSurface.height = c.height := by
  have h := Reachable.of_run .littleEndian
    [.join 0 true (some ⟨"localhost", 5900, none, 24, false, false, false, false, 5000, 5, none, 0, none, none⟩) true,
      .attempt none,
      .attempt (some ⟨1024, 768, ⟨32, 24, 1, 255, 255, 255, 16, 8, 0⟩, fun _ => 0⟩),
      .proceed, .storeClient, .allocDisplay, .message (.resize 800 600)] .initial rfl
  exact ⟨_, _, h, rfl, reachable_surface_dims .littleEndian h _ rfl⟩

/-- No input event reaches the server before the handle is stored, in any interleaving: the
handlers send only through a non-NULL `rfb_client`, and a key event then changes nothing. -/
theorem reachable_no_events {s : VncClient} (h : Reachable order s) (hc : s.rfbClient = none) :
    s.upstream = [] ∧ ∀ user keysym pressed, step order s (.key user keysym pressed) = some (.ok s) := by
  refine ⟨(reachable_inv order h).no_events hc, fun user keysym pressed => ?_⟩
  simp only [step, guacVncUserKeyHandler, hc]
  split <;> rfl

/-- guac_vnc_user_mouse_handler reads `vnc_client->display->cursor` before it looks at
`rfb_client`: in every reachable state before line 718, a mouse event from a user with the input
handlers dereferences the NULL display. -/
theorem mouse_faults_before_display {s : VncClient} (h : Reachable order s)
    (hbefore : s.thread.beforeDisplay = true) (user : Nat) (huser : s.hasHandlers user = true)
    (x y mask : Int) : step order s (.mouse user x y mask) = some (.error .nullDisplay) := by
  simp only [step, huser, if_true, guacVncUserMouseHandler, deref, (reachable_inv order h).no_display hbefore]
  rfl

end Thread

theorem reachable_no_events_owner :
    ∃ s, (Reachable .littleEndian s ∧ s.rfbClient = none) ∧
      (s.upstream = [] ∧ ∀ user keysym pressed, step .littleEndian s (.key user keysym pressed) = some (.ok s)) := by
  have h := Reachable.of_run .littleEndian
    [.join 0 true (some ⟨"localhost", 5900, none, 24, false, false, false, false, 5000, 5, none, 0, none, none⟩) true,
      .key 0 65 true, .attempt none] .initial rfl
  exact ⟨_, ⟨h, rfl⟩, reachable_no_events .littleEndian h rfl⟩

theorem mouse_faults_before_display_owner :
    ∃ s, (Reachable .littleEndian s ∧ s.thread.beforeDisplay = true ∧ s.hasHandlers 0 = true) ∧
      step .littleEndian s (.mouse 0 0 0 0) = some (.error .nullDisplay) := by
  have h := Reachable.of_run .littleEndian
    [.join 0 true (some ⟨"localhost", 5900, none, 24, false, false, false, false, 5000, 5, none, 0, none, none⟩) true, .attempt none] .initial rfl
  exact ⟨_, ⟨h, rfl, rfl⟩, mouse_faults_before_display .littleEndian h rfl 0 rfl 0 0 0⟩

end OccamyVnc
