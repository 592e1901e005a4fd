import OccamyVnc.SessionSafety

/-!
# The shared display and the input path in every interleaving

The viewers see the server's framebuffer through the default surface, and the server receives
the viewers' input through `rfb_client`. Over every interleaving of the users' handler calls with
the steps of the client thread, from the session's creation on: the default surface has received
one operation per rectangle and per new framebuffer size the server sent, in order, and no other;
while every framebuffer stays below the 4 GiB that guac_vnc_update's offsets reach, it shows, at
every pixel a rectangle defined and no new size dropped, the translation of the server's current
pixel; the server receives the viewers' events in the order they were sent, none invented or
repeated; and the shared cursor never belongs to a user who has left or holds no input handlers.

`Consistent` states all of it for the history of a run; `Consistent.of_step` proves it kept by one
action, with one case per action, and `run_consistent` lifts it to every run.
-/

namespace OccamyVnc

/-- The surface operations a server message causes: one draw or copy per rectangle, one resize per
new framebuffer size. -/
def ServerMessage.surfaceOps : ServerMessage → List SurfaceOp
  | .rect m => [m.op]
  | .resize w h => [.resize w h]
  | .cursorShape .. => []
  | .failure => []

/-- The surface operations an action causes. -/
def Action.surfaceOps : Action → List SurfaceOp
  | .message m => m.surfaceOps
  | _ => []

/-- The message of an action that changes the framebuffer: a rectangle or a new size. -/
def Action.framebufferMessage : Action → Option ServerMessage
  | .message (.rect m) => some (.rect m)
  | .message (.resize w h) => some (.resize w h)
  | _ => none

/-- The input event a handler call asks to send. -/
def Action.inputEvent : Action → Option RfbEvent
  | .mouse _ x y mask => some (.pointer x y mask)
  | .key _ keysym pressed => some (.key keysym pressed)
  | _ => none

/-- The rectangles and new sizes a history delivered, in order. -/
def framebufferMessages (as : List Action) : List ServerMessage :=
  as.filterMap Action.framebufferMessage

/-- The server's framebuffer of `bpp`-byte pixel values after a message: a rectangle changes it,
a new size does not. -/
def serverAfter (bpp : Nat) (server : Pixmap) : ServerMessage → Pixmap
  | .rect m => serverRect bpp server m
  | _ => server

/-- The pixels defined after a message: a rectangle defines them as `trackRect` says, and a new
size drops those outside it, as the surface's resize does. -/
def trackAfter (tracked : Nat × Nat → Bool) : ServerMessage → Nat × Nat → Bool
  | .rect m => trackRect tracked m
  | .resize w h => fun p => tracked p && decide (p.1 < w ∧ p.2 < h)
  | _ => tracked

/-- The handle the client thread holds before it is stored in `vnc_client->rfb_client`. -/
def ThreadPc.client : ThreadPc → Option RfbClient
  | .connecting c _ => c
  | .connected c => some c
  | .stored c => some c
  | _ => none

/-- The session holds the handle `c`: stored, or in the client thread's hands. -/
def VncClient.Holds (s : VncClient) (c : RfbClient) : Prop :=
  s.rfbClient = some c ∨ s.thread.client = some c

/-- The framebuffer sizes an action announces are ones guac_vnc_update addresses without a wrapped
offset: a handle an attempt returns is `Small`, and a new size has fewer than `2^30` pixels, under
4 GiB at the 4 bytes per pixel of the widest format. -/
def Action.Small : Action → Prop
  | .attempt (some c) => c.framebuffer.Small
  | .message (.resize w h) => 4 * w * h < 2 ^ 32
  | _ => True

instance (a : Action) : Decidable a.Small :=
  match a with
  | .attempt (some c) => inferInstanceAs (Decidable c.framebuffer.Small)
  | .message (.resize w h) => inferInstanceAs (Decidable (4 * w * h < 2 ^ 32))
  | .attempt none | .message (.rect _) | .message (.cursorShape ..) | .message .failure | .join .. | .leave _
  | .mouse .. | .key .. | .stop | .proceed | .storeClient | .allocDisplay | .flush | .exit => isTrue trivial

/-- The shared cursor belongs to no one, or to a connected user with the input handlers. -/
def CursorOwned (s : VncClient) : Prop :=
  ∀ d u, s.display = some d → d.cursor.user = some u → s.hasHandlers u = true

/-- What a run from the session's creation keeps, for the history `as` of its actions and any
content `server` of the server's framebuffer before the first rectangle. The handles and the
agreement are stated for histories whose sizes are all `Small`. -/
structure Consistent (server : Pixmap) (as : List Action) (s : VncClient) : Prop where
  flag : s.copyRectUsed = false
  blank : s.display = none → framebufferMessages as = [] ∧ as.flatMap Action.surfaceOps = []
  ops : ∀ d, s.display = some d → d.defaultSurface.ops = as.flatMap Action.surfaceOps
  small : (∀ a ∈ as, a.Small) → ∀ c, s.Holds c → c.framebuffer.Small
  agrees : (∀ a ∈ as, a.Small) → ∀ d c settings, s.display = some d → s.rfbClient = some c →
    s.settings = some settings →
    Agrees c.format settings.swapRedBlue
      ((framebufferMessages as).foldl (serverAfter c.format.bytesPerPixel) server) d.defaultSurface
      ((framebufferMessages as).foldl trackAfter fun _ => false)
  sent : s.upstream.Sublist (as.filterMap Action.inputEvent)
  cursor : CursorOwned s

theorem filterMap_append_single {α β : Type} (f : α → Option β) (as : List α) (a : α) :
    (as ++ [a]).filterMap f = as.filterMap f ++ (f a).toList := by
  cases h : f a <;> simp [h]

theorem framebufferMessages_append_single (as : List Action) (a : Action) :
    framebufferMessages (as ++ [a]) = framebufferMessages as ++ a.framebufferMessage.toList :=
  filterMap_append_single _ _ _

theorem VncClient.Holds.of_same {s s' : VncClient} {c : RfbClient} (h : s'.Holds c)
    (hclient : s'.rfbClient = s.rfbClient)
    (hthread : s'.thread.client = none ∨ s'.thread.client = s.thread.client) : s.Holds c := by
  rcases h with h | h
  · exact .inl (hclient ▸ h)
  · rcases hthread with ht | ht
    · rw [ht] at h; cases h
    · exact .inr (ht ▸ h)

theorem VncClient.Holds.of_running {s : VncClient} {c : RfbClient} (h : s.Holds c)
    (hrun : s.thread = .running) : s.rfbClient = some c :=
  h.resolve_right fun h' => by rw [hrun] at h'; cases h'

theorem Consistent.initial (server : Pixmap) : Consistent server [] VncClient.initial where
  flag := rfl
  blank _ := ⟨rfl, rfl⟩
  ops _ h := by cases h
  small _ _ h := by rcases h with h | h <;> cases h
  agrees _ _ _ _ h := by cases h
  sent := List.Sublist.slnil
  cursor _ _ h := by cases h

/-! ### The handlers' effect on users and the cursor -/

theorem hasHandlers_filter (s : VncClient) {user u : Nat} (hne : u ≠ user) (h : s.hasHandlers u = true) :
    { s with users := s.users.filter fun x => x.id ≠ user }.hasHandlers u = true := by
  obtain ⟨x, hx, hxu⟩ := List.any_eq_true.mp h
  refine List.any_eq_true.mpr ⟨x, List.mem_filter.mpr ⟨hx, ?_⟩, hxu⟩
  simp only [Bool.and_eq_true, decide_eq_true_eq] at hxu
  simpa only [decide_eq_true_eq, hxu.1] using hne

theorem CursorOwned.frame {s s' : VncClient} (hc : CursorOwned s)
    (huser : s'.display.map (·.cursor.user) = s.display.map (·.cursor.user))
    (hhandlers : ∀ u, s.hasHandlers u = true → s'.hasHandlers u = true) : CursorOwned s' := by
  intro d' u hd' hu
  obtain ⟨d, hd, hdu⟩ := Option.map_eq_some'.mp (huser.symm.trans (by rw [hd']; exact congrArg some hu))
  exact hhandlers u (hc d u hd hdu)

theorem CursorOwned.leave {s : VncClient} (hc : CursorOwned s) (user : Nat) :
    CursorOwned (guacVncUserLeaveHandler s user) := by
  rw [guacVncUserLeaveHandler_eq]
  intro d' u hd' hu
  obtain ⟨d, hd, rfl⟩ := Option.map_eq_some'.mp hd'
  by_cases howner : d.cursor.user = some user
  · simp only [Cursor.removeUser, howner, if_true, reduceCtorEq] at hu
  · simp only [Cursor.removeUser, howner, if_false] at hu
    exact hasHandlers_filter s (fun e => howner (e ▸ hu)) (hc d u hd hu)

theorem allocDisplay_defaultSurface (settings : Settings) (c : RfbClient) :
    (allocDisplay settings c).defaultSurface = (displayAlloc c.width c.height).defaultSurface := by
  unfold allocDisplay; split_ifs <;> rfl

theorem allocDisplay_cursor_user (settings : Settings) (c : RfbClient) :
    (allocDisplay settings c).cursor.user = none := by
  unfold allocDisplay; split_ifs <;> rfl

/-! ### One action -/

theorem Consistent.of_sameSurface {server : Pixmap} {as : List Action} {a : Action} {s s' : VncClient}
    (hc : Consistent server as s) (hframe : a.framebufferMessage = none) (hops : a.surfaceOps = [])
    (hflag : s'.copyRectUsed = s.copyRectUsed)
    (hsurface : s'.display.map Display.defaultSurface = s.display.map Display.defaultSurface)
    (hfields : s.display.isSome → s'.rfbClient = s.rfbClient ∧ s'.settings = s.settings)
    (hholds : ∀ c, s'.Holds c → s.Holds c ∨ a = .attempt (some c))
    (hupstream : s'.upstream.Sublist (s.upstream ++ a.inputEvent.toList))
    (hcursor : CursorOwned s') : Consistent server (as ++ [a]) s' := by
  have hmsgs : framebufferMessages (as ++ [a]) = framebufferMessages as := by
    rw [framebufferMessages_append_single, hframe, Option.toList_none, List.append_nil]
  have hopsEq : (as ++ [a]).flatMap Action.surfaceOps = as.flatMap Action.surfaceOps := by
    rw [List.flatMap_append, List.flatMap_singleton, hops, List.append_nil]
  have hsome : ∀ {d'}, s'.display = some d' → ∃ d, s.display = some d ∧ d.defaultSurface = d'.defaultSurface :=
    fun hd' => Option.map_eq_some'.mp (hsurface.symm.trans (congrArg (Option.map _) hd'))
  have hearlier : (∀ a' ∈ as ++ [a], a'.Small) → ∀ a' ∈ as, a'.Small :=
    fun hall a' h => hall a' (List.mem_append_left _ h)
  refine ⟨hflag ▸ hc.flag, fun hnone => ?_, fun d' hd' => ?_, fun hall c hc' => ?_,
    fun hall d' c settings hd' hc' hs' => ?_, ?_, hcursor⟩
  · rw [hmsgs, hopsEq]
    exact hc.blank (Option.map_eq_none'.mp (hsurface.symm.trans (congrArg (Option.map _) hnone)))
  · obtain ⟨d, hd, hdd⟩ := hsome hd'
    rw [hopsEq, ← hdd]; exact hc.ops d hd
  · rcases hholds c hc' with h | rfl
    · exact hc.small (hearlier hall) c h
    · exact hall _ (List.mem_append_right _ (List.mem_singleton_self _))
  · obtain ⟨d, hd, hdd⟩ := hsome hd'
    obtain ⟨hc'', hs''⟩ := hfields (by rw [hd]; rfl)
    rw [hmsgs, ← hdd]
    exact hc.agrees (hearlier hall) d c settings hd (hc''.symm.trans hc') (hs''.symm.trans hs')
  · rw [filterMap_append_single]
    exact hupstream.trans (hc.sent.append (List.Sublist.refl _))

theorem Consistent.of_quiet {server : Pixmap} {as : List Action} {a : Action} {s s' : VncClient}
    (hc : Consistent server as s) (hframe : a.framebufferMessage = none) (hops : a.surfaceOps = [])
    (hflag : s'.copyRectUsed = s.copyRectUsed) (hdisplay : s'.display = s.display)
    (hfields : s.display.isSome → s'.rfbClient = s.rfbClient ∧ s'.settings = s.settings)
    (hholds : ∀ c, s'.Holds c → s.Holds c ∨ a = .attempt (some c))
    (hupstream : s'.upstream = s.upstream) (husers : s'.users = s.users) :
    Consistent server (as ++ [a]) s' :=
  hc.of_sameSurface hframe hops hflag (by rw [hdisplay]) hfields hholds
    (hupstream ▸ List.sublist_append_left _ _)
    (hc.cursor.frame (by rw [hdisplay]) fun u h => by
      simpa only [VncClient.hasHandlers, husers] using h)

section Thread

variable (order : ByteOrder)

theorem Consistent.message {server : Pixmap} {as : List Action} {s s' : VncClient} (hinv : SessionInv s)
    (hrun : s.thread = .running) (hc : Consistent server as s) (m : ServerMessage)
    (hdel : m.delivered s = true) (h : handleServerMessage order s m = .ok s') :
    Consistent server (as ++ [.message m]) s' := by
  obtain ⟨d, c, settings, hd, hcl, hs, -⟩ := hinv.running_fields hrun
  have hsent := hc.sent.trans (List.sublist_append_left _ (Action.message m).inputEvent.toList)
  rw [← filterMap_append_single] at hsent
  have hearlier : (∀ a ∈ as ++ [.message m], a.Small) → ∀ a ∈ as, a.Small :=
    fun hall a h => hall a (List.mem_append_left _ h)
  have hlast : (∀ a ∈ as ++ [.message m], a.Small) → (Action.message m).Small :=
    fun hall => hall _ (List.mem_append_right _ (List.mem_singleton_self _))
  cases m with
  | rect m =>
    simp only [handleServerMessage, deref, hd, hcl, hs] at h; cases h
    have hin : m.rect.Inside c.width c.height := by
      simpa only [ServerMessage.delivered, hcl, Option.all_some, decide_eq_true_eq] using hdel
    refine ⟨handleRect_copyRectUsed _ _ _ hc.flag m, (fun h => by cases h), fun d' hd' => ?_,
      fun hall c' hc' => ?_, fun hall d' c' settings' hd' hc' hs' => ?_, hsent,
      hc.cursor.frame (by rw [hd]; rfl) fun _ h => h⟩
    · cases hd'
      rw [handleRect_ops _ _ _ hc.flag, hc.ops d hd, List.flatMap_append, List.flatMap_singleton]; rfl
    · cases hc'.of_running hrun
      have hsmall := hc.small (hearlier hall) c (.inl hcl)
      exact ⟨hsmall.bitsPerPixel, hsmall.size⟩
    · cases hd'; cases hc'; cases hs'
      rw [framebufferMessages_append_single, List.foldl_append, List.foldl_append]
      exact handleRect_agrees order settings.swapRedBlue ⟨c.framebuffer, d.defaultSurface, s.copyRectUsed⟩
        hc.flag (hc.small (hearlier hall) c (.inl hcl)) _ _ (hc.agrees (hearlier hall) d c settings hd hcl hs)
        m hin
  | resize w h' =>
    simp only [handleServerMessage, deref, hcl, guacVncMallocFramebuffer, hd] at h; cases h
    refine ⟨hc.flag, (fun h => by cases h), fun d' hd' => ?_, fun hall c' hc' => ?_,
      fun hall d' c' settings' hd' hc' hs' => ?_, hsent, hc.cursor.frame (by rw [hd]; rfl) fun _ h => h⟩
    · cases hd'
      show d.defaultSurface.ops ++ [.resize w h'] = _
      rw [hc.ops d hd, List.flatMap_append, List.flatMap_singleton]; rfl
    · cases hc'.of_running hrun
      have hsmall := hc.small (hearlier hall) c (.inl hcl)
      have hbpp : c.format.bytesPerPixel ≤ 4 := by
        rcases @bytesPerPixel_cases c.format hsmall.bitsPerPixel with h | h | h <;> omega
      refine ⟨hsmall.bitsPerPixel, ?_⟩
      calc c.format.bytesPerPixel * w * h' ≤ 4 * w * h' :=
            Nat.mul_le_mul_right _ (Nat.mul_le_mul_right _ hbpp)
        _ < 2 ^ 32 := hlast hall
    · cases hd'; cases hc'
      obtain rfl : settings = settings' := Option.some.inj (hs.symm.trans hs')
      rw [framebufferMessages_append_single, List.foldl_append, List.foldl_append]
      intro p hp
      simp only [Action.framebufferMessage, Option.toList_some, List.foldl_cons, List.foldl_nil,
        trackAfter, Bool.and_eq_true, decide_eq_true_eq] at hp
      show (if p.1 < w ∧ p.2 < h' then d.defaultSurface.pixels p else 0) = _
      rw [if_pos hp.2]
      exact hc.agrees (hearlier hall) d c settings hd hcl hs p hp.1
  | cursorShape hotspotX hotspotY w h' bpp rcSource rcMask =>
    simp only [handleServerMessage, deref, hd, hcl, hs] at h; cases h
    exact hc.of_sameSurface rfl rfl rfl (by rw [hd]; rfl) (fun _ => ⟨hcl.symm, hs.symm⟩)
      (fun _ h => .inl (h.of_same hcl.symm (.inr rfl))) (List.sublist_append_left _ _) (hc.cursor.frame (by rw [hd]; rfl) fun _ h => h)
  | failure =>
    simp only [handleServerMessage] at h; cases h
    exact hc.of_quiet rfl rfl rfl rfl (fun _ => ⟨rfl, rfl⟩) (fun _ h => .inl h) rfl rfl

theorem Consistent.of_step {server : Pixmap} {as : List Action} {s s' : VncClient} {a : Action}
    (hinv : SessionInv s) (hc : Consistent server as s) (h : step order s a = some (.ok s')) :
    Consistent server (as ++ [a]) s' := by
  cases a with
  | join user owner parsed threadCreated =>
    simp only [step] at h
    split at h <;> cases h
    rename_i henabled
    obtain ⟨settings, thread, users, heq, hset, hthread, hhandlers⟩ :=
      guacVncUserJoinHandler_eq s user owner parsed threadCreated
    rw [heq]
    have hclient : thread.client = none ∨ thread.client = s.thread.client := by
      rcases hthread with rfl | ⟨-, rfl⟩
      exacts [.inr rfl, .inl rfl]
    refine hc.of_sameSurface rfl rfl rfl rfl (fun hsome => ⟨rfl, hset ?_⟩)
      (fun _ h => .inl (h.of_same rfl hclient)) (List.sublist_append_left _ _) (hc.cursor.frame rfl hhandlers)
    cases owner with
    | false => rfl
    | true =>
      have hidle : s.thread.isIdle = true := by
        simpa only [Bool.true_and, Bool.not_true, Bool.false_and, Bool.or_false] using henabled
      rw [hinv.no_display (ThreadPc.beforeDisplay_of_isIdle hidle)] at hsome; cases hsome
  | leave user =>
    simp only [step] at h
    split at h <;> cases h
    have hcursor := hc.cursor.leave user
    rw [guacVncUserLeaveHandler_eq] at hcursor ⊢
    refine hc.of_sameSurface rfl rfl rfl ?_ (fun _ => ⟨rfl, rfl⟩) (fun _ h => .inl h)
      (List.sublist_append_left _ _) hcursor
    cases s.display <;> rfl
  | mouse user x y mask =>
    simp only [step] at h
    split at h
    · next hhandlers =>
      cases hd : s.display with
      | none => simp only [guacVncUserMouseHandler, deref, hd] at h; cases h
      | some d =>
        rw [guacVncUserMouseHandler_eq hd] at h; cases h
        refine hc.of_sameSurface rfl rfl rfl (by rw [hd]; rfl) (fun _ => ⟨rfl, rfl⟩) (fun _ h => .inl h)
          ((List.Sublist.refl _).append (by cases s.rfbClient <;> simp [Action.inputEvent])) ?_
        intro d' u hd' hu
        cases hd'; cases hu
        exact hhandlers
    · cases h; exact hc.of_quiet rfl rfl rfl rfl (fun _ => ⟨rfl, rfl⟩) (fun _ h => .inl h) rfl rfl
  | key user keysym pressed =>
    simp only [step] at h
    split at h <;> cases h
    · unfold guacVncUserKeyHandler
      split
      · exact hc.of_sameSurface rfl rfl rfl rfl (fun _ => ⟨rfl, rfl⟩) (fun _ h => .inl h)
          (List.Sublist.refl _) (hc.cursor.frame rfl fun _ h => h)
      · exact hc.of_quiet rfl rfl rfl rfl (fun _ => ⟨rfl, rfl⟩) (fun _ h => .inl h) rfl rfl
    · exact hc.of_quiet rfl rfl rfl rfl (fun _ => ⟨rfl, rfl⟩) (fun _ h => .inl h) rfl rfl
  | stop => cases h; exact hc.of_quiet rfl rfl rfl rfl (fun _ => ⟨rfl, rfl⟩) (fun _ h => .inl h) rfl rfl
  | attempt outcome =>
    obtain ⟨-, n, rfl⟩ := step_attempt order hinv h
    exact hc.of_quiet rfl rfl rfl rfl (fun _ => ⟨rfl, rfl⟩)
      (fun _ h => h.elim (fun h => .inl (.inl h)) fun h => .inr (congrArg Action.attempt h)) rfl rfl
  | proceed =>
    obtain ⟨c, r, hth, rfl⟩ | ⟨r, hth, rfl⟩ := step_proceed order h
    · exact hc.of_quiet rfl rfl rfl rfl (fun _ => ⟨rfl, rfl⟩)
        (fun _ h => .inl (h.of_same rfl (.inr (by rw [hth]; rfl)))) rfl rfl
    · exact hc.of_quiet rfl rfl rfl rfl (fun _ => ⟨rfl, rfl⟩) (fun _ h => .inl (h.of_same rfl (.inl rfl)))
        rfl rfl
  | storeClient =>
    obtain ⟨c, hth, rfl⟩ := step_storeClient order h
    exact hc.of_quiet rfl rfl rfl rfl
      (fun hsome => by rw [hinv.no_display (hth ▸ rfl)] at hsome; cases hsome)
      (fun _ h => .inl (.inr (by rw [hth]; rcases h with h | h <;> exact h))) rfl rfl
  | allocDisplay =>
    obtain ⟨c, settings, hth, -, rfl⟩ := step_allocDisplay order hinv h
    obtain ⟨hmsgs, hops⟩ := hc.blank (hinv.no_display (hth ▸ rfl))
    refine ⟨hc.flag, (fun h => by cases h), fun d' hd' => ?_,
      fun hall c' h => hc.small (fun a h => hall a (List.mem_append_left _ h)) c' (h.of_same rfl (.inl rfl)),
      fun _ d' c' settings' hd' _ _ => ?_, ?_, ?_⟩
    · cases hd'
      rw [allocDisplay_defaultSurface, List.flatMap_append, hops]; rfl
    · rw [framebufferMessages_append_single, hmsgs]
      intro p hp; cases hp
    · rw [filterMap_append_single]; exact hc.sent.trans (List.sublist_append_left _ _)
    · intro d' u hd' hu
      cases hd'
      rw [allocDisplay_cursor_user] at hu; cases hu
  | message m =>
    obtain ⟨hth, hdel, hm⟩ := step_message order h
    exact hc.message order hinv hth m hdel hm
  | flush =>
    obtain ⟨-, rfl⟩ := step_flush order hinv h
    exact hc.of_quiet rfl rfl rfl rfl (fun _ => ⟨rfl, rfl⟩) (fun _ h => .inl h) rfl rfl
  | exit =>
    obtain ⟨-, -, rfl⟩ := step_exit order h
    exact hc.of_quiet rfl rfl rfl rfl (fun _ => ⟨rfl, rfl⟩) (fun _ h => .inl (h.of_same rfl (.inl rfl)))
      rfl rfl

/-! ### Every run -/

theorem Consistent.of_run {server : Pixmap} (bs : List Action) :
    ∀ {as : List Action} {s s' : VncClient}, SessionInv s → Consistent server as s →
      run order s bs = some (.ok s') → Consistent server (as ++ bs) s' := by
  induction bs with
  | nil => intro as s s' _ hc h; cases h; rwa [List.append_nil]
  | cons b bs ih =>
    intro as s s' hinv hc h
    simp only [run] at h
    split at h
    · next s₁ h₁ =>
      have := ih (step_outcome order hinv h₁) (hc.of_step order hinv h₁) h
      rwa [List.append_assoc, List.singleton_append] at this
    · cases h
    · cases h

theorem run_consistent (as : List Action) (server : Pixmap) {s : VncClient}
    (h : run order VncClient.initial as = some (.ok s)) : Consistent server as s := by
  simpa only [List.nil_append] using Consistent.of_run order as .initial (.initial server) h

/-- In every interleaving of the users' handlers with the client thread, the default surface has
received exactly one operation per rectangle and per new framebuffer size the server sent, in the
order sent, and no other: none is lost, repeated or reordered. -/
theorem run_surface_ops (as : List Action) {s : VncClient}
    (h : run order VncClient.initial as = some (.ok s)) {d : Display} (hd : s.display = some d) :
    d.defaultSurface.ops = as.flatMap Action.surfaceOps :=
  (run_consistent order as (fun _ => 0) h).ops d hd

/-- In every interleaving whose framebuffers all stay below 4 GiB, the default surface shows, at
every pixel a rectangle has defined and no later size has dropped, the translation of the server's
current pixel, whatever the server's framebuffer held before. -/
theorem run_surface_agrees (as : List Action) (server : Pixmap) {s : VncClient}
    (h : run order VncClient.initial as = some (.ok s)) (hsmall : ∀ a ∈ as, a.Small) {d : Display}
    {c : RfbClient} {settings : Settings} (hd : s.display = some d) (hc : s.rfbClient = some c)
    (hs : s.settings = some settings) :
    Agrees c.format settings.swapRedBlue
      ((framebufferMessages as).foldl (serverAfter c.format.bytesPerPixel) server) d.defaultSurface
      ((framebufferMessages as).foldl trackAfter fun _ => false) :=
  (run_consistent order as server h).agrees hsmall d c settings hd hc hs

end Thread

theorem run_surface_ops_copy :
    let as : List Action :=
      [.join 0 true (some ⟨"localhost", 5900, none, 24, false, false, false, false, 5000, 0, none, 0, none, none⟩) true,
        .attempt (some ⟨2, 2, ⟨32, 24, 1, 255, 255, 255, 16, 8, 0⟩, fun _ => 0⟩), .proceed, .storeClient, .allocDisplay,
        .join 1 false (some ⟨"localhost", 5900, none, 24, false, false, false, false, 5000, 0, none, 0, none, none⟩) true,
        .mouse 1 1 1 0, .key 0 65 true, .message (.rect (.decoded ⟨0, 0, 1, 1⟩ fun _ _ => 0xFF)),
        .message (.rect (.copyRect 0 0 ⟨1, 0, 1, 1⟩)), .message (.resize 4 4)]
    ∃ s d, (run .littleEndian VncClient.initial as = some (.ok s) ∧ s.display = some d) ∧
      d.defaultSurface.ops = as.flatMap Action.surfaceOps := by
  intro as
  exact ⟨_, _, ⟨rfl, rfl⟩, run_surface_ops .littleEndian as (by exact rfl) (by exact rfl)⟩

theorem run_surface_agrees_copy :
    let as : List Action :=
      [.join 0 true (some ⟨"localhost", 5900, none, 24, false, false, false, false, 5000, 0, none, 0, none, none⟩) true,
        .attempt (some ⟨2, 2, ⟨32, 24, 1, 255, 255, 255, 16, 8, 0⟩, fun _ => 0⟩), .proceed, .storeClient, .allocDisplay,
        .join 1 false (some ⟨"localhost", 5900, none, 24, false, false, false, false, 5000, 0, none, 0, none, none⟩) true,
        .mouse 1 1 1 0, .key 0 65 true, .message (.rect (.decoded ⟨0, 0, 1, 1⟩ fun _ _ => 0xFF)),
        .message (.rect (.copyRect 0 0 ⟨1, 0, 1, 1⟩)), .message (.resize 4 4)]
    ∃ s d c settings, (run .littleEndian VncClient.initial as = some (.ok s) ∧ (∀ a ∈ as, a.Small) ∧
        s.display = some d ∧ s.rfbClient = some c ∧ s.settings = some settings) ∧
      Agrees c.format settings.swapRedBlue
        ((framebufferMessages as).foldl (serverAfter c.format.bytesPerPixel) fun _ => 0) d.defaultSurface
        ((framebufferMessages as).foldl trackAfter fun _ => false) := by
  intro as
  have hsmall : ∀ a ∈ as, a.Small := by decide
  exact ⟨_, _, _, _, ⟨rfl, hsmall, rfl, rfl, rfl⟩,
    run_surface_agrees .littleEndian as _ (by exact rfl) hsmall (by exact rfl) (by exact rfl) (by exact rfl)⟩

end OccamyVnc
