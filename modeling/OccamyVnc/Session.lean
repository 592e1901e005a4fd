import OccamyVnc.Update
import OccamyVnc.Connect

/-!
# The VNC session: the client thread and the user handlers

The owner's join starts guac_vnc_client_thread, which connects (with retries), stores the handle
in `vnc_client->rfb_client`, allocates `vnc_client->display`, and then handles server messages.
Meanwhile the gateway calls the join, leave, mouse and key handlers of every user from their own
threads. Each handler call and each step of the client thread is one atomic action on the shared
`guac_vnc_client`; `step` says what each action does, including the dereference of a NULL
`display`, `rfb_client` or `settings`, which is a `Fault`.
-/

namespace OccamyVnc

/-- The connected libvncclient handle: the framebuffer size and format the server chose, and the
framebuffer in memory. -/
structure RfbClient where
  width : Nat
  height : Nat
  format : PixelFormat
  frameBuffer : Memory

/-- The handle's fields guac_vnc_update reads. -/
def RfbClient.framebuffer (c : RfbClient) : RfbFramebuffer := ⟨c.frameBuffer, c.width, c.height, c.format⟩

/-- A user as the VNC handlers see it. -/
structure User where
  id : Nat
  owner : Bool
  settings : Settings
  handlers : Bool
  synced : Bool

/-- An input event written to the VNC server. -/
inductive RfbEvent
  | pointer (x y mask : Int)
  | key (keysym : Int) (pressed : Bool)
  deriving DecidableEq, Repr

/-- Where guac_vnc_client_thread is. `connecting` is the retry loop with its local `rfb_client`
and `retries_remaining`; `connected c` is before line 715 and `stored c` before line 718. -/
inductive ThreadPc
  | idle
  | started
  | connecting (rfbClient : Option RfbClient) (retriesRemaining : Int)
  | connected (rfbClient : RfbClient)
  | stored (rfbClient : RfbClient)
  | running
  | finished

/-- The thread has not been started. -/
def ThreadPc.isIdle : ThreadPc → Bool
  | .idle => true
  | _ => false

/-- The thread has not yet reached line 718. -/
def ThreadPc.beforeDisplay : ThreadPc → Bool
  | .idle | .started | .connecting _ _ | .connected _ | .stored _ => true
  | .running | .finished => false

/-- The fields of guac_vnc_client and guac_client the model follows. -/
structure VncClient where
  rfbClient : Option RfbClient
  display : Option Display
  settings : Option Settings
  copyRectUsed : Bool
  running : Bool
  status : Option Status
  thread : ThreadPc
  users : List User
  upstream : List RfbEvent

/-- A dereference of a NULL field. -/
inductive Fault
  | nullDisplay
  | nullRfbClient
  | nullSettings
  deriving DecidableEq, Repr

/-- `*p`, or the fault of dereferencing NULL. -/
def deref {α : Type} (p : Option α) (fault : Fault) : Except Fault α :=
  match p with
  | some a => .ok a
  | none => .error fault

/-- The session as guac_vnc_client_init leaves it. -/
def VncClient.initial : VncClient :=
  { rfbClient := none, display := none, settings := none, copyRectUsed := false, running := true,
    status := none, thread := .idle, users := [], upstream := [] }

/-- The user `user` is connected and has the input handlers installed. -/
def VncClient.hasHandlers (s : VncClient) (user : Nat) : Bool :=
  s.users.any fun u => u.id = user && u.handlers

/-! ### User handlers (user.c) -/

/-- guac_vnc_user_mouse_handler. -/
def guacVncUserMouseHandler (s : VncClient) (user : Nat) (x y mask : Int) :
    Except Fault VncClient := do
  let display ← deref s.display .nullDisplay
  let s := { s with display := some { display with cursor := display.cursor.update user x y mask } }
  match s.rfbClient with
  | some _ => pure { s with upstream := s.upstream ++ [.pointer x y mask] }
  | none => pure s

/-- guac_vnc_user_key_handler. -/
def guacVncUserKeyHandler (s : VncClient) (keysym : Int) (pressed : Bool) : VncClient :=
  match s.rfbClient with
  | some _ => { s with upstream := s.upstream ++ [.key keysym pressed] }
  | none => s

/-- guac_vnc_user_join_handler, with the result of guac_vnc_parse_args and of pthread_create as
inputs; the new state and the return value (a user is added only on 0). -/
def guacVncUserJoinHandler (s : VncClient) (user : Nat) (owner : Bool) (parsed : Option Settings)
    (threadCreated : Bool) : VncClient × Int :=
  match parsed with
  | none => (s, 1)
  | some settings =>
    let joined : User :=
      { id := user, owner := owner, settings := settings, handlers := !settings.readOnly,
        synced := !owner && s.display.isSome }
    if owner then
      if threadCreated then
        ({ s with settings := some settings, thread := .started, users := s.users ++ [joined] }, 0)
      else ({ s with settings := some settings }, 1)
    else ({ s with users := s.users ++ [joined] }, 0)

/-- guac_vnc_user_leave_handler. -/
def guacVncUserLeaveHandler (s : VncClient) (user : Nat) : VncClient :=
  let s :=
    match s.display with
    | some d => { s with display := some { d with cursor := d.cursor.removeUser user } }
    | none => s
  { s with users := s.users.filter fun u => u.id ≠ user }

/-! ### Client thread (vnc.c) -/

/-- guac_vnc_malloc_framebuffer after libvncclient set the handle's size to `width × height`. -/
def guacVncMallocFramebuffer (s : VncClient) (width height : Nat) : VncClient :=
  match s.display with
  | some d => { s with display := some { d with defaultSurface := surfaceResize d.defaultSurface width height } }
  | none => s

/-- One call of guac_vnc_get_client: a successful `rfbInitClient` allocates the framebuffer
through the MallocFrameBuffer hook. -/
def connectAttempt (s : VncClient) (outcome : Option RfbClient) : VncClient :=
  match outcome with
  | some c => guacVncMallocFramebuffer s c.width c.height
  | none => s

/-- Lines 718–728: the display at the handle's size, and the cursor preset. -/
def allocDisplay (settings : Settings) (c : RfbClient) : Display :=
  let display := displayAlloc c.width c.height
  if settings.readOnly then display
  else if settings.remoteCursor then { display with cursor := { display.cursor with image := .dot } }
  else { display with cursor := { display.cursor with image := .pointer } }

/-- A message from the VNC server, as HandleRFBServerMessage reports it to the callbacks. -/
inductive ServerMessage
  | rect (m : RectMessage)
  | resize (w h : Nat)
  | cursorShape (hotspotX hotspotY : Int) (w h bpp : Nat) (rcSource rcMask : Memory)
  | failure

/-- libvncclient fails HandleRFBServerMessage on a rectangle that does not lie inside its
framebuffer ("Rect too large"), which is the `failure` message: the callbacks only see rectangles
inside it. -/
def ServerMessage.delivered (s : VncClient) : ServerMessage → Bool
  | .rect m => s.rfbClient.all fun c => decide (m.rect.Inside c.width c.height)
  | _ => true

section Thread

variable (order : ByteOrder)

/-- HandleRFBServerMessage with the callbacks of vnc.c, once the thread is in its message loop. -/
def handleServerMessage (s : VncClient) : ServerMessage → Except Fault VncClient
  | .rect m => do
    let c ← deref s.rfbClient .nullRfbClient
    let d ← deref s.display .nullDisplay
    let settings ← deref s.settings .nullSettings
    let after := handleRect order settings.swapRedBlue ⟨c.framebuffer, d.defaultSurface, s.copyRectUsed⟩ m
    pure { s with
      rfbClient := some { c with frameBuffer := after.frameBuffer.frameBuffer }
      display := some { d with defaultSurface := after.surface }
      copyRectUsed := after.copyRectUsed }
  | .resize w h => do
    let c ← deref s.rfbClient .nullRfbClient
    pure (guacVncMallocFramebuffer { s with rfbClient := some { c with width := w, height := h } } w h)
  | .cursorShape hotspotX hotspotY w h bpp rcSource rcMask => do
    let c ← deref s.rfbClient .nullRfbClient
    let d ← deref s.display .nullDisplay
    let settings ← deref s.settings .nullSettings
    let buffer := guacVncCursorBuffer order c.format settings.swapRedBlue rcSource rcMask w h bpp
      fun _ => 0
    let cursor := d.cursor.setArgb hotspotX hotspotY buffer w h (cairoFormatStrideForWidth w)
    pure { s with display := some { d with cursor := cursor } }
  | .failure => pure { s with status := some .upstreamError, running := false }

/-- An atomic action of the system: a handler call by the gateway, or a step of the client
thread. -/
inductive Action
  | join (user : Nat) (owner : Bool) (parsed : Option Settings) (threadCreated : Bool)
  | leave (user : Nat)
  | mouse (user : Nat) (x y mask : Int)
  | key (user : Nat) (keysym : Int) (pressed : Bool)
  | stop
  | attempt (outcome : Option RfbClient)
  | proceed
  | storeClient
  | allocDisplay
  | message (m : ServerMessage)
  | flush
  | exit

/-- The effect of an action: `none` when it cannot happen in `s`, a `Fault` when it dereferences
NULL. The owner joins first and only once; guests join after the owner. -/
def step (s : VncClient) : Action → Option (Except Fault VncClient)
  | .join user owner parsed threadCreated =>
    if (owner && s.thread.isIdle) || (!owner && !s.thread.isIdle && !(s.users.any fun u => u.id = user)) then
      some (.ok (guacVncUserJoinHandler s user owner parsed threadCreated).1)
    else none
  | .leave user => if s.users.any (·.id = user) then some (.ok (guacVncUserLeaveHandler s user)) else none
  | .mouse user x y mask =>
    if s.hasHandlers user then some (guacVncUserMouseHandler s user x y mask) else some (.ok s)
  | .key user keysym pressed =>
    if s.hasHandlers user then some (.ok (guacVncUserKeyHandler s keysym pressed)) else some (.ok s)
  | .stop => some (.ok { s with running := false })
  | .attempt outcome =>
    match s.thread with
    | .started => some do
      let settings ← deref s.settings .nullSettings
      pure { connectAttempt s outcome with thread := .connecting outcome settings.retries }
    | .connecting none retriesRemaining =>
      if 0 < retriesRemaining then
        some (.ok { connectAttempt s outcome with thread := .connecting outcome (retriesRemaining - 1) })
      else none
    | _ => none
  | .proceed =>
    match s.thread with
    | .connecting (some c) _ => some (.ok { s with thread := .connected c })
    | .connecting none retriesRemaining =>
      if 0 < retriesRemaining then none
      else some (.ok { s with thread := .finished, status := some .upstreamNotFound, running := false })
    | _ => none
  | .storeClient =>
    match s.thread with
    | .connected c => some (.ok { s with rfbClient := some c, thread := .stored c })
    | _ => none
  | .allocDisplay =>
    match s.thread with
    | .stored c => some do
      let settings ← deref s.settings .nullSettings
      pure { s with display := some (allocDisplay settings c), thread := .running }
    | _ => none
  | .message m =>
    match s.thread with
    | .running => if m.delivered s then some (handleServerMessage order s m) else none
    | _ => none
  | .flush =>
    match s.thread with
    | .running => some ((deref s.display .nullDisplay).map fun _ => s)
    | _ => none
  | .exit =>
    match s.thread with
    | .running => if s.running then none else some (.ok { s with thread := .finished })
    | _ => none

/-- The actions in order, stopping at the first fault; `none` if one cannot happen. -/
def run (s : VncClient) : List Action → Option (Except Fault VncClient)
  | [] => some (.ok s)
  | a :: as =>
    match step order s a with
    | some (.ok s') => run s' as
    | some (.error f) => some (.error f)
    | none => none

/-- The states of every interleaving of the actions from the initial state. -/
inductive Reachable : VncClient → Prop
  | initial : Reachable VncClient.initial
  | step {s s' : VncClient} {a : Action} : Reachable s → step order s a = some (.ok s') → Reachable s'

end Thread

end OccamyVnc
