import OccamyVnc.PixelFormat
import Mathlib.Data.ENat.Lattice
import Mathlib.Order.CompletePartialOrder

/-!
# Settings, clipboard encodings and the connection phase

What guac_vnc_client_thread does before the display exists: it selects the clipboard codec pair,
then calls guac_vnc_get_client once and again while no handle was returned and retries remain.
The outcome of each attempt is an input of the model (`rfbInitClient` and the network decide it).
The main result is the exact number of attempts for every `retries` value, negative ones
included, and every pattern of failing and succeeding attempts.
-/

namespace OccamyVnc

/-- The fields of guac_vnc_settings that the modelled functions read. -/
structure Settings where
  hostname : String
  port : Int
  password : Option String
  colorDepth : Int
  readOnly : Bool
  remoteCursor : Bool
  swapRedBlue : Bool
  reverseConnect : Bool
  listenTimeout : Int
  retries : Int
  destHost : Option String
  destPort : Int
  encodings : Option String
  clipboardEncoding : Option String
  deriving DecidableEq, Repr

/-- The abort statuses the VNC client thread passes to guac_client_abort. -/
inductive Status
  | upstreamNotFound
  | upstreamError
  deriving DecidableEq, Repr

/-! ### Clipboard encoding -/

/-- The `guac_iconv` reader and writer pairs vnc.c selects from. -/
inductive Codec
  | iso8859_1
  | utf8
  | utf16
  | cp1252
  deriving DecidableEq, Repr

/-- guac_vnc_set_clipboard_encoding: the reader/writer codec selected for `name`, and the return
value, 0 when the encoding is the standard ISO8859-1 and 1 otherwise. An unknown name logs a
warning and falls back to ISO8859-1. -/
def guacVncSetClipboardEncoding (name : Option String) : Codec × Codec × Int :=
  match name with
  | none => (.iso8859_1, .iso8859_1, 0)
  | some name =>
    if name = "ISO8859-1" then (.iso8859_1, .iso8859_1, 0)
    else if name = "UTF-8" then (.utf8, .utf8, 1)
    else if name = "UTF-16" then (.utf16, .utf16, 1)
    else if name = "CP1252" then (.cp1252, .cp1252, 1)
    else (.iso8859_1, .iso8859_1, 0)

theorem guacVncSetClipboardEncoding_pair (name : Option String) :
    (guacVncSetClipboardEncoding name).1 = (guacVncSetClipboardEncoding name).2.1 ∧
      ((guacVncSetClipboardEncoding name).2.2 = 0 ↔
        (guacVncSetClipboardEncoding name).1 = .iso8859_1) := by
  unfold guacVncSetClipboardEncoding
  split
  · exact ⟨rfl, by decide⟩
  · split_ifs <;> exact ⟨rfl, by decide⟩

/-! ### guac_vnc_get_client -/

/-- What guac_vnc_get_client sets on the handle before `rfbInitClient`, beyond the callbacks it
always installs (GotFrameBufferUpdate, GotCopyRect, GetPassword and the MallocFrameBuffer hook). -/
structure ClientConfig where
  gotXCutText : Bool
  gotCursorShape : Bool
  useRemoteCursor : Bool
  format : PixelFormat
  canHandleNewFBSize : Bool
  serverHost : String
  serverPort : Int
  destHost : Option String
  destPort : Int
  listenPort : Option Int
  encodingsString : Option String
  deriving DecidableEq, Repr

/-- Lines 508–577 of guac_vnc_get_client, from the handle `rfbGetClient(8, 3, 4)` returned.
`repeater` and `listen` are the build's ENABLE_VNC_REPEATER and ENABLE_VNC_LISTEN. -/
def guacVncGetClientConfig (repeater listen : Bool) (base : ClientConfig) (settings : Settings) :
    ClientConfig :=
  let cursor :=
    if settings.readOnly then base
    else if settings.remoteCursor then { base with gotXCutText := true, useRemoteCursor := false }
    else { base with gotXCutText := true, useRemoteCursor := true, gotCursorShape := true }
  let config :=
    { cursor with
      format := guacVncSetPixelFormat base.format settings.colorDepth
      canHandleNewFBSize := true
      serverHost := settings.hostname
      serverPort := settings.port }
  let config :=
    match repeater, settings.destHost with
    | true, some host => { config with destHost := some host, destPort := settings.destPort }
    | _, _ => config
  let config :=
    if listen ∧ settings.reverseConnect then { config with listenPort := some settings.port }
    else config
  match settings.encodings with
  | some encodings => { config with encodingsString := some encodings }
  | none => config

/-- guac_vnc_get_client: the configured handle, or `none` when a reverse connection received no
server (`listenResult ≤ 0`) or `rfbInitClient` failed. -/
def guacVncGetClient {α : Type} (repeater listen : Bool) (base : ClientConfig) (settings : Settings)
    (listenResult : Int) (rfbInitClient : ClientConfig → Option α) : Option α :=
  if listen ∧ settings.reverseConnect ∧ listenResult ≤ 0 then none
  else rfbInitClient (guacVncGetClientConfig repeater listen base settings)

theorem guacVncGetClientConfig_readOnly (repeater listen : Bool) (base : ClientConfig)
    (settings : Settings) (h : settings.readOnly = true) :
    (guacVncGetClientConfig repeater listen base settings).gotXCutText = base.gotXCutText ∧
      (guacVncGetClientConfig repeater listen base settings).gotCursorShape = base.gotCursorShape := by
  unfold guacVncGetClientConfig
  simp only [h, if_true]
  split <;> split <;> split <;> exact ⟨rfl, rfl⟩

/-! ### The retry loop of guac_vnc_client_thread -/

/-- Lines 694–705: `made` attempts so far, `rfbClient` the last outcome. `getClient i` is the
outcome of the `i`-th call of guac_vnc_get_client. -/
def connectLoop {α : Type} (getClient : Nat → Option α) (made : Nat) (rfbClient : Option α)
    (retriesRemaining : Int) : Nat × Option α :=
  if h : rfbClient.isNone ∧ 0 < retriesRemaining then
    connectLoop getClient (made + 1) (getClient made) (retriesRemaining - 1)
  else (made, rfbClient)
termination_by retriesRemaining.toNat
decreasing_by omega

/-- Lines 689–712: the number of attempts made, and the handle the thread proceeds with or the
status it aborts with. -/
def guacVncConnect {α : Type} (getClient : Nat → Option α) (retries : Int) : Nat × Except Status α :=
  match connectLoop getClient 1 (getClient 0) retries with
  | (made, some rfbClient) => (made, .ok rfbClient)
  | (made, none) => (made, .error .upstreamNotFound)

theorem guacVncConnect_fst {α : Type} (getClient : Nat → Option α) (retries : Int) :
    (guacVncConnect getClient retries).1 = (connectLoop getClient 1 (getClient 0) retries).1 := by
  unfold guacVncConnect; split <;> next h => rw [h]

theorem guacVncConnect_snd {α : Type} (getClient : Nat → Option α) (retries : Int) :
    (guacVncConnect getClient retries).2 = match (connectLoop getClient 1 (getClient 0) retries).2 with
      | some rfbClient => .ok rfbClient
      | none => .error .upstreamNotFound := by
  unfold guacVncConnect; split <;> next h => rw [h]

theorem connectLoop_spec {α : Type} (getClient : Nat → Option α) (made : Nat) (rfbClient : Option α)
    (retriesRemaining : Int) (hmade : 1 ≤ made) (hlast : rfbClient = getClient (made - 1)) :
    let out := connectLoop getClient made rfbClient retriesRemaining
    made ≤ out.1 ∧ out.1 ≤ made + retriesRemaining.toNat ∧ out.2 = getClient (out.1 - 1) ∧
      (∀ i, made ≤ i + 1 → i + 1 < out.1 → getClient i = none) ∧
      (out.2 = none → out.1 = made + retriesRemaining.toNat) := by
  induction made, rfbClient, retriesRemaining using connectLoop.induct getClient with
  | case1 made rfbClient retriesRemaining h ih =>
    obtain ⟨h1, h2, h3, h4, h5⟩ := ih (by omega) rfl
    rw [connectLoop, dif_pos h]
    have hnone : getClient (made - 1) = none := by rw [← hlast]; exact Option.isNone_iff_eq_none.mp h.1
    refine ⟨by omega, by omega, h3, fun i hi hi' => ?_, fun hn => by rw [h5 hn]; omega⟩
    rcases Nat.eq_or_lt_of_le hi with hi | hi
    · rw [show i = made - 1 by omega, hnone]
    · exact h4 i (by omega) hi'
  | case2 made rfbClient retriesRemaining h =>
    rw [connectLoop, dif_neg h]
    refine ⟨le_refl _, by omega, hlast, fun i hi hi' => by omega, fun hn => ?_⟩
    have : ¬ 0 < retriesRemaining := fun hr => h ⟨Option.isNone_iff_eq_none.mpr hn, hr⟩
    simp only; omega

/-- `k` is the 1-based index of the first attempt that returns a handle, `⊤` when none does. -/
def IsFirstSuccess {α : Type} (getClient : Nat → Option α) (k : ℕ∞) : Prop :=
  k ≠ 0 ∧ (∀ i : Nat, ((i + 1 : Nat) : ℕ∞) < k → getClient i = none) ∧
    ∀ n : Nat, k = ((n + 1 : Nat) : ℕ∞) → (getClient n).isSome

theorem IsFirstSuccess.eq_of_isSome {α : Type} {getClient : Nat → Option α} {k : ℕ∞}
    (hk : IsFirstSuccess getClient k) {a : Nat} (ha : 1 ≤ a) (hsome : (getClient (a - 1)).isSome)
    (hbefore : ∀ i, i + 1 < a → getClient i = none) : k = a := by
  obtain ⟨hk0, hfail, hsucc⟩ := hk
  induction k using ENat.recTopCoe with
  | top => rw [hfail (a - 1) (WithTop.coe_lt_top _)] at hsome; cases hsome
  | coe m =>
    have hm : m ≠ 0 := fun h => hk0 (h ▸ rfl)
    rcases Nat.lt_trichotomy m a with hma | rfl | hma
    · have := hsucc (m - 1) (by congr 1; omega)
      rw [hbefore (m - 1) (by omega)] at this; cases this
    · rfl
    · rw [hfail (a - 1) (by norm_cast; omega)] at hsome; cases hsome

theorem IsFirstSuccess.lt_of_none {α : Type} {getClient : Nat → Option α} {k : ℕ∞}
    (hk : IsFirstSuccess getClient k) {n : Nat} (hnone : ∀ i < n, getClient i = none) : (n : ℕ∞) < k := by
  obtain ⟨hk0, -, hsucc⟩ := hk
  induction k using ENat.recTopCoe with
  | top => exact WithTop.coe_lt_top n
  | coe m =>
    have hm : m ≠ 0 := fun h => hk0 (h ▸ rfl)
    norm_cast
    by_contra hle
    have := hsucc (m - 1) (by congr 1; omega)
    rw [hnone (m - 1) (by omega)] at this; cases this

/-- For every `retries` value and every sequence of outcomes, the thread makes
`min k (max retries 0 + 1)` attempts, where `k` is the index of the first success; it aborts with
UPSTREAM_NOT_FOUND exactly when the first `max retries 0 + 1` attempts all fail, and otherwise
proceeds with the handle of the first successful attempt. -/
theorem guacVncConnect_attempts {α : Type} (getClient : Nat → Option α) (retries : Int) (k : ℕ∞)
    (hk : IsFirstSuccess getClient k) :
    ((guacVncConnect getClient retries).1 : ℕ∞) = min k ((retries.toNat + 1 : Nat) : ℕ∞) ∧
      ((guacVncConnect getClient retries).2 = .error .upstreamNotFound ↔
        ∀ i < retries.toNat + 1, getClient i = none) ∧
      ∀ c, (guacVncConnect getClient retries).2 = .ok c →
        k = ((guacVncConnect getClient retries).1 : ℕ∞) ∧
          getClient ((guacVncConnect getClient retries).1 - 1) = some c := by
  obtain ⟨h1, h2, h3, h4, h5⟩ := connectLoop_spec getClient 1 (getClient 0) retries le_rfl rfl
  rw [guacVncConnect_fst, guacVncConnect_snd]
  generalize connectLoop getClient 1 (getClient 0) retries = out at *
  obtain ⟨a, res⟩ := out
  simp only at h1 h2 h3 h4 h5 ⊢
  cases hres : res with
  | some c =>
    have hsome : getClient (a - 1) = some c := by rw [← h3, hres]
    have hka : k = a := hk.eq_of_isSome h1 (hsome ▸ rfl) fun i hi => h4 i (by omega) hi
    refine ⟨?_, ⟨(fun h => by cases h), fun h => ?_⟩, fun c' hc => ⟨hka, by cases hc; exact hsome⟩⟩
    · rw [hka, min_eq_left (by exact_mod_cast (show a ≤ retries.toNat + 1 by omega))]
    · rw [h (a - 1) (by omega)] at hsome; cases hsome
  | none =>
    have ha := h5 (by rw [← hres])
    have hall : ∀ i < retries.toNat + 1, getClient i = none := fun i hi => by
      rcases Nat.lt_or_ge (i + 1) a with hi' | hi'
      · exact h4 i (by omega) hi'
      · rw [← hres, h3, show a - 1 = i by omega]
    refine ⟨?_, ⟨fun _ => hall, fun _ => rfl⟩, fun c hc => by cases hc⟩
    rw [ha, Nat.add_comm, min_eq_right (hk.lt_of_none hall).le]

theorem guacVncConnect_attempts_third :
    IsFirstSuccess (fun i => if i = 2 then some 7 else none) 3 ∧
      ((guacVncConnect (fun i => if i = 2 then some 7 else none) 5).1 : ℕ∞) = 3 := by
  have hk : IsFirstSuccess (fun i => if i = 2 then some 7 else none) 3 := by
    refine ⟨by decide, fun i hi => ?_, fun n hn => ?_⟩
    · have : i + 1 < 3 := by exact_mod_cast hi
      simp only [if_neg (show i ≠ 2 by omega)]
    · have : 3 = n + 1 := by exact_mod_cast hn
      simp only [show n = 2 by omega, if_true, Option.isSome_some]
  exact ⟨hk, (guacVncConnect_attempts _ 5 3 hk).1.trans (by decide)⟩

end OccamyVnc
