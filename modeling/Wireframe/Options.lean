import Wireframe.Calendar
import Wireframe.Json.Basic
import Wireframe.Style.Token

/-!
# Options

How a preview is shown: the frame of the device, the platform that styles fall back to, times in
milliseconds, and the origin whose messages are trusted. Reading options is strict, so that a slip
in a host page does not go unnoticed; a field that is left out or null keeps its default.
-/

namespace Wireframe

/-- The only origin whose messages are trusted unless the options name another. -/
def defaultTrustedOrigin : String := "https://chat.openai.com"

structure Options where
  viewportWidth : UInt32 := 390
  viewportHeight : UInt32 := 844
  platform : Platform := .android
  debugStyles : Bool := false
  /-- How long a snackbar stays that gives no duration. -/
  snackbarDuration : Nat := 3000
  /-- The time between two steps of the player. -/
  playerInterval : Nat := 1500
  trustedOrigin : String := defaultTrustedOrigin
  /-- The moment that relative dates count from, in seconds since the start of 1970. -/
  now : Int
deriving DecidableEq, Repr

namespace Options

/-- The number of the day that relative dates count from. -/
def today (options : Options) : Int := Calendar.dayOfSeconds options.now

/-- A value of a field of options; `none` where it has the wrong type or range. -/
def field? {α : Type} (read : Json → Option α) (fields : Entries Json) (key : String)
    (default : α) : Option α :=
  match fields.get? key with
  | none => some default
  | some .null => some default
  | some value => read value

/-- A whole number below `2 ^ 32`. -/
def word32? (json : Json) : Option UInt32 :=
  json.natural?.bind fun n => if n < UInt32.size then some (UInt32.ofNat n) else none

/-- A flag. -/
def flag? : Json → Option Bool
  | .bool b => some b
  | _ => none

/-- Reads options at a moment; `none` where they cannot be read. The name of an unknown platform
changes nothing. -/
def ofJson? (now : Int) : Json → Option Options
  | .object fields => do
    let defaults : Options := { now }
    let platformName ← field? (Option.map some ∘ Json.string?) fields "platform" none
    return {
      viewportWidth := ← field? word32? fields "viewportWidth" defaults.viewportWidth
      viewportHeight := ← field? word32? fields "viewportHeight" defaults.viewportHeight
      platform := (platformName.bind Platform.ofName?).getD defaults.platform
      debugStyles := ← field? flag? fields "debugStyles" defaults.debugStyles
      snackbarDuration :=
        ← field? Json.natural? fields "snackbarDurationMs" defaults.snackbarDuration
      playerInterval := ← field? Json.natural? fields "playerIntervalMs" defaults.playerInterval
      trustedOrigin := ← field? Json.string? fields "trustedOrigin" defaults.trustedOrigin
      now }
  | _ => none

def toJson (options : Options) : Json :=
  .object
    [("viewportWidth", .natural options.viewportWidth.toNat),
      ("viewportHeight", .natural options.viewportHeight.toNat),
      ("platform", .string options.platform.name),
      ("debugStyles", .bool options.debugStyles),
      ("snackbarDurationMs", .natural options.snackbarDuration),
      ("playerIntervalMs", .natural options.playerInterval),
      ("trustedOrigin", .string options.trustedOrigin),
      ("now", .number (.whole options.now))]

end Options

end Wireframe
