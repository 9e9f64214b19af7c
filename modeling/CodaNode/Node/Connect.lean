/-
Module: CodaNode.Node.Connect
Layer: Node
Purpose: `connect_settings` and what it calls, as coroutines over the operations of `World`.
Imports: CodaNode.Node.World
Main exports: waitForTunnel, applyNodeBundle, persistRuntimeConfig, ensurePersistedVpn, connectSettings
-/
import CodaNode.Node.World

namespace CodaNode.Node

open Coroutine Coro
open Python (Json)

/-- A coroutine of the node. -/
abbrev Task := Coro Reply Failure

variable (runtime : Runtime)

/-- A value that a waiting loop without fuel never returns. -/
def never {α : Type} : Task α := .call Op.forever fun
  | .ok absurd => nomatch absurd
  | .error failure => .raise failure

/-- The loop of `_wait_for_tunnel`. [SRC service.py:260-265] -/
def pollTunnel (hint : Value) (deadline : Rat) : Nat → Task (Option String)
  | 0 => never
  | fuel + 1 => do
      let now : Rat ← perform Op.monotonic
      if now < deadline then
        let interface : Option String ← perform (Op.detectTunInterface hint)
        match interface with
        | some name => return some name
        | none => do
            perform (Op.sleep 1)
            pollTunnel hint deadline fuel
      else return none

/-- `_wait_for_tunnel`. [SRC service.py:251-272] -/
def waitForTunnel (fuel : Nat) (hint : Value) : Task String := do
  let now : Rat ← perform Op.monotonic
  let interface ← pollTunnel hint (now + 30) fuel
  match interface with
  | some name => return name
  | none => do
      let tail : String ← perform Op.readOpenvpnLogTail
      let _ : Bool ← perform Op.killOpenvpnDaemon
      .raise (.noTunnel tail)

/-- The daemon for a profile, and the wait for its tunnel. -/
def bringUpTunnel (fuel : Nat) : Task Unit := do
  let settings : Settings ← perform Op.settings
  perform (Op.startOpenvpn (textOf (settings .nodeVpnProfilePath)))
  let _ ← waitForTunnel fuel (settings .vpnInterfaceHint)

/-- The profile of a bundle on the disk, and its tunnel. [SRC service.py:547-557] -/
def installProfile (fuel : Nat) : Option String → Task Unit
  | none => return
  | some profile => do
      let settings : Settings ← perform Op.settings
      perform (Op.writeVpnProfile (textOf (settings .nodeVpnProfilePath)) profile)
      let interface : Option String ← perform (Op.detectTunInterface (settings .vpnInterfaceHint))
      match interface with
      | some _ => return
      | none => bringUpTunnel fuel

/-- `apply_node_bundle`. [SRC service.py:465-557] -/
def applyNodeBundle (fuel : Nat) (bundle : Value) : Task Unit := do
  let profile : Option String ← perform (Op.applyFields bundle)
  installProfile fuel profile

/-- `_write_secure_text`. [SRC service.py:116-121] -/
def writeSecureText (path content : String) : Task Unit := do
  perform (Op.openForWriting path)
  perform (Op.writeText path content)
  perform (Op.chmod path)

/-- `_persist_runtime_config`. An integer with too many digits has no text. [SRC service.py:124-148] -/
def persistRuntimeConfig : Task Unit := do
  let settings : Settings ← perform Op.settings
  writeSecureText persistedPrivateKeyPath (textOf (settings .jwtPrivateKey))
  if Json.dumpable (.dict (persistedEntries settings)) then
    writeSecureText persistedConfigPath (persistedConfigText runtime settings)
  else .raise (.other "Exceeds the limit (4300 digits) for integer string conversion")

/-- `fetch_node_bundle`. [SRC service.py:389-423] -/
def fetchNodeBundle (connectivity : Option Value) : Task Value := do
  let settings : Settings ← perform Op.settings
  if truthy (settings .nodeToken) then
    let fingerprint : Value ← perform Op.resolveMachineFingerprint
    perform (Op.postConnect s!"Bearer {textOf (settings .nodeToken)}" (payload fingerprint))
  else .raise .tokenEmpty
where
  payload (fingerprint : Value) : Value :=
    .dict (("machine_fingerprint", fingerprint) :: (connectivity.map fun value => ("connectivity", value)).toList)

/-- `fetch_reconnect_bundle`. [SRC service.py:426-462] -/
def fetchReconnectBundle (connectivity : Option Value) : Task Value := do
  let fingerprint : Value ← perform Op.resolveMachineFingerprint
  let token : String ← perform Op.signToken
  perform (Op.postConnect s!"Bearer {token}" (fetchNodeBundle.payload connectivity fingerprint))

/-- `ensure_persisted_vpn`. [SRC service.py:592-629] -/
def ensurePersistedVpn (fuel : Nat) : Task Unit := do
  let persisted : Bool ← perform (Op.pathExists persistedConfigPath)
  let settings : Settings ← perform Op.settings
  if !persisted then return
  else if !truthy (settings .nodeAutoVpn) then return
  else do
    let present : Bool ← perform (Op.pathExists (textOf (settings .nodeVpnProfilePath)))
    if !present then
      if truthy (settings .vpnRequired) then .raise .persistedProfileNotFound
      else return
    else do
      let interface : Option String ← perform (Op.detectTunInterface (settings .vpnInterfaceHint))
      match interface with
      | some _ => return
      | none => bringUpTunnel fuel

/-- The bundle of a call: by the node token, or by the stored credentials behind the stored tunnel. -/
def fetchBundle (fuel : Nat) : Task Value := do
  let _ : Value ← perform Op.resolveMachineFingerprint
  let connectivity : Option Value ← perform Op.connectivity
  let settings : Settings ← perform Op.settings
  if truthy (settings .nodeToken) then fetchNodeBundle connectivity
  else do
    ensurePersistedVpn fuel
    fetchReconnectBundle connectivity

/-- The cleanup behind a failure: `except Exception`. [SRC service.py:586-589] -/
def cleanUp (failure : Failure) : Task Unit :=
  if failure.isException then do
    let settings : Settings ← perform Op.settings
    if truthy (settings .nodeToken) then
      let _ : Bool ← perform Op.killOpenvpnDaemon
    .raise failure
  else .raise failure

/-- `connect_settings`. [SRC service.py:560-589] -/
def connectSettings (fuel : Nat) : Task Unit := do
  let bundle ← fetchBundle fuel
  (do
    applyNodeBundle fuel bundle
    persistRuntimeConfig runtime).catching cleanUp

end CodaNode.Node
