/-
Module: CodaNode.Node.Profile
Layer: Node
Purpose: The scan of an OpenVPN profile before it is written to disk, and the text that is written.
Imports: CodaNode.Python.Lines
Main exports: dangerousOvpnDirectives, validateVpnProfile, vpnProfileText
-/
import CodaNode.Python.Lines

namespace CodaNode

open Python

/-- `_DANGEROUS_OVPN_DIRECTIVES`. [SRC service.py:78-93] -/
def dangerousOvpnDirectives : List String :=
  ["script-security", "up", "down", "client-connect", "client-disconnect", "learn-address",
    "auth-user-pass-verify", "tls-verify", "ipchange", "route-up", "route-pre-down", "plugin"]

/-- `line.strip().split()[0].lower() if line.strip() else ""` -/
def profileDirective (line : List Char) : String :=
  match split (strip line) with
  | [] => ""
  | word :: _ => lower (String.ofList word)

/-- The loop over the numbered lines. -/
def scanProfile : Nat → List (List Char) → Except String Unit
  | _, [] => .ok ()
  | lineno, line :: lines =>
      if profileDirective line ∈ dangerousOvpnDirectives then
        .error s!"Refusing OpenVPN profile: forbidden directive '{profileDirective line}' on line {lineno}"
      else scanProfile (lineno + 1) lines

/-- `_validate_vpn_profile`. [SRC service.py:96-103] -/
def validateVpnProfile (profile : String) : Except String Unit :=
  scanProfile 1 (splitlines profile.toList)

/-- The text `_write_vpn_profile` writes. [SRC service.py:106-113] -/
def vpnProfileText (profile : String) : String :=
  if contains profile "reneg-sec" then profile else rstrip profile ++ "\nreneg-sec 0\n"

/-- The scan accepts a text exactly when no line of it starts with a directive of the list. -/
theorem scanProfile_iff (lineno : Nat) (lines : List (List Char)) :
    scanProfile lineno lines = .ok () ↔ ∀ line ∈ lines, profileDirective line ∉ dangerousOvpnDirectives := by
  induction lines generalizing lineno with
  | nil => simp [scanProfile]
  | cons line lines ih =>
      rw [List.forall_mem_cons, ← ih (lineno + 1), scanProfile]
      by_cases dangerous : profileDirective line ∈ dangerousOvpnDirectives <;> simp [dangerous]

theorem validateVpnProfile_iff {profile : String} :
    validateVpnProfile profile = .ok () ↔
      ∀ line ∈ splitlines profile.toList, profileDirective line ∉ dangerousOvpnDirectives :=
  scanProfile_iff 1 _

example : profileDirective "  UP /tmp/run.sh".toList = "up" := by decide +kernel

end CodaNode
