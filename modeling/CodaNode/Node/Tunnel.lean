/-
Module: CodaNode.Node.Tunnel
Layer: Node
Purpose: `detect_tun_interface` on Linux, over what the `ip` command prints about the network links.
Imports: CodaNode.Python.Lines
Main exports: Link, IpCommand, detectTunInterface, Network
-/
import CodaNode.Python.Lines

namespace CodaNode.Node

open Python

/-- What `subprocess.run` returns. -/
structure Completed where
  returncode : Int
  stdout : String

/-- What `subprocess.run` raises. -/
inductive RunError where
  | fileNotFound
  | timeoutExpired
  | other (message : String)
deriving DecidableEq, Repr

/-- The commands: `ip link show NAME` and `ip -o link show type tun`. -/
inductive IpCommand where
  | linkShow (name : String)
  | linkShowTun
deriving DecidableEq, Repr

/-- The hint, when it is one: `if hint`. -/
def givenHint : Option String → Option String
  | some hint => if hint = "" then none else some hint
  | none => none

/-- The loop over the lines of the listing. [SRC guard.py:225-228] -/
def firstInterface : List (List Char) → Option String
  | [] => none
  | line :: lines =>
      match line.splitOn ':' with
      | _ :: second :: _ => some (String.ofList (strip second))
      | _ => firstInterface lines

/-- `except (FileNotFoundError, subprocess.TimeoutExpired): return None` -/
def orNone (outcome : Except RunError (Option String)) : Except RunError (Option String) :=
  match outcome with
  | .error .fileNotFound => .ok none
  | .error .timeoutExpired => .ok none
  | other => other

/-- `detect_tun_interface` on Linux. [SRC guard.py:155-233] -/
def detectTunInterface (run : IpCommand → Except RunError Completed) (hint : Option String) :
    Except RunError (Option String) :=
  match givenHint hint with
  | some hint => orNone do
      let result ← run (.linkShow hint)
      if result.returncode = 0 ∧ (contains result.stdout "UP" || contains result.stdout "up") then
        return some hint
      else return none
  | none => orNone do
      let result ← run .linkShowTun
      return firstInterface (splitlines result.stdout.toList)

/-! ### The network -/

/-- A link as `ip` shows it. A name has no white space and no colon. -/
structure Link where
  index : Nat
  name : String
  flags : List String
  mtu : Nat
  qdisc : String
  state : String
  mode : String
  group : String
  rest : String
  address : String
  tunnel : Bool
  solid : ∀ char ∈ name.toList, ¬ isSpace char ∧ char ≠ ':'
  named : name ≠ ""

namespace Link

/-- What follows the name. -/
def attributes (link : Link) : String :=
  "<" ++ ",".intercalate link.flags ++ "> mtu " ++ toString link.mtu ++ " qdisc " ++ link.qdisc ++ " state " ++
    link.state ++ " mode " ++ link.mode ++ " group " ++ link.group ++ link.rest

/-- The first line of a link. -/
def line (link : Link) : String :=
  toString link.index ++ ": " ++ link.name ++ ": " ++ link.attributes

/-- A link in two lines. -/
def shown (link : Link) : String := link.line ++ "\n    link/" ++ link.address ++ "\n"

/-- A link in one line: `-o`. -/
def listed (link : Link) : String := link.line ++ "\\    link/" ++ link.address ++ "\n"

end Link

/-- The links of a host, with unique names, and the commands that fail to run. -/
structure Network where
  links : List Link
  unique : (links.map Link.name).Nodup
  raises : IpCommand → Option RunError

namespace Network

variable (network : Network)

/-- The listing of the tunnel links, up or down. -/
def listing : String := String.join ((network.links.filter Link.tunnel).map Link.listed)

/-- What a command prints. -/
def prints : IpCommand → Completed
  | .linkShow name =>
      match network.links.find? fun link => link.name = name with
      | some link => ⟨0, link.shown⟩
      | none => ⟨1, ""⟩
  | .linkShowTun => ⟨0, network.listing⟩

/-- `subprocess.run` -/
def run (command : IpCommand) : Except RunError Completed :=
  match network.raises command with
  | some error => .error error
  | none => .ok (network.prints command)

end Network

/-- The command of a detection. -/
def detectionCommand (hint : Option String) : IpCommand :=
  match givenHint hint with
  | some name => .linkShow name
  | none => .linkShowTun

/-- The link a detection is about: the one of the hint, else the first tunnel link. -/
def Network.asked (network : Network) (hint : Option String) : Option Link :=
  match givenHint hint with
  | some name => network.links.find? fun link => link.name = name
  | none => network.links.find? Link.tunnel

end CodaNode.Node
