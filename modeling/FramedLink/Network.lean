import FramedLink.Event

set_option autoImplicit false
set_option relaxedAutoImplicit false

/-!
# Making a connection

A device is reached over a local socket, which has a path, or over the network, where the
address names a host and, after its last colon, the number of a service there.

What a program can reach is a network: the local sockets, and the hosts. A host may have several
addresses. They are tried **one after another until one answers**; when none does, the failure
of the last one is reported.

## Main definitions

* `FramedLink.Endpoint.readPath` — the path of a local socket.
* `FramedLink.Endpoint.readAddress` — the host and the service of an address.
* `FramedLink.Network` — what can be reached.
* `FramedLink.Network.tryEach` — try addresses one after another.
* `FramedLink.Network.connectSocket`, `FramedLink.Network.connectRemote` — connect to the
  endpoint that a text names.
-/

namespace FramedLink

/-! ## Endpoints -/

namespace Endpoint

/-- The room for the path of a local socket, in bytes. -/
def pathRoom : Nat := 108

/-- The path of a local socket. It has to be shorter than the room for it, and it must not
contain the character that ends a path. -/
def readPath (path : String) : Except IoError String :=
  if path.toList.any (·.toNat == 0) then
    .error ⟨.invalidInput, some "paths must not contain interior null bytes"⟩
  else if pathRoom ≤ path.utf8ByteSize then
    .error ⟨.invalidInput, some "path must be shorter than SUN_LEN"⟩
  else .ok path

/-- The host and the service of an address, the two separated by its last colon. -/
def readAddress (addr : String) : Except IoError (String × UInt16) :=
  let backwards := addr.toList.reverse
  match backwards.dropWhile (· != ':') with
  | [] => .error ⟨.invalidInput, some "invalid socket address"⟩
  | _ :: host =>
    match Text.readNumber? 10 65535 (backwards.takeWhile (· != ':')).reverse with
    | none => .error ⟨.invalidInput, some "invalid port value"⟩
    | some service => .ok (String.ofList host.reverse, UInt16.ofNat service)

end Endpoint

/-! ## Networks -/

/-- What a program can reach, as links whose states are the values of `σ`. -/
structure Network (σ : Type) where
  /-- Connect to the local socket at a path. There is no such function where the system has no
  local sockets. -/
  dialSocket : Option (String → Except IoError σ)
  /-- The addresses of a service of a host, in the order in which they are to be tried. -/
  resolve : String → UInt16 → Except IoError (List String)
  /-- Connect to an address. -/
  dial : String → Except IoError σ

namespace Network

variable {σ : Type}

/-- The failure to connect to a host without addresses. -/
def noAddress : IoError := ⟨.notFound, some "address resolved to nothing"⟩

/-- Try addresses one after another, where `failure` is the failure of the one before. The
result comes with what happened on the way. -/
def tryEach (network : Network σ) (failure : IoError) :
    List String → Except IoError σ × List Event
  | [] => (.error failure, [])
  | addr :: rest =>
    match network.dial addr with
    | .ok link => (.ok link, [.connectedRemote addr])
    | .error e =>
      let (r, events) := network.tryEach e rest
      (r, .connectionFailed addr e.message :: events)

/-- Connect to the local socket at a path. -/
def connectSocket (dialSocket : String → Except IoError σ) (path : String) :
    Except LinkError σ × List Event :=
  match (do dialSocket (← Endpoint.readPath path)) with
  | .error e => (.error (.connect path e), [])
  | .ok link => (.ok link, [.connectedLocal path])

/-- Connect to a service of a host. -/
def connectRemote (network : Network σ) (addr : String) : Except LinkError σ × List Event :=
  match (do
    let (host, service) ← Endpoint.readAddress addr
    network.resolve host service) with
  | .error e => (.error (.connect addr e), [])
  | .ok addrs =>
    let (r, events) := network.tryEach noAddress addrs
    (r.mapError (.connect addr), events)

end Network

end FramedLink
