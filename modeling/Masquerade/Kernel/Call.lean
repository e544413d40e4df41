import Masquerade.Address.Basic
import Masquerade.Kernel.Errno

/-!
# Calls

What the gateway asks of the kernel, with what came of it.  The row of calls made
so far is all that the outside can see of the gateway, so that statements about
what is sent, read or closed are statements about this row.
-/

set_option autoImplicit false

namespace Masquerade

abbrev SocketId := Nat

inductive SocketKind
  | stream
  | datagram
  deriving DecidableEq, Repr

def SocketKind.text : SocketKind → String
  | .stream => "tcp"
  | .datagram => "udp"

inductive Call
  | socket (kind : SocketKind) (result : Except Errno SocketId)
  | bind (socket : SocketId) (port : UInt16) (result : Except Errno Unit)
  | connect (socket : SocketId) (target : Endpoint) (result : Except Errno Unit)
  /-- All bytes offered, and how many were taken. -/
  | send (socket : SocketId) (bytes : Bytes) (result : Except Errno Nat)
  | sendTo (socket : SocketId) (target : Endpoint) (bytes : Bytes) (result : Except Errno Nat)
  /-- The most bytes asked for, and those that came. -/
  | receive (socket : SocketId) (most : Nat) (result : Except Errno Bytes)
  | receiveFrom (socket : SocketId) (most : Nat) (result : Except Errno (Bytes × Endpoint))
  | shutdown (socket : SocketId) (result : Except Errno Unit)
  | close (socket : SocketId)

namespace Call

def numberText (number : Nat) : String := String.ofList (Text.decimal number)

def resultText {α : Type} (text : α → String) : Except Errno α → String
  | .ok value => text value
  | .error errno => errno.name

def line {α : Type} (arguments : List String) (text : α → String) (result : Except Errno α) :
    String :=
  String.intercalate " " arguments ++ " = " ++ resultText text result

def text : Call → String
  | .socket kind result => line ["socket", kind.text] numberText result
  | .bind handle port result =>
    line ["bind", numberText handle, Endpoint.text ⟨.ofNat 0, port⟩] (fun _ => "ok") result
  | .connect handle target result =>
    line ["connect", numberText handle, target.text] (fun _ => "ok") result
  | .send handle bytes result =>
    line ["send", numberText handle, Bytes.hex bytes] numberText result
  | .sendTo handle target bytes result =>
    line ["sendto", numberText handle, target.text, Bytes.hex bytes] numberText result
  | .receive handle most result =>
    line ["recv", numberText handle, numberText most] (numberText ·.length) result
  | .receiveFrom handle most result =>
    line ["recvfrom", numberText handle, numberText most] (numberText ·.1.length) result
  | .shutdown handle result => line ["shutdown", numberText handle] (fun _ => "ok") result
  | .close handle => "close " ++ numberText handle

end Call

end Masquerade
