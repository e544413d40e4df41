import Masquerade.Packet.Assembly

/-!
# Fragments

A payload that is too long for one frame travels in several, whose offsets count
units of eight bytes.
-/

set_option autoImplicit false

namespace Masquerade.Packet

/-- The bytes in stretches of `size`, the last one perhaps shorter; none where
`size` is zero. -/
def chunks (size : Nat) : Bytes → List Bytes
  | [] => []
  | first :: rest =>
    if size = 0 then []
    else (first :: rest).take size :: chunks size ((first :: rest).drop size)
termination_by bytes => bytes.length
decreasing_by
  simp only [List.length_cons, List.length_drop]
  omega

/-- One frame for each piece, the first of which is the one with this index.  All but the
last of `count` pieces announce that more follows. -/
def pieceFrames (ethernet : EthernetHeader) (ip : Ipv4Header) (size count index : Nat) :
    List Bytes → Except WireError (List Bytes)
  | [] => .ok []
  | piece :: rest =>
    let flagsFragment := Ipv4Header.fragmentField (index * size) (decide (index + 1 < count))
    match ipv4Frame ethernet { ip with flagsFragment } piece with
    | .error error => .error error
    | .ok frame =>
      match pieceFrames ethernet ip size count (index + 1) rest with
      | .error error => .error error
      | .ok frames => .ok (frame :: frames)

/-- The payload in frames of at most `most` bytes of payload: one frame as it is
where it fits, and otherwise pieces of the largest multiple of eight. -/
def fragment (ethernet : EthernetHeader) (ip : Ipv4Header) (payload : Bytes) (most : Nat) :
    Except WireError (List Bytes) :=
  if payload.length ≤ most then
    match ipv4Frame ethernet ip payload with
    | .error error => .error error
    | .ok frame => .ok [frame]
  else
    let size := most / 8 * 8
    if size = 0 then .error (.refused .fragmentTooSmall)
    else
      let count := (payload.length + size - 1) / size
      pieceFrames ethernet ip size count 0 (chunks size payload)

end Masquerade.Packet
