import Masquerade.Packet.Layout

/-!
# TCP headers
-/

set_option autoImplicit false

namespace Masquerade.Packet

/-! ## Control bits -/

inductive ControlBit
  | fin
  | syn
  | rst
  | psh
  | ack
  | urg
  | ece
  | cwr
  deriving DecidableEq, Repr

namespace ControlBit

def value : ControlBit → Nat
  | .fin => 1
  | .syn => 2
  | .rst => 4
  | .psh => 8
  | .ack => 16
  | .urg => 32
  | .ece => 64
  | .cwr => 128

def all : List ControlBit := [.fin, .syn, .rst, .psh, .ack, .urg, .ece, .cwr]

/-- The byte in which exactly these bits are set; no bit may be named twice. -/
def byteOf (bits : List ControlBit) : UInt8 :=
  UInt8.ofNat (bits.foldr (fun bit total => bit.value + total) 0)

end ControlBit

/-! ## Headers -/

structure TcpHeader where
  sourcePort : UInt16
  destinationPort : UInt16
  sequence : UInt32
  acknowledgment : UInt32
  /-- The size of the header with its options, in bytes. -/
  headerLength : Nat
  flags : UInt8
  window : UInt16
  checksum : UInt16
  urgent : UInt16
  deriving DecidableEq, Repr

namespace TcpHeader

def size : Nat := 20

def checksumOffset : Nat := 16

def bare (sourcePort destinationPort : UInt16) (sequence acknowledgment : UInt32) (flags : UInt8)
    (window : UInt16) : TcpHeader :=
  { sourcePort, destinationPort, sequence, acknowledgment, headerLength := size, flags, window,
    checksum := 0, urgent := 0 }

def has (header : TcpHeader) (bit : ControlBit) : Bool :=
  header.flags.toNat / bit.value % 2 == 1

/-! ## Layout -/

def reader : Reader TcpHeader := do
  let sourcePort ← Reader.word16
  let destinationPort ← Reader.word16
  let sequence ← Reader.word32
  let acknowledgment ← Reader.word32
  let offset ← Reader.byte
  let headerLength := offset.toNat / 16 * 4
  Reader.demand (decide (size ≤ headerLength)) .tcpDataOffset
  let flags ← Reader.byte
  let window ← Reader.word16
  let checksum ← Reader.word16
  let urgent ← Reader.word16
  return { sourcePort, destinationPort, sequence, acknowledgment, headerLength, flags, window,
           checksum, urgent }

def decode (bytes : Bytes) : Except WireError (TcpHeader × Nat) :=
  match reader bytes with
  | .error error => .error error
  | .ok (header, _) =>
    if bytes.length < header.headerLength then .error .incomplete
    else .ok (header, header.headerLength)

/-- Four bits hold the size of the header in units of four bytes. -/
def encode (header : TcpHeader) : Bytes :=
  Bytes.ofWord16 header.sourcePort ++ Bytes.ofWord16 header.destinationPort ++
    Bytes.ofWord32 header.sequence ++ Bytes.ofWord32 header.acknowledgment ++
    [UInt8.ofNat (header.headerLength / 4 % 16 * 16), header.flags] ++
    Bytes.ofWord16 header.window ++ Bytes.ofWord16 header.checksum ++
    Bytes.ofWord16 header.urgent

@[simp] theorem length_encode (header : TcpHeader) : header.encode.length = size := rfl

theorem reader_encode (header : TcpHeader) (rest : Bytes) (whole : header.headerLength % 4 = 0)
    (atLeast : size ≤ header.headerLength) (atMost : header.headerLength ≤ 60) :
    reader (header.encode ++ rest) = .ok (header, rest) := by
  have field : (UInt8.ofNat (header.headerLength / 4 % 16 * 16)).toNat / 16 * 4 =
      header.headerLength := by
    rw [UInt8.toNat_ofNat']
    omega
  rw [encode]
  generalize UInt8.ofNat (header.headerLength / 4 % 16 * 16) = offset at field ⊢
  simp [reader, -bind_pure_comp, field, atLeast]

/-! ## Description -/

def namedBits : List (ControlBit × String) :=
  [(.syn, "SYN"), (.ack, "ACK"), (.psh, "PSH"), (.fin, "FIN"), (.rst, "RST")]

def flagsText (header : TcpHeader) : String :=
  match namedBits.filter (fun (bit, _) => header.has bit) with
  | [] => "-"
  | set => String.intercalate "|" (set.map Prod.snd)

def text (header : TcpHeader) : String :=
  describe "tcp header" [
    ("src port", number header.sourcePort.toNat),
    ("dst port", number header.destinationPort.toNat),
    ("seq", number header.sequence.toNat),
    ("ack", number header.acknowledgment.toNat),
    ("flags", header.flagsText),
    ("window", number header.window.toNat)]

end TcpHeader

end Masquerade.Packet
