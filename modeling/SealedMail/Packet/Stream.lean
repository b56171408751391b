import SealedMail.Packet.Header
import SealedMail.Packet.Cursor

/-! # Packet streams

A byte string is read as a sequence of packets. Each packet is framed by its header and
its body handed to a body reader; the result is one entry per packet, a packet or the
reason it could not be read. Reading stops at a byte that is not a header, at a header
or chunk that runs past the input, and at a misused partial length; a body that fails to
read in a packet of known length does not stop the stream.
-/

namespace SealedMail

/-- How a body reader failed: the body ended early, or another packet error. -/
def ParseFail.toPacketError : ParseFail → PacketError
  | .incomplete n => .incomplete n
  | .broken r => .invalidPacket r
  | .fail e => e

/-- Run a body reader on a whole body. A reader failure other than running out of input
is wrapped as invalid packet content. -/
def Cursor.body {α : Type} (p : Cursor α) (body : ByteArray) : PacketResult α :=
  match p.run body with
  | .ok (a, _) => .ok a
  | .error (.incomplete n) => .error (.incomplete n)
  | .error e => .error (.invalidContent e.toPacketError)

namespace PacketStream

/-- Gather the chunks of a chunked body starting at `pos`, the first chunk of `first` bytes:
the body and the position after it, or `none` when the input runs out. -/
def chunked (b : ByteArray) (pos first : Nat) : Option (ByteArray × Nat) :=
  go pos first ByteArray.empty (b.size + 1)
where
  go (pos len : Nat) (acc : ByteArray) : Nat → Option (ByteArray × Nat)
    | 0 => none
    | fuel + 1 =>
      if pos + len > b.size then none
      else
        let acc := acc ++ b.extract pos (pos + len)
        let next := pos + len
        match Header.newLength b next with
        | some (.chunk n, k) => go (next + k) n acc fuel
        | some (.fixed n, k) =>
          if next + k + n > b.size then none else some (acc ++ b.extract (next + k) (next + k + n), next + k + n)
        | _ => none

/-- Read the packets of `b` with the body reader `parse`, which gets each packet's header
format, tag and body. -/
def read {α : Type} (parse : HeaderFormat → PacketTag → ByteArray → PacketResult α)
    (b : ByteArray) : List (PacketResult α) :=
  go 0 (b.size + 1)
where
  go (pos : Nat) : Nat → List (PacketResult α)
    | 0 => []
    | fuel + 1 =>
      if pos < b.size then
        match Header.read b pos with
        | .error .notPacket => [.error (.parsing .tagBits)]
        | .error .truncated => [.error .packetIncomplete]
        | .ok h =>
          let start := pos + h.size
          match h.length with
          | .fixed n =>
            if start + n > b.size then [.error .packetIncomplete]
            else
              let r := match parse h.format h.tag (b.extract start (start + n)) with
                | .error (.incomplete _) => .error .packetIncomplete
                | r => r
              r :: go (start + n) fuel
          | .toEnd => [parse h.format h.tag (b.extract start b.size)]
          | .chunk n =>
            if !h.tag.allowsPartial then
              [.error (.message ("Partial body length is not allowed for packet type " ++ h.tag.name))]
            else if n < 512 then
              [.error (.message ("Illegal first partial body length " ++ toString n ++
                " (shorter than 512 bytes)"))]
            else
              match chunked b start n with
              | none => [.error .packetIncomplete]
              | some (body, next) =>
                let r := match parse h.format h.tag body with
                  | .error (.incomplete _) => .error .packetIncomplete
                  | r => r
                r :: go next fuel
      else []

end PacketStream

end SealedMail
