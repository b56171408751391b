import SealedMail.Packet.Error

/-! # Packet headers

Every packet opens with a header: a first byte whose top bit is set, then a body length. In
the old format the first byte holds a four-bit tag and a length type (one, two or four
length bytes, or "to the end of the input"); in the new format it holds a six-bit tag and
the length is one, two or five bytes, or a partial-chunk length of a power of two.
-/

namespace SealedMail

/-- The kind of a packet. -/
inductive PacketTag where
  | publicKeyEncryptedSessionKey
  | signature
  | symKeyEncryptedSessionKey
  | onePassSignature
  | secretKey
  | publicKey
  | secretSubkey
  | compressedData
  | symEncryptedData
  | marker
  | literalData
  | trust
  | userId
  | publicSubkey
  | userAttribute
  | symEncryptedProtectedData
  | modDetectionCode
  | other (n : Nat)
deriving Repr, DecidableEq, Inhabited

namespace PacketTag

/-- The tag with a number. -/
def ofNat : Nat → PacketTag
  | 1 => .publicKeyEncryptedSessionKey
  | 2 => .signature
  | 3 => .symKeyEncryptedSessionKey
  | 4 => .onePassSignature
  | 5 => .secretKey
  | 6 => .publicKey
  | 7 => .secretSubkey
  | 8 => .compressedData
  | 9 => .symEncryptedData
  | 10 => .marker
  | 11 => .literalData
  | 12 => .trust
  | 13 => .userId
  | 14 => .publicSubkey
  | 17 => .userAttribute
  | 18 => .symEncryptedProtectedData
  | 19 => .modDetectionCode
  | n => .other n

/-- The number of a tag. -/
def toNat : PacketTag → Nat
  | .publicKeyEncryptedSessionKey => 1
  | .signature => 2
  | .symKeyEncryptedSessionKey => 3
  | .onePassSignature => 4
  | .secretKey => 5
  | .publicKey => 6
  | .secretSubkey => 7
  | .compressedData => 8
  | .symEncryptedData => 9
  | .marker => 10
  | .literalData => 11
  | .trust => 12
  | .userId => 13
  | .publicSubkey => 14
  | .userAttribute => 17
  | .symEncryptedProtectedData => 18
  | .modDetectionCode => 19
  | .other n => n

/-- The name of a tag, as error texts show it. -/
def name : PacketTag → String
  | .publicKeyEncryptedSessionKey => "PublicKeyEncryptedSessionKey"
  | .signature => "Signature"
  | .symKeyEncryptedSessionKey => "SymKeyEncryptedSessionKey"
  | .onePassSignature => "OnePassSignature"
  | .secretKey => "SecretKey"
  | .publicKey => "PublicKey"
  | .secretSubkey => "SecretSubkey"
  | .compressedData => "CompressedData"
  | .symEncryptedData => "SymEncryptedData"
  | .marker => "Marker"
  | .literalData => "LiteralData"
  | .trust => "Trust"
  | .userId => "UserId"
  | .publicSubkey => "PublicSubkey"
  | .userAttribute => "UserAttribute"
  | .symEncryptedProtectedData => "SymEncryptedProtectedData"
  | .modDetectionCode => "ModDetectionCode"
  | .other n => "Other(" ++ toString n ++ ")"

/-- Whether a packet of this kind may be sent in partial chunks. -/
def allowsPartial : PacketTag → Bool
  | .compressedData | .symEncryptedData | .literalData | .symEncryptedProtectedData => true
  | _ => false

end PacketTag

/-- The two header formats. -/
inductive HeaderFormat where
  | old
  | new
deriving Repr, DecidableEq, Inhabited

/-- How long a packet body is. -/
inductive BodyLength where
  /-- Exactly `n` bytes. -/
  | fixed (n : Nat)
  /-- A first chunk of `n` bytes, more chunks follow. -/
  | chunk (n : Nat)
  /-- Everything up to the end of the input. -/
  | toEnd
deriving Repr, DecidableEq, Inhabited

/-- A read header: its format, tag, body length and its own size in bytes. -/
structure Header where
  format : HeaderFormat
  tag : PacketTag
  length : BodyLength
  size : Nat
deriving Repr, Inhabited

/-- Why a header could not be read. -/
inductive HeaderFault where
  /-- The first byte lacks its top bit. -/
  | notPacket
  /-- The input ends inside the header. -/
  | truncated
deriving Repr, DecidableEq

namespace Header

/-- The big-endian number of `n` bytes at `i`, if they are present. -/
def numberAt (b : ByteArray) (i n : Nat) : Option Nat :=
  if i + n ≤ b.size then
    some ((b.extract i (i + n)).foldl (fun acc x => acc * 256 + x.toNat) 0)
  else none

/-- A new-format body length at `i`: the length and the number of bytes it took. -/
def newLength (b : ByteArray) (i : Nat) : Option (BodyLength × Nat) := do
  let o1 ← (b[i]?).map UInt8.toNat
  if o1 < 192 then some (.fixed o1, 1)
  else if o1 < 224 then
    let o2 ← (b[i + 1]?).map UInt8.toNat
    some (.fixed ((o1 - 192) * 256 + o2 + 192), 2)
  else if o1 < 255 then some (.chunk (Nat.pow 2 (o1 % 32)), 1)
  else
    let n ← numberAt b (i + 1) 4
    some (.fixed n, 5)

/-- Read the header that starts at `i`, which must lie inside `b`. -/
def read (b : ByteArray) (i : Nat) : Except HeaderFault Header :=
  let first := (b.get! i).toNat
  if first < 128 then .error .notPacket
  else if first ≥ 192 then
    match newLength b (i + 1) with
    | some (len, k) => .ok ⟨.new, PacketTag.ofNat (first % 64), len, 1 + k⟩
    | none => .error .truncated
  else
    let tag := PacketTag.ofNat ((first / 4) % 16)
    match first % 4 with
    | 0 => match numberAt b (i + 1) 1 with
      | some n => .ok ⟨.old, tag, .fixed n, 2⟩
      | none => .error .truncated
    | 1 => match numberAt b (i + 1) 2 with
      | some n => .ok ⟨.old, tag, .fixed n, 3⟩
      | none => .error .truncated
    | 2 => match numberAt b (i + 1) 4 with
      | some n => .ok ⟨.old, tag, .fixed n, 5⟩
      | none => .error .truncated
    | _ => .ok ⟨.old, tag, .toEnd, 1⟩

/-- The header of a packet with a body of `len` bytes: the shortest length form of the
format (old: one, two or four bytes; new: one, two or five bytes). -/
def write (format : HeaderFormat) (tag : PacketTag) (len : Nat) : ByteArray :=
  let t := tag.toNat
  match format with
  | .old =>
    if len < 256 then ByteArray.mk #[(0x80 + t * 4).toUInt8, len.toUInt8]
    else if len < 65536 then
      ByteArray.mk #[(0x81 + t * 4).toUInt8, (len / 256).toUInt8, len.toUInt8]
    else
      ByteArray.mk #[(0x82 + t * 4).toUInt8, (len / Nat.pow 2 24).toUInt8, (len / Nat.pow 2 16).toUInt8,
        (len / 256).toUInt8, len.toUInt8]
  | .new =>
    let first := (0xc0 + t % 64).toUInt8
    if len < 192 then ByteArray.mk #[first, len.toUInt8]
    else if len < 8384 then
      ByteArray.mk #[first, ((len - 192) / 256 + 192).toUInt8, ((len - 192) % 256).toUInt8]
    else
      ByteArray.mk #[first, 255, (len / Nat.pow 2 24).toUInt8, (len / Nat.pow 2 16).toUInt8,
        (len / 256).toUInt8, len.toUInt8]

/-- A whole packet: header and body. -/
def packet (format : HeaderFormat) (tag : PacketTag) (body : ByteArray) : ByteArray :=
  write format tag body.size ++ body

/-- The longest body a fixed-length header describes: a four-byte length. -/
def maxBodyLength : Nat := Nat.pow 2 32 - 1

/-- A whole packet with a new-format header; a body longer than `maxBodyLength` is refused
rather than written with a length that would wrap. -/
def packetWithin (tag : PacketTag) (body : ByteArray) : PacketResult ByteArray :=
  if body.size > maxBodyLength then
    .error (.message ("packet body of " ++ toString body.size ++ " bytes exceeds the " ++
      toString maxBodyLength ++ " byte limit"))
  else .ok (packet .new tag body)

/-- The header size and body length of a packet at `i` whose length is fixed and fully
present in its header; `none` for anything else (not a packet, a chunked or open-ended
length, a truncated header). -/
def fixedFrame? (b : ByteArray) (i : Nat) : Option (Nat × Nat) :=
  match read b i with
  | .ok ⟨_, _, .fixed n, size⟩ => some (size, n)
  | _ => none

/-- The framing guard: walk the packets with fixed lengths from the start and fail with
`packetIncomplete` when a body runs past the end of the input. The walk stops quietly at
the first packet it cannot frame this way; the packet reader reports those itself. -/
def checkFraming (b : ByteArray) : PacketResult Unit :=
  go 0 b.size
where
  go (pos : Nat) : Nat → PacketResult Unit
    | 0 => .ok ()
    | fuel + 1 =>
      if pos < b.size then
        match fixedFrame? b pos with
        | none => .ok ()
        | some (size, n) =>
          if b.size - (pos + size) < n || b.size < pos + size then .error .packetIncomplete
          else go (pos + size + n) fuel
      else .ok ()

/-- The tags of the packets of a byte string, read header by header from the start;
`none` marks a byte that is not a header, a header cut short, or a last body that runs
past the end. Partial chunks of one packet are skipped over. -/
def outline (b : ByteArray) : List (Option Nat) :=
  go 0 (b.size + 1)
where
  chunks (p : Nat) : Nat → Option Nat
    | 0 => none
    | fuel + 1 =>
      match newLength b p with
      | none => none
      | some (.chunk n, k) => chunks (p + k + n) fuel
      | some (.fixed n, k) => some (p + k + n)
      | some (.toEnd, _) => none
  go (pos : Nat) : Nat → List (Option Nat)
    | 0 => []
    | fuel + 1 =>
      if pos < b.size then
        let first := (b.get! pos).toNat
        if first < 128 then [none]
        else if first ≥ 192 then
          match chunks (pos + 1) (b.size + 1) with
          | some next => some (first % 64) :: (if next > b.size then [none] else go next fuel)
          | none => [some (first % 64), none]
        else
          let tag := (first / 4) % 16
          let next : Option Nat := match first % 4 with
            | 0 => (numberAt b (pos + 1) 1).map (pos + 2 + ·)
            | 1 => (numberAt b (pos + 1) 2).map (pos + 3 + ·)
            | 2 => (numberAt b (pos + 1) 4).map (pos + 5 + ·)
            | _ => some b.size
          match next with
          | some next => some tag :: (if next > b.size then [none] else go next fuel)
          | none => [some tag, none]
      else []

end Header

end SealedMail
