import SealedMail.Bytes.Basic

/-! # Inflate

Decompression of DEFLATE streams, raw or inside a zlib wrapper, as
compressed data packets carry them. A stream either decodes in full or fails for one of two
reasons: it is incomplete when the input ends before the final block (or, for zlib, before the
whole header or the four bytes of the Adler-32 sum), and corrupt when a block is malformed, a
code is invalid, the zlib header is refused or the Adler-32 sum is wrong. Bytes after the end
of the stream are ignored. A match may reach back before the start of the output, into the
zero-filled history window.

Huffman codes are decoded canonically, one bit at a time, with the counts of codes of each
length; a code table whose lengths do not describe a complete prefix code is refused unless
it has at most one symbol.
-/

namespace SealedMail.Inflate

/-- Why decoding stopped early. -/
inductive Halt where
  /-- The input ended. -/
  | truncated
  /-- The stream is malformed. -/
  | corrupt
deriving DecidableEq

/-- A cursor over the bits of a byte string, least significant bit first. -/
structure Bits where
  data : ByteArray
  pos : Nat

namespace Bits

/-- The bit at the cursor. -/
def bit (r : Bits) : Except Halt (Nat × Bits) :=
  if r.pos < 8 * r.data.size then
    .ok (((r.data.get! (r.pos / 8)).toNat >>> (r.pos % 8)) % 2, { r with pos := r.pos + 1 })
  else .error .truncated

/-- `n` bits as a number, the first bit least significant. -/
def take (r : Bits) (n : Nat) : Except Halt (Nat × Bits) :=
  if r.pos + n ≤ 8 * r.data.size then
    let v := (List.range n).foldl (fun acc i =>
      let p := r.pos + i
      acc + (((r.data.get! (p / 8)).toNat >>> (p % 8)) % 2) * Nat.pow 2 i) 0
    .ok (v, { r with pos := r.pos + n })
  else .error .truncated

/-- Skip to the next byte boundary. -/
def align (r : Bits) : Bits := { r with pos := (r.pos + 7) / 8 * 8 }

/-- The number of bits left. -/
def left (r : Bits) : Nat := 8 * r.data.size - r.pos

end Bits

/-- A canonical Huffman code: the number of codes of each length 0..15 and the symbols in
code order. -/
structure Code where
  counts : Array Nat
  symbols : Array Nat

/-- The code with the given code lengths (zero for unused symbols), if they describe a
complete prefix code or use at most one symbol. -/
def Code.ofLengths (lengths : List Nat) : Option Code :=
  let counts := lengths.foldl (fun (c : Array Nat) l => c.modify l (· + 1)) (Array.replicate 16 0)
  let used := lengths.filter (· != 0) |>.length
  let kraft := (List.range 15).foldl (fun acc i => acc + counts[i + 1]! * Nat.pow 2 (15 - (i + 1))) 0
  if used > 1 && kraft != Nat.pow 2 15 then none
  else
    let order := (List.range 16).drop 1 |>.flatMap (fun len =>
      ((lengths.zipIdx).filter (·.1 == len)).map (·.2))
    some ⟨counts.set! 0 0, order.toArray⟩

/-- Decode one symbol. -/
def Code.decode (c : Code) (r : Bits) : Except Halt (Nat × Bits) :=
  go 1 0 0 0 r
where
  /-- Read the code of length `len` on, with `code` read so far; `first` is the first code
  of this length and `index` the position of its first symbol. -/
  go (len code first index : Nat) (r : Bits) : Except Halt (Nat × Bits) :=
    if len > 15 then .error .corrupt
    else
      match r.bit with
      | .error e => .error e
      | .ok (b, r) =>
        let code := code + b
        let count := c.counts[len]!
        if code < first + count then .ok (c.symbols[index + (code - first)]!, r)
        else go (len + 1) (2 * code) (2 * (first + count)) (index + count) r
  termination_by 16 - len

/-- The base lengths of the length symbols 257..285. -/
def lengthBase : Array Nat :=
  #[3, 4, 5, 6, 7, 8, 9, 10, 11, 13, 15, 17, 19, 23, 27, 31, 35, 43, 51, 59, 67, 83, 99, 115,
    131, 163, 195, 227, 258]

/-- The extra bits of the length symbols. -/
def lengthExtra : Array Nat :=
  #[0, 0, 0, 0, 0, 0, 0, 0, 1, 1, 1, 1, 2, 2, 2, 2, 3, 3, 3, 3, 4, 4, 4, 4, 5, 5, 5, 5, 0]

/-- The base distances of the distance symbols 0..29. -/
def distBase : Array Nat :=
  #[1, 2, 3, 4, 5, 7, 9, 13, 17, 25, 33, 49, 65, 97, 129, 193, 257, 385, 513, 769, 1025, 1537,
    2049, 3073, 4097, 6145, 8193, 12289, 16385, 24577]

/-- The extra bits of the distance symbols. -/
def distExtra : Array Nat :=
  #[0, 0, 0, 0, 1, 1, 2, 2, 3, 3, 4, 4, 5, 5, 6, 6, 7, 7, 8, 8, 9, 9, 10, 10, 11, 11, 12, 12,
    13, 13]

/-- Append `len` bytes copied from `dist` bytes back; positions before the start of the output
read as zero. -/
def copyBack (out : ByteArray) (dist len : Nat) : ByteArray :=
  (List.range len).foldl (fun o _ =>
    o.push (if dist ≤ o.size then o.get! (o.size - dist) else 0)) out

/-- The state of decoding: the output so far and the input cursor. -/
structure State where
  out : ByteArray
  bits : Bits

/-- How a block (or the whole stream) ended: with the state after it, or early with the
output so far and the reason. -/
abbrev Run := Except (ByteArray × Halt) State

/-- Decode the symbols of one compressed block up to its end symbol. -/
def codes (lit dist : Code) : Nat → State → Run
  | 0, s => .error (s.out, .truncated)
  | fuel + 1, s =>
    match lit.decode s.bits with
    | .error h => .error (s.out, h)
    | .ok (sym, bits) =>
      if sym < 256 then codes lit dist fuel ⟨s.out.push sym.toUInt8, bits⟩
      else if sym == 256 then .ok ⟨s.out, bits⟩
      else if sym > 285 then .error (s.out, .corrupt)
      else
        let i := sym - 257
        match bits.take lengthExtra[i]! with
        | .error h => .error (s.out, h)
        | .ok (e, bits) =>
          let len := lengthBase[i]! + e
          match dist.decode bits with
          | .error h => .error (s.out, h)
          | .ok (d, bits) =>
            if d > 29 then .error (s.out, .corrupt)
            else
              match bits.take distExtra[d]! with
              | .error h => .error (s.out, h)
              | .ok (e, bits) =>
                codes lit dist fuel ⟨copyBack s.out (distBase[d]! + e) len, bits⟩

/-- The fixed literal/length code. -/
def fixedLit : Option Code :=
  Code.ofLengths ((List.range 288).map fun i =>
    if i < 144 then 8 else if i < 256 then 9 else if i < 280 then 7 else 8)

/-- The fixed distance code. -/
def fixedDist : Option Code := Code.ofLengths (List.replicate 32 5)

/-- The order in which code length code lengths are stored. -/
def clOrder : List Nat := [16, 17, 18, 0, 8, 7, 9, 6, 10, 5, 11, 4, 12, 3, 13, 2, 14, 1, 15]

/-- Read `n` three-bit code length code lengths. -/
def readClLengths (r : Bits) : Nat → Except Halt (List Nat × Bits)
  | 0 => .ok ([], r)
  | n + 1 => do
    let (v, r) ← r.take 3
    let (rest, r) ← readClLengths r n
    return (v :: rest, r)

/-- Read `total` code lengths with the code length code, expanding repeats. -/
def readLengths (cl : Code) (total : Nat) : Nat → List Nat → Bits → Except Halt (List Nat × Bits)
  | 0, _, _ => .error .truncated
  | fuel + 1, acc, r =>
    if acc.length ≥ total then
      if acc.length > total then .error .corrupt else .ok (acc, r)
    else do
      let (sym, r) ← cl.decode r
      if sym < 16 then readLengths cl total fuel (acc ++ [sym]) r
      else if sym == 16 then
        match acc.getLast? with
        | none => .error .corrupt
        | some prev =>
          let (n, r) ← r.take 2
          readLengths cl total fuel (acc ++ List.replicate (3 + n) prev) r
      else if sym == 17 then
        let (n, r) ← r.take 3
        readLengths cl total fuel (acc ++ List.replicate (3 + n) 0) r
      else
        let (n, r) ← r.take 7
        readLengths cl total fuel (acc ++ List.replicate (11 + n) 0) r

/-- Read the code tables of a dynamic block. -/
def dynamicCodes (r : Bits) : Except Halt (Code × Code × Bits) := do
  let (hlit, r) ← r.take 5
  let (hdist, r) ← r.take 5
  let (hclen, r) ← r.take 4
  let nlen := hlit + 257
  let ndist := hdist + 1
  if nlen > 286 || ndist > 30 then throw .corrupt
  let (cls, r) ← readClLengths r (hclen + 4)
  let clLengths := (List.range 19).map fun sym =>
    match (clOrder.zip cls).find? (·.1 == sym) with
    | some (_, l) => l
    | none => 0
  let some cl := Code.ofLengths clLengths | throw .corrupt
  let (lens, r) ← readLengths cl (nlen + ndist) (r.left + 1) [] r
  let some lit := Code.ofLengths (lens.take nlen) | throw .corrupt
  let some dist := Code.ofLengths (lens.drop nlen) | throw .corrupt
  return (lit, dist, r)

/-- Decode blocks until the final one. -/
def blocks : Nat → State → Run
  | 0, s => .error (s.out, .truncated)
  | fuel + 1, s =>
    match s.bits.take 3 with
    | .error h => .error (s.out, h)
    | .ok (header, bits) =>
      let final := header % 2 == 1
      let kind := header / 2
      let next (r : Run) : Run :=
        match r with
        | .ok s => if final then .ok s else blocks fuel s
        | e => e
      if kind == 0 then
        let bits := bits.align
        match bits.take 16, (bits.take 16).bind (fun (_, b) => b.take 16) with
        | .ok (len, _), .ok (nlen, b) =>
          if len + nlen != 65535 then .error (s.out, .corrupt)
          else
            let start := b.pos / 8
            let avail := min len (b.data.size - start)
            let out := s.out ++ b.data.extract start (start + avail)
            if avail < len then .error (out, .truncated)
            else next (.ok ⟨out, { b with pos := b.pos + 8 * len }⟩)
        | .error h, _ | _, .error h => .error (s.out, h)
      else if kind == 1 then
        match fixedLit, fixedDist with
        | some lit, some dist => next (codes lit dist (bits.left + 1) ⟨s.out, bits⟩)
        | _, _ => .error (s.out, .corrupt)
      else if kind == 2 then
        match dynamicCodes bits with
        | .error h => .error (s.out, h)
        | .ok (lit, dist, bits) => next (codes lit dist (bits.left + 1) ⟨s.out, bits⟩)
      else .error (s.out, .corrupt)

/-- The Adler-32 sum of bytes. -/
def adler32 (b : ByteArray) : Nat :=
  let (a, s) := b.foldl (fun (acc : Nat × Nat) x =>
    let a := (acc.1 + x.toNat) % 65521
    (a, (acc.2 + a) % 65521)) (1, 0)
  s * 65536 + a

/-- Decompress a raw DEFLATE stream. -/
def raw (data : ByteArray) : Except Halt ByteArray :=
  match blocks (8 * data.size + 1) ⟨ByteArray.empty, ⟨data, 0⟩⟩ with
  | .ok s => .ok s.out
  | .error (_, h) => .error h

/-- Whether a zlib header is acceptable: a multiple of 31, DEFLATE with a window of at most
32 KiB, no preset dictionary. -/
def headerOk (cmf flg : Nat) : Bool :=
  (cmf * 256 + flg) % 31 == 0 && flg &&& 0x20 == 0 && cmf % 16 == 8 && cmf / 16 ≤ 7

/-- Decompress a zlib stream. -/
def zlib (data : ByteArray) : Except Halt ByteArray :=
  if data.size < 2 then .error .truncated
  else if !headerOk (data.get! 0).toNat (data.get! 1).toNat then .error .corrupt
  else
    match blocks (8 * data.size + 1) ⟨ByteArray.empty, ⟨data, 16⟩⟩ with
    | .ok s =>
      let start := s.bits.align.pos / 8
      if start + 4 > data.size then .error .truncated
      else if Bytes.toNatBE (data.extract start (start + 4)) == adler32 s.out then .ok s.out
      else .error .corrupt
    | .error (_, h) => .error h

end SealedMail.Inflate
