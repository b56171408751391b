import Mathlib
import SealedMail.Message.Collector
import SealedMail.Proofs.LineBreaks

/-! # Streamed signatures

A signature collector takes a signed body chunk by chunk, and signature data between the
chunks in any order. Whatever the chunking, its body is the canonical form of the chunks
joined (`SignatureCollector.run_body`): the normalizer carries the last byte of one chunk into
the next, and canonical form splits anywhere once that byte is known. It holds the signature
packets of the signature data that reads, in order (`SignatureCollector.run_signatures`).

The collector checks a signature over the canonical body as it stands, while the detached
check of a text signature first writes every line break as CR LF. The two agree for binary
signatures, and for text signatures over a body whose carriage returns all stand before line
feeds; then the collector judges the signatures exactly as the detached check does over the
whole canonical body (`SignatureCollector.run_verify_eq_detached`). A lone carriage return in a
text-signed body sets them apart: the collector finds such a signature good where the detached
check finds it failed (`SignatureCollector.lone_cr_collector_disagrees`).
-/

namespace SealedMail

/-! ## Collectors fed chunks and signatures -/

/-- One input of a collector: a chunk of the signed body, or signature data. -/
inductive CollectorInput where
  | chunk (data : ByteArray)
  | signature (data : ByteArray)

namespace CollectorInput

/-- The body bytes an input carries. -/
def bytes : CollectorInput → List UInt8
  | .chunk data => data.data.toList
  | .signature _ => []

/-- The signature packets an input carries: those of signature data that reads. -/
def packets : CollectorInput → List Signature
  | .chunk _ => []
  | .signature data => (parseSignatures data).toOption.getD []

/-- The chunks of the inputs joined in order. -/
def body (inputs : List CollectorInput) : List UInt8 := inputs.flatMap bytes

/-- The signature packets of the inputs in order. -/
def signatures (inputs : List CollectorInput) : List Signature := inputs.flatMap packets

end CollectorInput

namespace SignatureCollector

/-- Take one input; signature data that does not read leaves the collector as it was. -/
def feed (c : SignatureCollector) : CollectorInput → SignatureCollector
  | .chunk data => c.accept data
  | .signature data => (c.acceptSignature data).toOption.getD c

/-- A new collector fed inputs in order. -/
def run (inputs : List CollectorInput) : SignatureCollector := inputs.foldl feed {}

/-- What a collector holds once it has seen the body bytes `seen` and the signature packets
`sigs`: the canonical form of the bytes, their last byte, and the packets. -/
structure Holds (c : SignatureCollector) (seen : List UInt8) (sigs : List Signature) : Prop where
  body : c.body = (Lines.canonicalList 0 seen).toByteArray
  last : c.normalizer.last = seen.getLastD 0
  signatures : c.signatures = sigs

theorem holds_empty : ({} : SignatureCollector).Holds [] [] := ⟨rfl, rfl, rfl⟩

/-- One input adds its bytes to what the collector has seen and its packets to what it holds. -/
theorem Holds.feed_input {c : SignatureCollector} {seen : List UInt8} {sigs : List Signature}
    (holds : c.Holds seen sigs) (input : CollectorInput) :
    (c.feed input).Holds (seen ++ input.bytes) (sigs ++ input.packets) := by
  cases input with
  | chunk data =>
    refine ⟨?_, ?_, ?_⟩
    · simp only [feed, accept, Lines.Normalizer.feed, holds.body, holds.last, CollectorInput.bytes,
        Lines.canonicalizeFrom_eq, Lines.canonicalList_append, List.toByteArray_append]
    · simp only [feed, accept, Lines.Normalizer.feed, holds.last, CollectorInput.bytes,
        Bytes.getLastD_append_data]
    · simp [feed, accept, holds.signatures, CollectorInput.packets]
  | signature data =>
    cases parsed : parseSignatures data with
    | error e =>
      have same : c.feed (.signature data) = c := by
        simp [feed, acceptSignature, parsed, bind, Except.bind, Except.toOption]
      rw [same]
      simpa [CollectorInput.bytes, CollectorInput.packets, parsed, Except.toOption] using holds
    | ok new =>
      have added : c.feed (.signature data) = { c with signatures := c.signatures ++ new } := by
        simp [feed, acceptSignature, parsed, bind, Except.bind, pure, Except.pure, Except.toOption]
      rw [added]
      exact ⟨by simpa [CollectorInput.bytes] using holds.body, by simpa [CollectorInput.bytes] using holds.last,
        by simp [CollectorInput.packets, parsed, Except.toOption, holds.signatures]⟩

/-- Inputs fed one after another add their bytes and packets in order. -/
theorem Holds.feed_all {c : SignatureCollector} {seen : List UInt8} {sigs : List Signature}
    (holds : c.Holds seen sigs) (inputs : List CollectorInput) :
    (inputs.foldl feed c).Holds (seen ++ CollectorInput.body inputs) (sigs ++ CollectorInput.signatures inputs) := by
  induction inputs generalizing c seen sigs with
  | nil => simpa [CollectorInput.body, CollectorInput.signatures] using holds
  | cons input rest ih =>
    have next := ih (holds.feed_input input)
    simpa [CollectorInput.body, CollectorInput.signatures, List.append_assoc] using next

/-- Whatever the chunking, the collector's body is the canonical form of the chunks joined. -/
theorem run_body (inputs : List CollectorInput) :
    (run inputs).body = Lines.canonicalize (CollectorInput.body inputs).toByteArray := by
  rw [Lines.canonicalize, Lines.canonicalizeFrom_eq, Bytes.toByteArray_data_toList]
  simpa [run] using (holds_empty.feed_all inputs).body

/-- The collector holds the packets of the signature inputs that read, in order. -/
theorem run_signatures (inputs : List CollectorInput) :
    (run inputs).signatures = CollectorInput.signatures inputs := by
  simpa [run] using (holds_empty.feed_all inputs).signatures

/-- A signature is checked over the body as the detached check reads it, unless the signature
is of text type and writing the body's line breaks as CR LF would change it. -/
theorem checks_eq_verifies (c : SignatureCollector) (s : Signature) (k : KeyPacket)
    (fixed : s.typ = .text → Lines.normalizeBreaks c.body = c.body) :
    c.checks s k = s.verifies k c.body := by
  unfold checks Signature.verifies Signature.digestOf
  cases s.hash.toAlgorithm? with
  | none => rfl
  | some h =>
    by_cases text : s.typ = .text
    · simp [text, fixed text, bind, Option.bind, pure]
    · simp [text, bind, Option.bind, pure]

end SignatureCollector

/-- Signatures judged by two checks that agree on each of them are judged alike. -/
theorem evaluateAll_congr {sigs : List Signature} {ring : Option KeyRing} {at_ : Int}
    {check check' : Signature → Material → Bool} (same : ∀ s ∈ sigs, ∀ m, check s m = check' s m) :
    evaluateAll sigs ring at_ check = evaluateAll sigs ring at_ check' := by
  have outcomes : ∀ r : KeyRing, sigs.map (fun s => evaluateOne s r at_ check) =
      sigs.map (fun s => evaluateOne s r at_ check') := by
    intro r
    apply List.map_congr_left
    intro s member
    simp only [evaluateOne, same s member]
  simp only [evaluateAll, outcomes]

namespace SignatureCollector

/-- Fed chunks and signatures in any order, a collector holds the canonical form of the chunks
joined, and judges the signatures as the detached check does over that canonical body, as long
as the body of every text signature has no carriage return without a line feed after it. -/
theorem run_verify_eq_detached (inputs : List CollectorInput) (verifiers : Option KeyRing) (at_ : Int)
    (paired : ∀ s ∈ CollectorInput.signatures inputs, s.typ = .text →
      Lines.NoLoneCr (CollectorInput.body inputs)) :
    (run inputs).bodyLength = (Lines.canonicalize (CollectorInput.body inputs).toByteArray).size ∧
      (run inputs).verify verifiers at_ = evaluateAll (CollectorInput.signatures inputs) verifiers at_
        (fun s m => s.verifies m.key (Lines.canonicalize (CollectorInput.body inputs).toByteArray)) := by
  have body := run_body inputs
  refine ⟨by rw [bodyLength, body], ?_⟩
  rw [verify, run_signatures]
  apply evaluateAll_congr
  intro s member m
  rw [checks_eq_verifies, body]
  intro text
  rw [body]
  exact Lines.normalizeBreaks_canonicalize (paired s member text)

/-! ## A lone carriage return -/

/-- An Ed25519 primary key packet, created at 1699900000. -/
def edKey : ByteArray :=
  ⟨#[0xc6, 0x33, 0x04, 0x65, 0x52, 0x6a, 0x60, 0x16, 0x09, 0x2b, 0x06, 0x01, 0x04, 0x01, 0xda, 0x47, 0x0f, 0x01,
    0x01, 0x07, 0x40, 0xe0, 0x0c, 0xda, 0xc8, 0xc0, 0xe8, 0x3a, 0x42, 0x87, 0x3a, 0x54, 0xab, 0xc8, 0xe5, 0x93,
    0x5a, 0x46, 0x55, 0x67, 0xdd, 0x33, 0x4b, 0x69, 0xab, 0xdf, 0xef, 0x86, 0x2c, 0x34, 0x10, 0x5e, 0xd5]⟩

/-- A text signature by `edKey`, made at 1700000000 with SHA-256, over the bytes `a`, CR, `b`
as they stand. -/
def loneCrSignature : ByteArray :=
  ⟨#[0xc2, 0x75, 0x04, 0x01, 0x16, 0x08, 0x00, 0x1d, 0x05, 0x02, 0x65, 0x53, 0xf1, 0x00, 0x16, 0x21, 0x04, 0x90,
    0x2e, 0xbe, 0x7f, 0x8a, 0xbc, 0x7a, 0x6f, 0x7b, 0x4c, 0x27, 0x72, 0x50, 0x4e, 0x0a, 0xc9, 0x4c, 0x3d, 0xb6,
    0xbc, 0x00, 0x0a, 0x09, 0x10, 0x50, 0x4e, 0x0a, 0xc9, 0x4c, 0x3d, 0xb6, 0xbc, 0x89, 0x5b, 0x01, 0x00, 0xcf,
    0x91, 0x2a, 0x0a, 0xa7, 0xf7, 0x18, 0x1c, 0x5a, 0x03, 0x95, 0x32, 0x27, 0xed, 0x85, 0x37, 0xab, 0x97, 0xae,
    0xd7, 0xad, 0x96, 0x7b, 0x67, 0xc8, 0xb0, 0xe6, 0x4c, 0x74, 0x8b, 0xe9, 0x3a, 0x01, 0x00, 0x9e, 0xf1, 0xf2,
    0x26, 0x8c, 0x88, 0x67, 0xc6, 0x97, 0xf3, 0x0e, 0xc7, 0x0d, 0xfb, 0x4a, 0xdd, 0x0c, 0x6f, 0xd7, 0xe9, 0x0d,
    0x52, 0x63, 0x9e, 0x05, 0xed, 0xd0, 0x5d, 0x13, 0xf6, 0xb8, 0x07]⟩

/-- A body of chunks `hel`, `lo` CR and LF, with `loneCrSignature` between them. -/
def crlfInputs : List CollectorInput :=
  [.chunk ⟨#[104, 101, 108]⟩, .chunk ⟨#[108, 111, 13]⟩, .signature loneCrSignature, .chunk ⟨#[10]⟩]

theorem chunked_crlf_judged_as_detached :
    (∀ s ∈ CollectorInput.signatures crlfInputs, s.typ = .text → Lines.NoLoneCr (CollectorInput.body crlfInputs)) ∧
      (run crlfInputs).bodyLength = (Lines.canonicalize (CollectorInput.body crlfInputs).toByteArray).size ∧
      (run crlfInputs).verify none 0 = evaluateAll (CollectorInput.signatures crlfInputs) none 0
        (fun s m => s.verifies m.key (Lines.canonicalize (CollectorInput.body crlfInputs).toByteArray)) :=
  have paired : ∀ s ∈ CollectorInput.signatures crlfInputs, s.typ = .text →
      Lines.NoLoneCr (CollectorInput.body crlfInputs) := fun _ _ _ => by decide
  ⟨paired, run_verify_eq_detached crlfInputs none 0 paired⟩

/-- Whether a collector fed the inputs finds a good signature by a ring read from bytes, at time
zero, while the detached check over the canonical body finds it failed. -/
def judgedApart (ringBytes : ByteArray) (inputs : List CollectorInput) : Bool :=
  match KeyRing.parse ringBytes with
  | .ok ring =>
    ((run inputs).verify (some ring) 0).status == .ok &&
      (evaluateAll (CollectorInput.signatures inputs) (some ring) 0
        (fun s m => s.verifies m.key (Lines.canonicalize (CollectorInput.body inputs).toByteArray))).status ==
        .failed
  | .error _ => false

theorem judgedApart_sound {ringBytes : ByteArray} {inputs : List CollectorInput}
    (apart : judgedApart ringBytes inputs = true) :
    ∃ ring, KeyRing.parse ringBytes = .ok ring ∧ ((run inputs).verify (some ring) 0).status = .ok ∧
      (evaluateAll (CollectorInput.signatures inputs) (some ring) 0
        (fun s m => s.verifies m.key (Lines.canonicalize (CollectorInput.body inputs).toByteArray))).status =
        .failed := by
  unfold judgedApart at apart
  split at apart
  case h_1 ring parsed =>
    simp only [Bool.and_eq_true, beq_iff_eq] at apart
    exact ⟨ring, parsed, apart.1, apart.2⟩
  case h_2 => exact absurd apart Bool.false_ne_true

/-- The body `a`, CR, `b` with `loneCrSignature`. -/
def loneCrInputs : List CollectorInput :=
  [.chunk ⟨#[97, 13, 98]⟩, .signature loneCrSignature]

/-- A text signature over a body with a lone carriage return is good to the collector, which
hashes the body as it stands, and failed to the detached check, which hashes it with the
carriage return written as CR LF. -/
theorem lone_cr_collector_disagrees :
    ∃ ring, KeyRing.parse edKey = .ok ring ∧ ((run loneCrInputs).verify (some ring) 0).status = .ok ∧
      (evaluateAll (CollectorInput.signatures loneCrInputs) (some ring) 0
        (fun s m => s.verifies m.key (Lines.canonicalize (CollectorInput.body loneCrInputs).toByteArray))).status =
        .failed :=
  judgedApart_sound (by decide +kernel)

end SignatureCollector

end SealedMail
