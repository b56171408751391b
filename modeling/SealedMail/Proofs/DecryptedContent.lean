import Mathlib
import SealedMail.Proofs.FramingGuard
import SealedMail.Proofs.PacketBodies

/-! # What decrypted content reads as

Decrypted inner packets are read depth first: each packet in order, and in place of a
compressed packet the packets of its decompressed data, one level down. `met` lists what this
traversal meets, with neither fuel nor accumulators: literal packets, signatures, packets
passed over, and refusals (a packet that does not read, a kind of packet that has no place
here, data that does not decompress, a level deeper than `maxNesting`).

The reader, with its fuel and its accumulators, gives exactly what the list says
(`gathers_collect`): it fails with `decryptionFailed` when the list holds a refusal, and
otherwise the content is the first literal packet of the list and the signatures are all
signatures of the list, in order. The framing guard that runs before each level refuses
nothing the packet reader would not refuse itself (`error_mem_readAll_of_checkFraming`), so
it needs no place in the list.
-/

namespace SealedMail

/-! ## The traversal -/

/-- What reading decrypted inner packets meets. -/
inductive Met where
  | literal (l : LiteralPacket)
  | signature (s : Signature)
  /-- A one-pass signature header or a marker, passed over. -/
  | passed
  /-- Something reading refuses. -/
  | refused

namespace Met

/-- What one entry of a packet list meets; `below` is what decompressed data meets one level
down. -/
def ofEntry (below : ByteArray → List Met) : PacketResult Packet → List Met
  | .ok (.literal l) => [.literal l]
  | .ok (.signature s) => [.signature s]
  | .ok (.onePass _) | .ok .marker => [.passed]
  | .ok (.compressed m d) =>
    match decompress m d with
    | .ok inner => below inner
    | .error _ => [.refused]
  | _ => [.refused]

/-- The literal packets met, in order. -/
def literals (ms : List Met) : List LiteralPacket :=
  ms.filterMap fun | .literal l => some l | _ => none

/-- The signatures met, in order. -/
def signatures (ms : List Met) : List Signature :=
  ms.filterMap fun | .signature s => some s | _ => none

end Met

/-- What the inner packets `data` meet at nesting depth `depth`; a level past `maxNesting` is
refused whatever it holds. -/
def met (depth : Nat) (data : ByteArray) : List Met :=
  if depth > maxNesting then [.refused]
  else (Packet.readAll data).flatMap (Met.ofEntry fun inner => met (depth + 1) inner)
termination_by maxNesting + 1 - depth

theorem met_of_deep {depth : Nat} {data : ByteArray} (deep : maxNesting < depth) :
    met depth data = [.refused] := by
  rw [met, if_pos deep]

theorem met_of_shallow {depth : Nat} {data : ByteArray} (shallow : depth ≤ maxNesting) :
    met depth data = (Packet.readAll data).flatMap (Met.ofEntry (met (depth + 1))) := by
  rw [met, if_neg (Nat.not_lt.mpr shallow)]

/-- The content a literal packet gives, with signatures. -/
def LiteralPacket.content (l : LiteralPacket) (signatures : List Signature) : LiteralContent :=
  ⟨l.data, Utf8.decodeLossy l.fileName, !l.isBinary, signatures⟩

/-- What is found once the entries `ms` are taken in after `found`: a content found before
stays, else the first literal packet is the content; the signatures are added in order. -/
def Found.extend (found : Found) (ms : List Met) : Found where
  content := found.content.or ((Met.literals ms).head?.map (·.content []))
  signatures := found.signatures ++ Met.signatures ms

namespace Found

@[simp] theorem extend_nil (found : Found) : found.extend [] = found := by
  simp [extend, Met.literals, Met.signatures]

theorem extend_append (found : Found) (ms ns : List Met) :
    found.extend (ms ++ ns) = (found.extend ms).extend ns := by
  simp only [extend, Met.literals, Met.signatures, List.filterMap_append, List.head?_append,
    Option.map_or, Option.or_assoc, List.append_assoc]

end Found

/-! ## Reading along the traversal -/

/-- `r` is the outcome of taking in the entries `ms` after `found`: failure with
`decryptionFailed` when one of them is refused, and otherwise what they extend `found` to. -/
def Gathers (r : Outcome Found) (found : Found) (ms : List Met) : Prop :=
  (Met.refused ∈ ms ∧ ∃ msg, r = .error (.decryptionFailed msg)) ∨
    (Met.refused ∉ ms ∧ r = .ok (found.extend ms))

namespace Gathers

variable {found : Found} {ms ns : List Met}

theorem refused (msg : String) (mem : Met.refused ∈ ms) : Gathers (.error (.decryptionFailed msg)) found ms :=
  .inl ⟨mem, msg, rfl⟩

/-- Taking in two runs of entries one after the other takes in the runs joined. -/
theorem bind {r : Outcome Found} {k : Found → Outcome Found} (first : Gathers r found ms)
    (next : ∀ found', Gathers (k found') found' ns) : Gathers (r >>= k) found (ms ++ ns) := by
  rcases first with ⟨mem, msg, rfl⟩ | ⟨clear, rfl⟩
  · exact .inl ⟨List.mem_append_left ns mem, msg, rfl⟩
  · rcases next (found.extend ms) with ⟨mem, msg, failed⟩ | ⟨clear', done⟩
    · exact .inl ⟨List.mem_append_right ms mem, msg, failed⟩
    · refine .inr ⟨fun mem => ?_, ?_⟩
      · rcases List.mem_append.mp mem with early | late
        exacts [clear early, clear' late]
      · rw [Found.extend_append]
        exact done

/-- A fold whose every step takes in its item's entries takes in all of them, in order. -/
theorem foldlM {α : Type} {step : Found → α → Outcome Found} {spec : α → List Met} {xs : List α}
    (each : ∀ found x, x ∈ xs → Gathers (step found x) found (spec x)) (found : Found) :
    Gathers (xs.foldlM step found) found (xs.flatMap spec) := by
  induction xs generalizing found with
  | nil => exact .inr ⟨List.not_mem_nil, by simp [pure, Except.pure]⟩
  | cons x xs ih =>
    rw [List.foldlM_cons, List.flatMap_cons]
    exact (each found x List.mem_cons_self).bind
      (ih fun f y mem => each f y (List.mem_cons_of_mem x mem))

end Gathers

theorem asMessageError_decryptionFailed (e : PacketError) : ∃ msg, e.asMessageError = .decryptionFailed msg := by
  cases e <;> exact ⟨_, rfl⟩

/-- Decompression fails only with `decryptionFailed`. -/
theorem decompress_error {m : CompressionCode} {d : ByteArray} {e : EngineError}
    (failed : decompress m d = .error e) : ∃ msg, e = .decryptionFailed msg := by
  cases m <;> simp only [decompress, reduceCtorEq] at failed
  case zip | zlib =>
    split at failed
    · cases failed
    · rename_i halt _
      cases halt <;> exact ⟨_, (Except.error.inj failed).symm⟩
  all_goals exact ⟨_, (Except.error.inj failed).symm⟩

/-- One inner packet is taken in as the traversal meets it. -/
theorem gathers_collectEntry {descend : ByteArray → Found → Outcome Found} {below : ByteArray → List Met}
    (deeper : ∀ inner found, Gathers (descend inner found) found (below inner)) (found : Found)
    (item : PacketResult Packet) : Gathers (collectEntry descend found item) found (Met.ofEntry below item) := by
  rcases item with e | p
  · -- a packet that did not read
    obtain ⟨msg, is⟩ := asMessageError_decryptionFailed e
    exact .inl ⟨List.mem_singleton_self _, msg, by simp [collectEntry, Except.mapError, is, bind, Except.bind]⟩
  cases p
  case literal l =>
    refine .inr ⟨by simp [Met.ofEntry], ?_⟩
    cases found with
    | mk content signatures =>
      cases content <;> simp [Met.ofEntry, collectEntry, Except.mapError, bind, Except.bind, pure,
        Except.pure, Found.extend, Met.literals, Met.signatures, LiteralPacket.content]
  case compressed m d =>
    cases opened : decompress m d with
    | error e =>
      obtain ⟨msg, rfl⟩ := decompress_error opened
      exact .inl ⟨by simp [Met.ofEntry, opened], msg,
        by simp [collectEntry, Except.mapError, opened, bind, Except.bind]⟩
    | ok inner =>
      have entry : Met.ofEntry below (.ok (.compressed m d)) = below inner := by simp [Met.ofEntry, opened]
      rw [entry]
      simpa [collectEntry, Except.mapError, opened, bind, Except.bind] using deeper inner found
  case signature _ | onePass _ | marker =>
    -- a signature is added; one-pass headers and markers are passed over
    exact .inr ⟨by simp [Met.ofEntry], by simp [Met.ofEntry, collectEntry, Except.mapError, bind, Except.bind,
      pure, Except.pure, Found.extend, Met.literals, Met.signatures]⟩
  -- every other kind of packet has no place among inner packets
  all_goals exact .refused _ (List.mem_singleton_self _)

/-! ## The framing guard -/

/-- Where the framing guard fails, the packet reader has an error entry of its own: both walk
the same frames of fixed length, and the guard fails where a body runs past the end, which is
where the reader stops with `packetIncomplete`. -/
theorem error_mem_read_go_of_checkFraming {α : Type} (parse : HeaderFormat → PacketTag → ByteArray → PacketResult α)
    {b : ByteArray} {e : PacketError} (fuel : Nat) :
    ∀ {fuel' pos : Nat}, fuel ≤ fuel' → Header.checkFraming.go b pos fuel = .error e →
      ∃ e', .error e' ∈ PacketStream.read.go parse b pos fuel' := by
  induction fuel with
  | zero =>
    intro _ _ _ fails
    cases fails
  | succ fuel ih =>
    intro fuel' pos enough fails
    obtain ⟨fuel', rfl⟩ : ∃ k, fuel' = k + 1 := ⟨fuel' - 1, by omega⟩
    cases frame : Header.fixedFrame? b pos with
    | none =>
      rw [Header.checkFraming_go_of_none frame] at fails
      cases fails
    | some sn =>
      obtain ⟨size, n⟩ := sn
      rw [Header.checkFraming_go_of_frame frame] at fails
      obtain ⟨f, t, header⟩ := Header.fixedFrame?_eq_some_iff.mp frame
      rw [PacketStream.read.go, if_pos (Header.lt_size_of_read_ok header), header]
      dsimp only
      split_ifs at fails with runsPast
      · -- the body runs past the end: the reader stops there too
        rw [if_pos (by omega)]
        exact ⟨_, List.mem_singleton_self _⟩
      · rw [if_neg (by omega)]
        obtain ⟨e', mem⟩ := @ih fuel' _ (by omega) fails
        exact ⟨e', List.mem_cons_of_mem _ mem⟩

theorem error_mem_readAll_of_checkFraming {b : ByteArray} {e : PacketError}
    (fails : Header.checkFraming b = .error e) : ∃ e', .error e' ∈ Packet.readAll b :=
  error_mem_read_go_of_checkFraming Packet.read b.size (Nat.le_succ _) fails

/-! ## The reader -/

/-- With enough fuel for the levels left, reading inner packets takes in what the traversal
meets. The induction is on the fuel; each level is a fold over its packets
(`Gathers.foldlM`), whose compressed packets are read one level down by the hypothesis. -/
theorem gathers_collect (fuel : Nat) :
    ∀ (data : ByteArray) (depth : Nat) (found : Found), maxNesting < depth + fuel →
      Gathers (collect fuel data depth found) found (met depth data) := by
  induction fuel with
  | zero =>
    intro data depth found enough
    rw [met_of_deep (by omega)]
    exact .refused _ (List.mem_singleton_self _)
  | succ fuel ih =>
    intro data depth found enough
    by_cases deep : maxNesting < depth
    · have refused : collect (fuel + 1) data depth found =
          .error (.decryptionFailed "compressed data is nested too deeply") := by
        simp [collect, deep, bind, Except.bind, throw, throwThe, MonadExceptOf.throw]
      rw [met_of_deep deep, refused]
      exact .refused _ (List.mem_singleton_self _)
    rw [met_of_shallow (Nat.not_lt.mp deep)]
    cases framing : Header.checkFraming data with
    | error e =>
      -- the guard refuses a level whose packet list refuses an entry of its own
      obtain ⟨msg, is⟩ := asMessageError_decryptionFailed e
      obtain ⟨e', mem⟩ := error_mem_readAll_of_checkFraming framing
      exact .inl ⟨List.mem_flatMap.mpr ⟨_, mem, by simp [Met.ofEntry]⟩, msg,
        by simp [collect, deep, framing, Except.mapError, is, bind, Except.bind]⟩
    | ok u =>
      have level : collect (fuel + 1) data depth found =
          (Packet.readAll data).foldlM (collectEntry fun inner => collect fuel inner (depth + 1)) found := by
        simp [collect, deep, framing, Except.mapError, bind, Except.bind]
      rw [level]
      exact Gathers.foldlM (fun f x _ => gathers_collectEntry (fun inner f' => ih inner (depth + 1) f' (by omega)) f x)
        found

/-- Reading decrypted content, by what the traversal meets. -/
theorem readContent_of_met (data : ByteArray) :
    (Met.refused ∈ met 0 data ∧ ∃ msg, readContent data = .error (.decryptionFailed msg)) ∨
    (Met.refused ∉ met 0 data ∧ readContent data =
      match (Met.literals (met 0 data)).head? with
      | some l => .ok (l.content (Met.signatures (met 0 data)))
      | none => .error (.decryptionFailed "message has no literal data")) := by
  rcases gathers_collect (maxNesting + 2) data 0 {} (by omega) with ⟨mem, msg, failed⟩ | ⟨clear, done⟩
  · exact .inl ⟨mem, msg, by simp [readContent, failed, bind, Except.bind]⟩
  · refine .inr ⟨clear, ?_⟩
    cases first : (Met.literals (met 0 data)).head? <;>
      simp [readContent, done, first, Found.extend, bind, Except.bind, pure, Except.pure, throw, throwThe,
        MonadExceptOf.throw, LiteralPacket.content]

theorem readContent_eq_ok_iff {data : ByteArray} {c : LiteralContent} :
    readContent data = .ok c ↔ Met.refused ∉ met 0 data ∧
      ∃ l, (Met.literals (met 0 data)).head? = some l ∧ c = l.content (Met.signatures (met 0 data)) := by
  rcases readContent_of_met data with ⟨refused, msg, failed⟩ | ⟨clear, read⟩
  · simp [failed, refused]
  · rw [read]
    cases first : (Met.literals (met 0 data)).head? with
    | none => simp
    | some l => simp [clear, eq_comm]

/-- Reading decrypted content fails only with `decryptionFailed`. -/
theorem readContent_error {data : ByteArray} {e : EngineError} (failed : readContent data = .error e) :
    ∃ msg, e = .decryptionFailed msg := by
  rcases readContent_of_met data with ⟨-, msg, failed'⟩ | ⟨-, read⟩
  · rw [failed, Except.error.injEq] at failed'
    exact ⟨msg, failed'⟩
  · rw [read] at failed
    split at failed
    · cases failed
    · exact ⟨_, (Except.error.inj failed).symm⟩

theorem readContent_fails_iff {data : ByteArray} :
    (∃ e, readContent data = .error e) ↔ Met.refused ∈ met 0 data ∨ Met.literals (met 0 data) = [] := by
  rcases readContent_of_met data with ⟨refused, msg, failed⟩ | ⟨clear, read⟩
  · exact ⟨fun _ => .inl refused, fun _ => ⟨_, failed⟩⟩
  · rw [read, ← List.head?_eq_none_iff]
    cases (Met.literals (met 0 data)).head? <;> simp [clear]

/-! ## Nested compressed data -/

/-- `outer` holds `inner` inside `k` compressed packets, each written with a new-format header,
reading back, and decompressing to the next. -/
inductive Wraps : Nat → ByteArray → ByteArray → Prop
  | bare (inner : ByteArray) : Wraps 0 inner inner
  | layer {k : Nat} {m : CompressionCode} {d mid inner : ByteArray} (back : (Packet.compressed m d).ReadsBack)
      (opens : decompress m d = .ok mid) (within : Wraps k mid inner) :
      Wraps (k + 1) (Packet.writeNew (.compressed m d)) inner

/-- A single written packet that reads back is met as its one entry. -/
theorem met_writeNew {p : Packet} {depth : Nat} (back : p.ReadsBack) (shallow : depth ≤ maxNesting) :
    met depth (Packet.writeNew p) = Met.ofEntry (met (depth + 1)) (.ok p) := by
  have single := Packet.readAll_written_back [p] (by simpa using back)
  rw [List.map_singleton, Bytes.concat_cons, Bytes.concat_nil, ByteArray.append_empty] at single
  rw [met_of_shallow shallow, single, List.map_singleton, List.flatMap_singleton]

namespace Wraps

variable {k depth : Nat} {outer inner : ByteArray}

/-- Within the depth bound the layers pass the traversal on to what they hold. -/
theorem met_eq (w : Wraps k outer inner) (room : depth + k ≤ maxNesting + 1) :
    met depth outer = met (depth + k) inner := by
  induction w generalizing depth with
  | bare => rfl
  | layer back opens _ ih =>
    rw [met_writeNew back (by omega)]
    simp only [Met.ofEntry, opens]
    rw [ih (by omega), Nat.add_right_comm, Nat.add_assoc]

/-- Layers that reach past the depth bound are refused. -/
theorem refused_mem (w : Wraps k outer inner) (deep : maxNesting < depth + k) :
    Met.refused ∈ met depth outer := by
  induction w generalizing depth with
  | bare =>
    rw [met_of_deep (by omega)]
    exact List.mem_singleton_self _
  | layer back opens _ ih =>
    by_cases shallow : depth ≤ maxNesting
    · rw [met_writeNew back shallow]
      simp only [Met.ofEntry, opens]
      exact ih (by omega)
    · rw [met_of_deep (by omega)]
      exact List.mem_singleton_self _

end Wraps

/-- A compressed packet that stores its data without compression reads back, given data. -/
theorem read_stored {d : ByteArray} (nonempty : 0 < d.size) :
    Packet.read .new .compressedData (ByteArray.mk #[0] ++ d) = .ok (.compressed .uncompressed d) := by
  have stored : Cursor.ReadsLast
      (do let m ← Cursor.u8; return Packet.compressed (CompressionCode.ofNat m.toNat) (← Cursor.rest))
      (ByteArray.mk #[0] ++ d) (.compressed .uncompressed d) :=
    Cursor.Reads.bindLast (Cursor.reads_u8 0) ((Cursor.readsLast_rest d).map _)
  have whole := stored ByteArray.empty
  rw [ByteArray.empty_append, show ByteArray.empty.size = 0 from rfl] at whole
  -- past the length check, the reader is the one that reads the whole body
  have long : ¬ (ByteArray.mk #[0] ++ d).size - 0 ≤ 1 := by
    simp only [ByteArray.size_append, Bytes.size_singleton]
    omega
  simp only [Packet.read, Packet.reader, Cursor.body, Cursor.run]
  simp only [bind, Cursor.remaining, long, if_false] at whole ⊢
  rw [whole]

/-- `x` inside `k` compressed packets that store it without compression. -/
def storedLayers (x : ByteArray) : Nat → ByteArray
  | 0 => x
  | k + 1 => Packet.writeNew (.compressed .uncompressed (storedLayers x k))

/-- Each stored layer adds a header of two to six bytes and the method byte. -/
theorem size_storedLayers (x : ByteArray) (k : Nat) :
    x.size ≤ (storedLayers x k).size ∧ (storedLayers x k).size ≤ x.size + 7 * k := by
  induction k with
  | zero => simp [storedLayers]
  | succ k ih =>
    have header := Header.size_write_new PacketTag.compressedData (1 + (storedLayers x k).size)
    have layer : (storedLayers x (k + 1)).size =
        (Header.write .new .compressedData (1 + (storedLayers x k).size)).size + (1 + (storedLayers x k).size) := by
      simp [storedLayers, Packet.writeNew, Header.packet, Packet.tag, Packet.body, ByteArray.size_append]
    rw [layer, header]
    split_ifs <;> omega

theorem wraps_storedLayers {x : ByteArray} (nonempty : 0 < x.size) {k : Nat} (small : x.size + 7 * k < Header.maxBodyLength) :
    Wraps k (storedLayers x k) x := by
  induction k with
  | zero => exact .bare x
  | succ k ih =>
    have sizes := size_storedLayers x k
    have back : (Packet.compressed .uncompressed (storedLayers x k)).ReadsBack := by
      refine ⟨?_, read_stored (by omega)⟩
      simp only [Packet.body, ByteArray.size_append, Bytes.size_singleton]
      omega
    exact .layer back rfl (ih (by omega))

/-- A literal packet inside compressed layers is read as it stands when there are at most
`maxNesting` layers, and not at all when there are more. -/
theorem readContent_wraps_literal {k : Nat} {data : ByteArray} {l : LiteralPacket}
    (w : Wraps k data (Packet.writeNew (.literal l))) (back : (Packet.literal l).ReadsBack) :
    readContent data = .ok (l.content []) ↔ k ≤ maxNesting := by
  by_cases few : k ≤ maxNesting
  · have only : met 0 data = [.literal l] := by
      rw [w.met_eq (by omega), Nat.zero_add, met_writeNew back few]
      rfl
    rcases readContent_of_met data with ⟨refused, -⟩ | ⟨-, read⟩
    · rw [only] at refused
      simp at refused
    · rw [read, only]
      simp [few, Met.literals, Met.signatures]
  · rcases readContent_of_met data with ⟨-, msg, failed⟩ | ⟨clear, -⟩
    · simp [failed, few]
    · exact absurd (w.refused_mem (by omega)) clear

/-- What decrypted content reads as. Reading succeeds exactly when the traversal meets no
refusal and some literal packet, and then gives the first literal packet met with every
signature met, in order; otherwise it fails, always with `decryptionFailed`. A literal packet
inside compressed layers is read when there are at most `maxNesting` of them. -/
theorem readContent_follows_traversal :
    (∀ data c, readContent data = .ok c ↔ Met.refused ∉ met 0 data ∧
      ∃ l, (Met.literals (met 0 data)).head? = some l ∧ c = l.content (Met.signatures (met 0 data))) ∧
    (∀ data e, readContent data = .error e → ∃ msg, e = .decryptionFailed msg) ∧
    (∀ data, (∃ e, readContent data = .error e) ↔ Met.refused ∈ met 0 data ∨ Met.literals (met 0 data) = []) ∧
    (∀ k data l, Wraps k data (Packet.writeNew (.literal l)) → (Packet.literal l).ReadsBack →
      (readContent data = .ok (l.content []) ↔ k ≤ maxNesting)) :=
  ⟨fun _ _ => readContent_eq_ok_iff, fun _ _ => readContent_error, fun _ => readContent_fails_iff,
    fun _ _ _ => readContent_wraps_literal⟩

/-- A short binary literal packet with no file name. -/
def shortLiteral : LiteralPacket := ⟨0x62, ByteArray.empty, 0, ByteArray.mk #[104, 105]⟩

theorem shortLiteral_readsBack : (Packet.literal shortLiteral).ReadsBack :=
  ⟨by decide, Packet.read_literal (Cursor.readsLast_literal (.inl rfl) (by decide) (by decide))⟩

/-- A short literal packet inside eight stored layers is read, inside nine it is not. -/
theorem short_literal_nesting_bound :
    readContent (storedLayers (Packet.writeNew (.literal shortLiteral)) 8) = .ok (shortLiteral.content []) ∧
      readContent (storedLayers (Packet.writeNew (.literal shortLiteral)) 9) ≠ .ok (shortLiteral.content []) := by
  have size : (Packet.writeNew (.literal shortLiteral)).size = 10 := by decide
  have nesting := readContent_follows_traversal.2.2.2
  refine ⟨(nesting 8 _ _ (wraps_storedLayers (by omega) (by rw [size]; decide)) shortLiteral_readsBack).mpr
    (by decide), fun read => ?_⟩
  have nine := (nesting 9 _ _ (wraps_storedLayers (by omega) (by rw [size]; decide)) shortLiteral_readsBack).mp read
  exact absurd nine (by decide)

end SealedMail
