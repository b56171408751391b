import Mathlib
import SealedMail.Mime.Walk

/-! # Where the parts of a decrypted MIME message go

The walk of a decrypted MIME message visits its parts depth first, children in order, and of
a signed part only the first child. `Document.stops` lists what it meets, with neither fuel
nor accumulator: the parts that are not multipart (the leaves), the signed parts, whose
signature collector is made when they are met, and child ids that name no part. On a part
table whose children come after their parents (`Document.Ordered`) the fuel of the walk never
runs out: the walk is a fold of one step over that list (`walk_eq_foldlM_stops`).

When the walk succeeds, where each leaf goes is read off the list of leaves alone
(`gather_delivers_leaves`): protected header blocks are kept in order, the first HTML part
that is not an attachment and the first plain text part that is not one fill the two body
slots, and every other leaf is an attachment, in order. The slots are filled across the whole
message and not per `multipart/alternative`; decryption delivers one body, the HTML one when
there is one, so the plain text of a `multipart/mixed` message is withheld when an HTML part
comes before it (`mixed_message_withholds_plain_text`).
-/

namespace SealedMail.Mime

/-! ## The traversal -/

/-- The ids of the children of a multipart body; none for any other. -/
def Body.children : Body → List Nat
  | .multipart children => children
  | _ => []

/-- A part table in which every child comes after its parent, as a reader that numbers the
parts in the order they start writes it. -/
def Document.Ordered (d : Document) : Prop :=
  ∀ i (inside : i < d.parts.size), ∀ c ∈ d.parts[i].body.children, i < c

instance (d : Document) : Decidable d.Ordered :=
  inferInstanceAs (Decidable (∀ i (inside : i < d.parts.size), ∀ c ∈ d.parts[i].body.children, i < c))

theorem Document.Ordered.lt {d : Document} (ordered : d.Ordered) {i : Nat} {part : Part} {children : List Nat}
    (found : d.parts[i]? = some part) (body : part.body = .multipart children) : ∀ c ∈ children, i < c := by
  obtain ⟨inside, rfl⟩ := Array.getElem?_eq_some_iff.mp found
  simpa [Body.children, body] using ordered i inside

/-- What the walk meets. -/
inductive Stop where
  /-- A part that is not multipart, placed by its type. -/
  | leaf (part : Part)
  /-- A signed part, whose signature collector is made before its first child is walked. -/
  | signed (part : Part) (children : List Nat)
  /-- A child id that names no part. -/
  | missing (id : Nat)

/-- The part of a leaf. -/
def Stop.leaf? : Stop → Option Part
  | .leaf part => some part
  | _ => none

/-- What the walk meets from the part `id` down, in order. Only children after their parent are
followed, which in an ordered table are all of them. -/
def Document.stops (d : Document) (id : Nat) : List Stop :=
  if inside : id < d.parts.size then
    let part := d.parts[id]
    match part.body with
    | .multipart children =>
      if part.isType "multipart" "signed" then
        .signed part children :: (children.take 1).flatMap fun c => if id < c then d.stops c else []
      else children.flatMap fun c => if id < c then d.stops c else []
    | _ => [.leaf part]
  else [.missing id]
termination_by d.parts.size - id

/-- The leaves the walk meets, in order. -/
def Document.leaves (d : Document) : List Part := (d.stops 0).filterMap Stop.leaf?

/-- What the walk does at a stop. -/
def Stop.step (d : Document) (g : Gathered) : Stop → Outcome Gathered
  | .leaf part => pure (g.place d part)
  | .signed part children => do
    let c ← signedCollector d part children
    pure (if g.signature.isNone then { g with signature := some c } else g)
  | .missing id => throw (.mimeParse ("missing MIME part " ++ toString id))

namespace Document

variable {d : Document} {id : Nat} {part : Part}

theorem stops_of_missing (found : d.parts[id]? = none) : d.stops id = [.missing id] := by
  rw [stops, dif_neg (by simpa using found)]

theorem stops_of_leaf (found : d.parts[id]? = some part) (leaf : ∀ children, part.body ≠ .multipart children) :
    d.stops id = [.leaf part] := by
  obtain ⟨inside, rfl⟩ := Array.getElem?_eq_some_iff.mp found
  rw [stops, dif_pos inside]
  dsimp only
  split
  · simp_all
  · rfl

theorem stops_of_multipart {children : List Nat} (found : d.parts[id]? = some part)
    (body : part.body = .multipart children) :
    d.stops id = if part.isType "multipart" "signed" then
        .signed part children :: (children.take 1).flatMap fun c => if id < c then d.stops c else []
      else children.flatMap fun c => if id < c then d.stops c else [] := by
  obtain ⟨inside, rfl⟩ := Array.getElem?_eq_some_iff.mp found
  rw [stops, dif_pos inside]
  dsimp only
  simp only [body]

end Document

/-! ## The walk is a fold over what it meets -/

/-- A fold that runs, for each item, a fold of the item's own list runs the fold of those
lists joined. -/
theorem foldlM_flatMap_of_each {α β γ ε : Type} {step : β → α → Except ε β} {run : β → γ → Except ε β}
    {lists : γ → List α} {xs : List γ} (each : ∀ x ∈ xs, ∀ b, run b x = (lists x).foldlM step b) (b : β) :
    xs.foldlM run b = (xs.flatMap lists).foldlM step b := by
  induction xs generalizing b with
  | nil => rfl
  | cons x xs ih =>
    rw [List.foldlM_cons, List.flatMap_cons, List.foldlM_append, each x List.mem_cons_self]
    simp only [ih fun y mem => each y (List.mem_cons_of_mem x mem)]

/-- With fuel for the levels left, the walk is the fold of one step over what it meets. The
induction is on the fuel: a child comes after its parent, so it has fuel for its own levels. -/
theorem walk_eq_foldlM_stops {d : Document} (ordered : d.Ordered) (fuel : Nat) :
    ∀ id g, d.parts.size - id < fuel → walk d fuel id g = (d.stops id).foldlM (Stop.step d) g := by
  induction fuel with
  | zero =>
    intro id g enough
    omega
  | succ fuel ih =>
    intro id g enough
    cases found : d.parts[id]? with
    | none =>
      rw [Document.stops_of_missing found]
      simp [walk, found, Stop.step, bind, Except.bind, throw, throwThe, MonadExceptOf.throw]
    | some part =>
      have inside : id < d.parts.size := (Array.getElem?_eq_some_iff.mp found).1
      have deeper : ∀ c, id < c → ∀ g, walk d fuel c g = (d.stops c).foldlM (Stop.step d) g :=
        fun c after g => ih c g (by omega)
      cases body : part.body with
      | multipart children =>
        have after := ordered.lt found body
        have guarded : ∀ c ∈ children, (if id < c then d.stops c else []) = d.stops c :=
          fun c mem => if_pos (after c mem)
        rw [Document.stops_of_multipart found body]
        by_cases signed : part.isType "multipart" "signed" = true
        · -- a signed part: its collector, then its first child only
          rw [if_pos signed, List.foldlM_cons]
          cases collected : signedCollector d part children with
          | error e => simp [walk, found, body, signed, collected, Stop.step, bind, Except.bind]
          | ok c =>
            simp only [walk, found, body, signed, if_true, collected, Stop.step, bind, Except.bind, pure,
              Except.pure]
            cases children with
            | nil => rfl
            | cons first rest =>
              simp [deeper first (after first List.mem_cons_self), after first List.mem_cons_self]
        · -- any other multipart part: its children in order
          rw [if_neg signed]
          simp only [walk, found, body, signed, Bool.false_eq_true, if_false, bind, Except.bind]
          refine foldlM_flatMap_of_each (fun c mem b => ?_) g
          rw [guarded c mem]
          exact deeper c (after c mem) b
      | text t | html t | binary b | message b =>
        rw [Document.stops_of_leaf found (by simp [body])]
        simp [walk, found, body, Stop.step, bind, Except.bind, pure, Except.pure]

/-! ## Where the leaves go -/

namespace Part

/-- Whether a part holds protected header blocks. -/
def carriesHeaders (p : Part) : Bool := p.isType "text" "rfc822-headers"

/-- The text a part offers as the HTML body: an HTML part that is not an attachment. -/
def htmlBody? (p : Part) : Option String :=
  if p.carriesHeaders || p.isAttachment then none
  else match p.body with
    | .html t => some t
    | _ => none

/-- The text a part offers as the plain body: plain text that is not an attachment. -/
def plainBody? (p : Part) : Option String :=
  if p.carriesHeaders || p.isAttachment || !p.isPlain then none
  else match p.body with
    | .text t => some t
    | _ => none

theorem htmlBody?_of_carriesHeaders {p : Part} (headers : p.carriesHeaders = true) : p.htmlBody? = none := by
  simp [htmlBody?, headers]

theorem plainBody?_of_carriesHeaders {p : Part} (headers : p.carriesHeaders = true) : p.plainBody? = none := by
  simp [plainBody?, headers]

/-- No part offers both bodies. -/
theorem plainBody?_of_htmlBody? {p : Part} {t : String} (html : p.htmlBody? = some t) : p.plainBody? = none := by
  unfold htmlBody? at html
  unfold plainBody?
  split at html
  · cases html
  · split at html
    · rename_i body
      simp [body]
    · cases html

theorem htmlBody?_of_plainBody? {p : Part} {t : String} (plain : p.plainBody? = some t) : p.htmlBody? = none := by
  cases html : p.htmlBody? with
  | none => rfl
  | some h => rw [plainBody?_of_htmlBody? html] at plain; cases plain

theorem carriesHeaders_of_htmlBody? {p : Part} {t : String} (html : p.htmlBody? = some t) :
    p.carriesHeaders = false := by
  cases headers : p.carriesHeaders
  · rfl
  · rw [htmlBody?_of_carriesHeaders headers] at html; cases html

theorem carriesHeaders_of_plainBody? {p : Part} {t : String} (plain : p.plainBody? = some t) :
    p.carriesHeaders = false := by
  cases headers : p.carriesHeaders
  · rfl
  · rw [plainBody?_of_carriesHeaders headers] at plain; cases plain

end Part

/-- One more item at the end of a list stays when the first match is erased, unless it is that
match. -/
theorem eraseP_append_singleton {α : Type} {q : α → Bool} {l : List α} {x : α}
    (kept : q x = false ∨ ∃ y ∈ l, q y = true) : (l ++ [x]).eraseP q = l.eraseP q ++ [x] := by
  rcases kept with miss | ⟨y, mem, hit⟩
  · rw [List.eraseP_append]
    split
    · rfl
    · rename_i before
      have none : ∀ y ∈ l, ¬q y = true := by simpa using before
      simp [List.eraseP_of_forall_not none, miss]
  · exact List.eraseP_append_left hit [x] mem

/-- A slot that holds the first offer of a list still does once one more item is added, when the
item offers nothing or the slot is filled already. -/
theorem findSome?_append_singleton_of {α β : Type} {f : α → Option β} {l : List α} {x : α} {s : Option β}
    (found : s = l.findSome? f) (kept : f x = none ∨ s.isSome) : s = (l ++ [x]).findSome? f := by
  rw [List.findSome?_append, ← found]
  rcases kept with none | filled
  · simp [none]
  · obtain ⟨h, rfl⟩ := Option.isSome_iff_exists.mp filled
    rfl

/-- The first match, last in a list, is what is erased. -/
theorem eraseP_append_singleton_of_first {α : Type} {q : α → Bool} {l : List α} {x : α}
    (before : ∀ y ∈ l, q y = false) (hit : q x = true) : (l ++ [x]).eraseP q = l := by
  rw [List.eraseP_append_right _ (by simpa using before), List.eraseP_cons_of_pos hit, List.append_nil]

/-- The leaves that can be attachments: all but the protected header blocks. -/
def attachable (leaves : List Part) : List Part := leaves.filter fun p => !p.carriesHeaders

theorem mem_attachable {leaves : List Part} {p : Part} : p ∈ attachable leaves ↔ p ∈ leaves ∧ p.carriesHeaders = false := by
  simp [attachable]

theorem attachable_of_carriesHeaders {leaves : List Part} {p : Part} (headers : p.carriesHeaders = true) :
    attachable (leaves ++ [p]) = attachable leaves := by
  simp [attachable, headers]

theorem attachable_append_singleton {leaves : List Part} {p : Part} (open_ : p.carriesHeaders = false) :
    attachable (leaves ++ [p]) = attachable leaves ++ [p] := by
  simp [attachable, open_]

/-- Where the leaves `leaves` go in the gathered parts `g`: the protected header blocks in
order; the first HTML body and the first plain body in the two body slots; every other leaf an
attachment, with its raw header block and its contents, in order. -/
structure Places (d : Document) (leaves : List Part) (g : Gathered) : Prop where
  html : g.html = leaves.findSome? Part.htmlBody?
  plain : g.plain = leaves.findSome? Part.plainBody?
  headers : g.encryptedHeaders.toList =
    (leaves.filter Part.carriesHeaders).map fun p => Utf8.decodeLossy p.body.contents
  attachments : g.attachments.toList =
    (((attachable leaves).eraseP fun p => p.htmlBody?.isSome).eraseP fun p => p.plainBody?.isSome).map
      fun p => (d.rawHeaders p, p.body.contents)

/-- What placing one part does: it is a protected header block, or it fills an empty body slot
that it offers a text for, or it becomes an attachment. -/
theorem Gathered.place_cases (g : Gathered) (d : Document) (p : Part) :
    (p.carriesHeaders = true ∧
      g.place d p = { g with encryptedHeaders := g.encryptedHeaders.push (Utf8.decodeLossy p.body.contents) }) ∨
    (∃ t, p.htmlBody? = some t ∧ g.html = none ∧ g.place d p = { g with html := some t }) ∨
    (∃ t, p.plainBody? = some t ∧ g.plain = none ∧ g.place d p = { g with plain := some t }) ∨
    (p.carriesHeaders = false ∧ (p.htmlBody? = none ∨ g.html.isSome) ∧ (p.plainBody? = none ∨ g.plain.isSome) ∧
      g.place d p = g.attach d p) := by
  cases headers : p.carriesHeaders
  case true =>
    have isHeaders : p.isType "text" "rfc822-headers" = true := headers
    exact .inl ⟨rfl, by simp [Gathered.place, isHeaders]⟩
  have other : p.isType "text" "rfc822-headers" = false := headers
  right
  by_cases attached : p.isAttachment = true
  · -- an attachment is attached whatever its type
    exact .inr (.inr ⟨rfl, .inl (by simp [Part.htmlBody?, attached]), .inl (by simp [Part.plainBody?, attached]),
      by cases body : p.body <;> simp [Gathered.place, other, body, attached]⟩)
  have inline : p.isAttachment = false := by simpa using attached
  cases body : p.body with
  | html t =>
    have offered : p.htmlBody? = some t := by simp [Part.htmlBody?, headers, inline, body]
    cases slot : g.html with
    | none => exact .inl ⟨t, offered, rfl, by simp [Gathered.place, other, body, inline, slot]⟩
    | some h =>
      exact .inr (.inr ⟨rfl, .inr rfl, .inl (Part.plainBody?_of_htmlBody? offered),
        by simp [Gathered.place, other, body, slot]⟩)
  | text t =>
    by_cases plain : p.isPlain = true
    · have offered : p.plainBody? = some t := by simp [Part.plainBody?, headers, inline, plain, body]
      cases slot : g.plain with
      | none => exact .inr (.inl ⟨t, offered, rfl, by simp [Gathered.place, other, body, inline, plain, slot]⟩)
      | some h =>
        exact .inr (.inr ⟨rfl, .inl (by simp [Part.htmlBody?, body]), .inr rfl,
          by simp [Gathered.place, other, body, slot]⟩)
    · -- text that is not plain is attached
      exact .inr (.inr ⟨rfl, .inl (by simp [Part.htmlBody?, body]), .inl (by simp [Part.plainBody?, plain]),
        by simp [Gathered.place, other, body, plain]⟩)
  | binary b | message b | multipart cs =>
    exact .inr (.inr ⟨rfl, .inl (by simp [Part.htmlBody?, body]), .inl (by simp [Part.plainBody?, body]),
      by simp [Gathered.place, other, body]⟩)

namespace Places

variable {d : Document} {leaves : List Part} {g : Gathered}

/-- An empty HTML slot: no leaf that can be an attachment offers an HTML body. -/
theorem html_free (placed : Places d leaves g) (slot : g.html = none) :
    ∀ y ∈ attachable leaves, y.htmlBody?.isSome = false := by
  intro y mem
  simp [List.findSome?_eq_none_iff.mp (placed.html ▸ slot) y (mem_attachable.mp mem).1]

/-- An empty plain slot: no leaf left once the first HTML body is erased offers a plain body. -/
theorem plain_free (placed : Places d leaves g) (slot : g.plain = none) :
    ∀ y ∈ (attachable leaves).eraseP (fun p => p.htmlBody?.isSome), y.plainBody?.isSome = false := by
  intro y mem
  simp [List.findSome?_eq_none_iff.mp (placed.plain ▸ slot) y (mem_attachable.mp (List.mem_of_mem_eraseP mem)).1]

/-- A leaf that offers no HTML body, or comes after a filled HTML slot, is not the first HTML body:
the slot was filled by a leaf before it. -/
theorem html_kept (placed : Places d leaves g) {p : Part} (noHtml : p.htmlBody? = none ∨ g.html.isSome) :
    p.htmlBody?.isSome = false ∨ ∃ y ∈ attachable leaves, y.htmlBody?.isSome = true := by
  rcases noHtml with none | filled
  · exact .inl (by simp [none])
  · obtain ⟨h, slot⟩ := Option.isSome_iff_exists.mp filled
    obtain ⟨y, mem, offered⟩ := List.exists_of_findSome?_eq_some (placed.html ▸ slot)
    exact .inr ⟨y, mem_attachable.mpr ⟨mem, Part.carriesHeaders_of_htmlBody? offered⟩, by simp [offered]⟩

/-- The same for the plain slot, among the leaves left once the first HTML body is erased. -/
theorem plain_kept (placed : Places d leaves g) {p : Part} (noPlain : p.plainBody? = none ∨ g.plain.isSome) :
    p.plainBody?.isSome = false ∨
      ∃ y ∈ (attachable leaves).eraseP (fun p => p.htmlBody?.isSome), y.plainBody?.isSome = true := by
  rcases noPlain with none | filled
  · exact .inl (by simp [none])
  · obtain ⟨h, slot⟩ := Option.isSome_iff_exists.mp filled
    obtain ⟨y, mem, offered⟩ := List.exists_of_findSome?_eq_some (placed.plain ▸ slot)
    refine .inr ⟨y, ?_, by simp [offered]⟩
    rw [List.mem_eraseP_of_neg (by simp [Part.htmlBody?_of_plainBody? offered])]
    exact mem_attachable.mpr ⟨mem, Part.carriesHeaders_of_plainBody? offered⟩

/-- Placing one more leaf keeps the placement: the step of the fold over the leaves. -/
theorem place (placed : Places d leaves g) (p : Part) : Places d (leaves ++ [p]) (g.place d p) := by
  rcases g.place_cases d p with ⟨headers, placed'⟩ | ⟨t, offered, slot, placed'⟩ | ⟨t, offered, slot, placed'⟩ |
    ⟨headers, noHtml, noPlain, placed'⟩
  · -- a protected header block is kept apart
    rw [placed']
    exact ⟨findSome?_append_singleton_of placed.html (.inl (Part.htmlBody?_of_carriesHeaders headers)),
      findSome?_append_singleton_of placed.plain (.inl (Part.plainBody?_of_carriesHeaders headers)),
      by simp [placed.headers, headers], by rw [placed.attachments, attachable_of_carriesHeaders headers]⟩
  · -- the first HTML body fills its slot
    rw [placed']
    have notHeaders := Part.carriesHeaders_of_htmlBody? offered
    have kept : (attachable leaves).eraseP (fun p => p.htmlBody?.isSome) = attachable leaves :=
      List.eraseP_of_forall_not (by simpa using placed.html_free slot)
    refine ⟨by simp [← placed.html, slot, offered],
      findSome?_append_singleton_of placed.plain (.inl (Part.plainBody?_of_htmlBody? offered)),
      by simp [placed.headers, notHeaders], ?_⟩
    rw [placed.attachments, attachable_append_singleton notHeaders,
      eraseP_append_singleton_of_first (placed.html_free slot) (by simp [offered]), kept]
  · -- the first plain body fills its slot
    rw [placed']
    have notHeaders := Part.carriesHeaders_of_plainBody? offered
    have notHtml := Part.htmlBody?_of_plainBody? offered
    have kept : ((attachable leaves).eraseP fun p => p.htmlBody?.isSome).eraseP (fun p => p.plainBody?.isSome) =
        (attachable leaves).eraseP fun p => p.htmlBody?.isSome :=
      List.eraseP_of_forall_not (by simpa using placed.plain_free slot)
    refine ⟨findSome?_append_singleton_of placed.html (.inl notHtml), by simp [← placed.plain, slot, offered],
      by simp [placed.headers, notHeaders], ?_⟩
    rw [placed.attachments, attachable_append_singleton notHeaders, eraseP_append_singleton (.inl (by simp [notHtml])),
      eraseP_append_singleton_of_first (placed.plain_free slot) (by simp [offered]), kept]
  · -- any other leaf is attached, after the first body of each kind
    rw [placed']
    refine ⟨findSome?_append_singleton_of placed.html noHtml, findSome?_append_singleton_of placed.plain noPlain,
      by simp [Gathered.attach, placed.headers, headers], ?_⟩
    rw [Gathered.attach, Array.toList_push, placed.attachments, attachable_append_singleton headers,
      eraseP_append_singleton (placed.html_kept noHtml), eraseP_append_singleton (placed.plain_kept noPlain),
      List.map_append, List.map_singleton]

/-- Nothing placed yet: the placement of no leaves. -/
theorem empty (d : Document) : Places d [] {} := ⟨rfl, rfl, rfl, rfl⟩

/-- Placing the leaves one after the other from nothing places them all. The induction adds one
leaf at the end at a time, as the fold takes them. -/
theorem foldl_place (d : Document) (leaves : List Part) :
    Places d leaves (leaves.foldl (fun g p => g.place d p) {}) := by
  induction leaves using List.reverseRecOn with
  | nil => exact empty d
  | append_singleton leaves p ih =>
    rw [List.foldl_append, List.foldl_cons, List.foldl_nil]
    exact ih.place p

/-- The placement does not look at the signature collector. -/
theorem withSignature (placed : Places d leaves g) (c : Option SignatureCollector) :
    Places d leaves { g with signature := c } :=
  ⟨placed.html, placed.plain, placed.headers, placed.attachments⟩

end Places

/-- Placing a part leaves the signature collector as it is. -/
theorem Gathered.place_withSignature (g : Gathered) (d : Document) (p : Part) (c : Option SignatureCollector) :
    ({ g with signature := c } : Gathered).place d p = { g.place d p with signature := c } := by
  unfold Gathered.place Gathered.attach
  cases p.body <;> dsimp only <;> split_ifs <;> rfl

theorem Gathered.foldl_place_withSignature (g : Gathered) (d : Document) (leaves : List Part)
    (c : Option SignatureCollector) :
    leaves.foldl (fun g p => g.place d p) { g with signature := c } =
      { leaves.foldl (fun g p => g.place d p) g with signature := c } := by
  induction leaves generalizing g with
  | nil => rfl
  | cons p leaves ih => rw [List.foldl_cons, List.foldl_cons, g.place_withSignature d p c, ih]

/-- A successful fold over what the walk meets places its leaves as the fold of `place` over
them: a signed part sets only the signature collector, and no id is missing. -/
theorem foldlM_step_eq_ok {d : Document} {stops : List Stop} {g g' : Gathered}
    (ran : stops.foldlM (Stop.step d) g = .ok g') :
    g' = { (stops.filterMap Stop.leaf?).foldl (fun g p => g.place d p) g with signature := g'.signature } := by
  induction stops generalizing g with
  | nil =>
    cases ran
    rfl
  | cons stop stops ih =>
    rw [List.foldlM_cons] at ran
    cases stop with
    | leaf part => exact ih ran
    | signed part children =>
      cases collected : signedCollector d part children with
      | error e => simp [Stop.step, collected, bind, Except.bind] at ran
      | ok c =>
        simp only [Stop.step, collected, bind, Except.bind, pure, Except.pure] at ran
        have skipped : (Stop.signed part children :: stops).filterMap Stop.leaf? = stops.filterMap Stop.leaf? := rfl
        rw [skipped]
        split at ran
        · rw [ih ran, Gathered.foldl_place_withSignature]
        · exact ih ran
    | missing id => simp [Stop.step, bind, Except.bind, throw, throwThe, MonadExceptOf.throw] at ran

/-! ## Delivery -/

/-- On an ordered part table the walk is the fold of one step over what it meets, with no fuel
left to run out; and when it succeeds, the leaves go where `Places` says: protected header
blocks in order, the first HTML body and the first plain body that are not attachments in the
two body slots, and every other leaf an attachment, in order. -/
theorem gather_delivers_leaves (d : Document) (ordered : d.Ordered) :
    d.gather = (d.stops 0).foldlM (Stop.step d) {} ∧ ∀ g, d.gather = .ok g → Places d d.leaves g := by
  have walked : d.gather = (d.stops 0).foldlM (Stop.step d) {} :=
    walk_eq_foldlM_stops ordered (d.parts.size + 1) 0 {} (by omega)
  refine ⟨walked, fun g gathered => ?_⟩
  rw [walked] at gathered
  rw [foldlM_step_eq_ok gathered]
  exact (Places.foldl_place d d.leaves).withSignature g.signature

/-- A `multipart/mixed` message with an HTML part and then a plain text part, neither of them an
attachment. -/
def mixedHtmlThenPlain : String :=
  "Content-Type: multipart/mixed; boundary=\"b\"\r\n\r\n--b\r\nContent-Type: text/html\r\n\r\n<p>hi</p>\r\n" ++
    "--b\r\nContent-Type: text/plain\r\n\r\nplain note\r\n--b--\r\n"

/-- The message reads as an ordered part table, whose walk places its leaves. -/
theorem mixed_message_delivers_leaves :
    ∃ d, Mime.parse mixedHtmlThenPlain.toUTF8 = some d ∧ d.Ordered ∧
      (d.gather = (d.stops 0).foldlM (Stop.step d) {} ∧ ∀ g, d.gather = .ok g → Places d d.leaves g) := by
  obtain ⟨d, parsed, ordered⟩ : ∃ d, Mime.parse mixedHtmlThenPlain.toUTF8 = some d ∧ decide d.Ordered = true :=
    (Option.any_eq_true _ _).mp (by decide +kernel)
  exact ⟨d, parsed, of_decide_eq_true ordered, gather_delivers_leaves d (of_decide_eq_true ordered)⟩

/-- Both parts of the message fill a body slot, and neither is an attachment or a header block:
decryption, which delivers the HTML body, withholds the plain text, though the two are not
alternatives of each other. -/
theorem mixed_message_withholds_plain_text :
    ((Mime.parse mixedHtmlThenPlain.toUTF8).bind fun d => d.gather.toOption.map fun g =>
      (g.html, g.plain, g.attachments.size, g.encryptedHeaders.size)) =
      some (some "<p>hi</p>", some "plain note", 0, 0) := by
  decide +kernel

end SealedMail.Mime
