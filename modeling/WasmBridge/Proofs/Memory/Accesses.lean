import WasmBridge.Proofs.Context.Fixtures
import WasmBridge.Proofs.Context.Storage
import WasmBridge.Proofs.Text.Utf8

/-!
# Memory as an array of bytes that grows

A guest memory is viewed, written, read as text and grown, in any order.  What an access
comes to depends on what came of those before it: on the size that the memory has by
then, and for each address on the latest write that covered it.  It does not depend on
the kind of the memory.
-/

namespace WasmBridge

open Activity

/-- An access to the memory of a guest. -/
inductive Access where
  | view (offset length : UInt32)
  | write (offset : UInt32) (bytes : Bytes)
  | readText (offset length : UInt32)
  | grow (pages : UInt32)

namespace Access

/-- What an access came to. -/
inductive Outcome where
  | viewed (result : Except Fault Bytes)
  | wrote (result : Except Fault Unit)
  | read (result : Except Fault String)
  | grew (result : Except Guest.Trap UInt32)

/-- The host views, writes and reads through the bridge; the guest grows its memory. -/
def perform : Access → Activity Outcome
  | view offset length => return .viewed (← (Attempt.view offset length).run)
  | write offset bytes => return .wrote (← (Attempt.write offset bytes).run)
  | readText offset length => return .read (← (Attempt.readText offset length).run)
  | grow pages => return .grew (← (Guest.grow pages).run)

/-- One access after the other. -/
def performAll : List Access → Activity (List Outcome)
  | [] => return []
  | access :: rest => do
    let outcome ← access.perform
    return outcome :: (← performAll rest)

/-! ## What is expected after a history -/

/-- The accesses so far and what they came to, the first one first. -/
abbrev History := List (Access × Outcome)

/-- The number of pages after an access. -/
def pagesAfter (limit pages : Nat) : Access → Nat
  | grow more => if pages + more.toNat ≤ limit then pages + more.toNat else pages
  | _ => pages

/-- The number of pages after a history. -/
def pages (memory : LinearMemory) (history : History) : Nat :=
  history.foldl (fun pages (access, _) => access.pagesAfter memory.limit pages) memory.pages

/-- The size in bytes after a history. -/
def size (memory : LinearMemory) (history : History) : Nat :=
  pages memory history * pageSize

/-- The byte that a write put at an address, if it succeeded and covers the address. -/
def put? (address : Nat) : Access × Outcome → Option UInt8
  | (write offset bytes, .wrote (.ok ())) => byteOver? offset.toNat bytes address
  | _ => none

/-- The byte that an address has at first; a page that is added is all 0. -/
def initial (memory : LinearMemory) (address : Nat) : UInt8 :=
  if address < memory.size then memory.byteAt address else 0

/-- The byte of the latest write that covers an address, or the one it had at first. -/
def byte (memory : LinearMemory) (history : History) (address : Nat) : UInt8 :=
  (history.reverse.findSome? (put? address)).getD (initial memory address)

/-- The answer to a view after a history. -/
def expectedView (memory : LinearMemory) (history : History) (offset length : UInt32) :
    Except Fault Bytes :=
  if offset.toNat + length.toNat ≤ size memory history then
    .ok ((List.range' offset.toNat length.toNat).map (byte memory history))
  else .error (.outOfBounds offset.toNat length.toNat (size memory history))

/-- The answer to a write after a history. -/
def expectedWrite (memory : LinearMemory) (history : History) (offset : UInt32)
    (bytes : Bytes) : Except Fault Unit :=
  if offset.toNat + bytes.length ≤ size memory history then .ok ()
  else .error (.outOfBounds offset.toNat bytes.length (size memory history))

/-- What an access comes to after a history. -/
def expected (memory : LinearMemory) (history : History) : Access → Outcome
  | view offset length => .viewed (expectedView memory history offset length)
  | write offset bytes => .wrote (expectedWrite memory history offset bytes)
  | readText offset length =>
    .read (expectedView memory history offset length >>= fun bytes => decodeText bytes offset)
  | grow more => .grew (.ok
      (if pages memory history + more.toNat ≤ memory.limit then
        UInt32.ofNat (pages memory history)
      else Guest.refused))

/-- The memory after an access. -/
def applied (memory : LinearMemory) : Access → LinearMemory
  | view _ _ => memory
  | write offset bytes =>
    if memory.fits offset.toNat bytes.length then memory.put offset.toNat bytes else memory
  | readText _ _ => memory
  | grow more => ((memory.grow? more.toNat).map Prod.snd).getD memory

variable {memory now : LinearMemory} {history : History} {before : Moment} {bridge : Bridge}

/-- A memory is what an earlier one became by a history. -/
structure Accords (memory : LinearMemory) (history : History) (now : LinearMemory) : Prop where
  pages : now.pages = pages memory history
  limit : now.limit = memory.limit
  bytes : ∀ address, now.byteAt address = byte memory history address

/-- Nothing was written beyond the end of a memory.  A new memory is clean, and every access
keeps it so. -/
def Clean (memory : LinearMemory) : Prop :=
  ∀ address, memory.size ≤ address → memory.byteAt address = 0

namespace Clean

theorem of_new (pages limit : Nat) : Clean { pages, limit } := by
  intro address _
  exact Std.TreeMap.getD_emptyc

theorem of_put {offset : Nat} {bytes : Bytes} (clean : Clean memory)
    (fits : memory.fits offset bytes.length = true) : Clean (memory.put offset bytes) := by
  intro address beyond
  rw [LinearMemory.size_put] at beyond
  rw [LinearMemory.fits_iff] at fits
  rw [LinearMemory.byteAt_put_of_outside (Or.inr (Nat.le_trans fits beyond))]
  exact clean address beyond

theorem of_applied (clean : Clean memory) (access : Access) : Clean (access.applied memory) := by
  cases access with
  | view offset length => exact clean
  | readText offset length => exact clean
  | write offset bytes =>
      rw [applied]
      split
      · next fits => exact clean.of_put fits
      · exact clean
  | grow more =>
      rw [applied, LinearMemory.grow?]
      split
      · intro address beyond
        refine clean address (Nat.le_trans ?_ beyond)
        exact Nat.mul_le_mul_right _ (Nat.le_add_right _ _)
      · exact clean

end Clean

namespace Accords

theorem start (clean : Clean memory) : Accords memory [] memory where
  pages := rfl
  limit := rfl
  bytes address := by
    rw [byte, List.reverse_nil, List.findSome?_nil, Option.getD_none, initial]
    split
    · rfl
    · next beyond => exact clean address (Nat.le_of_not_lt beyond)

theorem size (accords : Accords memory history now) : now.size = Access.size memory history := by
  unfold LinearMemory.size Access.size
  rw [accords.pages]

theorem fits_iff (accords : Accords memory history now) {offset length : Nat} :
    now.fits offset length = true ↔ offset + length ≤ Access.size memory history := by
  rw [LinearMemory.fits_iff, accords.size]

theorem view_eq (accords : Accords memory history now) (bridge : Bridge)
    (offset length : UInt32) :
    bridge.view now offset length = expectedView memory history offset length := by
  rw [Bridge.view_eq]
  unfold expectedView LinearMemory.outside LinearMemory.slice
  simp only [accords.fits_iff, accords.size, funext accords.bytes]

theorem grow?_eq (accords : Accords memory history now) (more : Nat) :
    now.grow? more =
      if Access.pages memory history + more ≤ memory.limit then
        some (Access.pages memory history, { now with pages := Access.pages memory history + more })
      else none := by
  unfold LinearMemory.grow?
  rw [accords.pages, accords.limit]

/-- One access through the bridge, whatever the kind of the memory. -/
theorem perform_atOnce (accords : Accords memory history now)
    (bound : before.1.bridge = some bridge) (found : before.memory? = some now)
    (access : Access) :
    access.perform.EndsAtOnce before (expected memory history access)
      (before.withMemory (access.applied now)) := by
  cases access with
  | view offset length =>
      have viewed := Attempt.view_atOnce bound found offset length
      rw [accords.view_eq] at viewed
      rw [applied, Moment.withMemory_self found]
      exact viewed.bind rfl
  | write offset bytes =>
      rw [expected, applied, expectedWrite]
      by_cases fits : now.fits offset.toNat bytes.length = true
      · rw [if_pos fits, if_pos (accords.fits_iff.mp fits)]
        exact (Attempt.write_atOnce bound found offset bytes fits).bind rfl
      · have refused := Attempt.write_atOnce_of_outside bound found offset bytes fits
        rw [LinearMemory.outside, accords.size] at refused
        rw [if_neg fits, if_neg (mt accords.fits_iff.mpr fits), Moment.withMemory_self found]
        exact refused.bind rfl
  | readText offset length =>
      have read := Attempt.readText_atOnce bound found offset length
      rw [Bridge.readText_eq, accords.view_eq] at read
      rw [applied, Moment.withMemory_self found]
      exact read.bind rfl
  | grow more =>
      have grown := Guest.grow_atOnce found more
      rw [expected, applied]
      rw [accords.grow?_eq] at grown ⊢
      split
      · next within =>
          rw [if_pos within] at grown
          exact grown.bind rfl
      · next beyond =>
          rw [if_neg beyond] at grown
          rw [Option.map_none, Option.getD_none, Moment.withMemory_self found]
          exact grown.bind rfl

end Accords

/-! ## One more access -/

theorem pages_append (memory : LinearMemory) (history : History) (event : Access × Outcome) :
    pages memory (history ++ [event]) =
      event.1.pagesAfter memory.limit (pages memory history) := by
  unfold pages
  rw [List.foldl_append]
  rfl

theorem byte_append (memory : LinearMemory) (history : History) (event : Access × Outcome)
    (address : Nat) :
    byte memory (history ++ [event]) address =
      (put? address event).getD (byte memory history address) := by
  unfold byte
  rw [List.reverse_append, List.reverse_singleton, List.singleton_append, List.findSome?_cons]
  cases put? address event with
  | none => rw [Option.getD_none]
  | some new => rw [Option.getD_some, Option.getD_some]

theorem le_pagesAfter (limit pages : Nat) (access : Access) :
    pages ≤ access.pagesAfter limit pages := by
  cases access with
  | grow more =>
      rw [pagesAfter]
      split
      · exact Nat.le_add_right _ _
      · exact Nat.le_refl _
  | _ => exact Nat.le_refl _

/-- The size never goes down. -/
theorem size_le_append (memory : LinearMemory) (earlier later : History) :
    size memory earlier ≤ size memory (earlier ++ later) := by
  refine Nat.mul_le_mul_right _ ?_
  induction later generalizing earlier with
  | nil => exact Nat.le_of_eq (congrArg (pages memory) (List.append_nil earlier).symm)
  | cons event later ih =>
      refine Nat.le_trans ?_ (List.append_cons earlier event later ▸ ih (earlier ++ [event]))
      rw [pages_append]
      exact le_pagesAfter _ _ _

/-- An access that adds no page and puts no byte leaves the memory in accord. -/
theorem Accords.idle (accords : Accords memory history now) {event : Access × Outcome}
    (same : event.1.pagesAfter memory.limit (Access.pages memory history) =
      Access.pages memory history)
    (nothing : ∀ address, put? address event = none) :
    Accords memory (history ++ [event]) now where
  pages := by rw [pages_append, same, accords.pages]
  limit := accords.limit
  bytes address := by
    rw [byte_append, nothing, Option.getD_none]
    exact accords.bytes address

theorem Accords.step (accords : Accords memory history now) (access : Access) :
    Accords memory (history ++ [(access, expected memory history access)])
      (access.applied now) := by
  cases access with
  | view offset length => exact accords.idle rfl fun _ => rfl
  | readText offset length => exact accords.idle rfl fun _ => rfl
  | write offset bytes =>
      rw [applied, expected, expectedWrite]
      by_cases fits : now.fits offset.toNat bytes.length = true
      · rw [if_pos fits, if_pos (accords.fits_iff.mp fits)]
        refine ⟨?_, ?_, fun address => ?_⟩
        · rw [LinearMemory.pages_put, pages_append]
          exact accords.pages
        · rw [LinearMemory.limit_put]
          exact accords.limit
        · rw [LinearMemory.byteAt_put, byte_append, accords.bytes]
          rfl
      · rw [if_neg fits, if_neg (mt accords.fits_iff.mpr fits)]
        exact accords.idle rfl fun _ => rfl
  | grow more =>
      rw [applied, accords.grow?_eq]
      by_cases within : Access.pages memory history + more.toNat ≤ memory.limit
      · rw [if_pos within]
        refine ⟨?_, accords.limit, fun address => ?_⟩
        · rw [pages_append, pagesAfter, if_pos within]
          rfl
        · have nothing : put? address (grow more, expected memory history (grow more)) = none :=
            rfl
          rw [byte_append, nothing, Option.getD_none]
          exact accords.bytes address
      · rw [if_neg within]
        exact accords.idle (if_neg within) fun _ => rfl

/-- Whether an access was refused with a fault. -/
def Outcome.isFault : Outcome → Prop
  | viewed result => ¬ result.isOk
  | wrote result => ¬ result.isOk
  | read result => ¬ result.isOk
  | grew _ => False

theorem frame_of_isFault {access : Access} (refused : (expected memory history access).isFault) :
    size memory (history ++ [(access, expected memory history access)]) = size memory history ∧
      byte memory (history ++ [(access, expected memory history access)]) =
        byte memory history := by
  have kept (same : access.pagesAfter memory.limit (pages memory history) = pages memory history)
      (nothing : ∀ address, put? address (access, expected memory history access) = none) :
      size memory (history ++ [(access, expected memory history access)]) =
          size memory history ∧
        byte memory (history ++ [(access, expected memory history access)]) =
          byte memory history := by
    refine ⟨?_, funext fun address => ?_⟩
    · rw [size, pages_append, same, size]
    · rw [byte_append, nothing, Option.getD_none]
  cases access with
  | view offset length => exact kept rfl fun _ => rfl
  | readText offset length => exact kept rfl fun _ => rfl
  | grow more => exact refused.elim
  | write offset bytes =>
      refine kept rfl fun address => ?_
      rw [expected] at refused ⊢
      cases answer : expectedWrite memory history offset bytes with
      | ok done =>
          rw [answer] at refused
          exact absurd rfl refused
      | error fault => rfl

/-- A text is read exactly when the stretch is viewed and is the encoding of the text. -/
theorem readText_eq_ok_iff {offset length : UInt32} {text : String} :
    expected memory history (.readText offset length) = .read (.ok text) ↔
      expectedView memory history offset length = .ok (Text.Utf8.encode text) := by
  rw [expected, Outcome.read.injEq]
  cases expectedView memory history offset length with
  | error fault => exact ⟨nofun, nofun⟩
  | ok bytes =>
      rw [Except.ok.injEq]
      exact decodeText_eq_ok_iff

/-! ## All accesses -/

/-- What the accesses of a list come to after a history. -/
def expectedAll (memory : LinearMemory) (history : History) : List Access → List Outcome
  | [] => []
  | access :: rest =>
    expected memory history access ::
      expectedAll memory (history ++ [(access, expected memory history access)]) rest

theorem Accords.performAll (accesses : List Access) (accords : Accords memory history now) :
    Accords memory (history ++ accesses.zip (expectedAll memory history accesses))
        (accesses.foldl applied now) ∧
      ∀ before bridge, before.1.bridge = some bridge → before.memory? = some now →
        (Access.performAll accesses).EndsAtOnce before (expectedAll memory history accesses)
          (before.withMemory (accesses.foldl applied now)) := by
  induction accesses generalizing history now with
  | nil =>
      refine ⟨?_, fun before bridge _ found => ?_⟩
      · rw [List.zip_nil_left, List.append_nil]
        exact accords
      · rw [List.foldl_nil, Moment.withMemory_self found]
        rfl
  | cons access rest ih =>
      obtain ⟨later, run⟩ := ih (accords.step access)
      refine ⟨?_, fun before bridge bound found => ?_⟩
      · rw [expectedAll, List.zip_cons_cons, List.append_cons]
        exact later
      · have first := accords.perform_atOnce bound found access
        have others := run (before.withMemory (access.applied now)) bridge
          ((before.frame_withMemory _).2.2.2.trans bound) (Moment.memory?_withMemory found)
        rw [Moment.withMemory_withMemory] at others
        exact first.bind (others.bind rfl)

theorem expectedAll_split {accesses : List Access} {earlier later : History} {access : Access}
    {outcome : Outcome}
    (shape : accesses.zip (expectedAll memory history accesses) =
      earlier ++ (access, outcome) :: later) :
    outcome = expected memory (history ++ earlier) access := by
  induction accesses generalizing history earlier with
  | nil =>
      rw [List.zip_nil_left] at shape
      cases earlier <;> cases shape
  | cons first rest ih =>
      rw [expectedAll, List.zip_cons_cons] at shape
      cases earlier with
      | nil =>
          cases shape
          rw [List.append_nil]
      | cons event earlier =>
          obtain ⟨same, tail⟩ := List.cons.inj shape
          rw [ih tail, ← same, List.append_assoc, List.singleton_append]

theorem length_expectedAll (memory : LinearMemory) (history : History) (accesses : List Access) :
    (expectedAll memory history accesses).length = accesses.length := by
  induction accesses generalizing history with
  | nil => rfl
  | cons access rest ih => rw [expectedAll, List.length_cons, ih, List.length_cons]

/-- How a list of accesses to a memory comes out. -/
structure Refines (memory : LinearMemory) (accesses : List Access) (outcomes : List Outcome)
    (now : LinearMemory) : Prop where
  /-- Wherever the memory is, and whether the host copies cells of it by itself or by means
  of the engine, the accesses have these outcomes and leave this memory in its place. -/
  ends : ∀ before bridge, before.1.bridge = some bridge → before.memory? = some memory →
    (∀ others answer after, (performAll accesses).EndsAmid others before answer after ↔
      answer = outcomes ∧ after = before.withMemory now) ∧
    (before.withMemory now).memory? = some now
  /-- Each outcome is the one that is expected after the history before it. -/
  each : outcomes.length = accesses.length ∧
    ∀ earlier access outcome later,
      accesses.zip outcomes = earlier ++ (access, outcome) :: later →
      outcome = expected memory earlier access
  /-- The memory has the size and the bytes that the history left. -/
  contents : now.size = size memory (accesses.zip outcomes) ∧
    ∀ address, now.byteAt address = byte memory (accesses.zip outcomes) address
  /-- What fits at one time fits at every later time. -/
  lasting : ∀ earlier later, accesses.zip outcomes = earlier ++ later →
    size memory earlier ≤ now.size
  /-- What is refused leaves the size and every byte as they were. -/
  refused : ∀ history access, (expected memory history access).isFault →
    size memory (history ++ [(access, expected memory history access)]) = size memory history ∧
      byte memory (history ++ [(access, expected memory history access)]) = byte memory history
  /-- A text is read exactly when the stretch is viewed and is its encoding. -/
  text : ∀ history offset length text,
    expected memory history (.readText offset length) = .read (.ok text) ↔
      expected memory history (.view offset length) = .viewed (.ok (Text.Utf8.encode text))

/-- Guest memory is an array of bytes that grows. -/
theorem accesses_refine_bytes (clean : Clean memory) (accesses : List Access) :
    ∃ outcomes now, Refines memory accesses outcomes now := by
  obtain ⟨accords, run⟩ := (Accords.start clean).performAll accesses
  rw [List.nil_append] at accords
  refine ⟨expectedAll memory [] accesses, accesses.foldl applied memory, ?_⟩
  exact {
    ends := fun before bridge bound found =>
      ⟨fun _ _ _ => (run before bridge bound found).endsAmid_iff,
        Moment.memory?_withMemory found⟩
    each := ⟨length_expectedAll _ _ _, fun earlier access outcome later shape => by
      have answer := expectedAll_split shape
      rwa [List.nil_append] at answer⟩
    contents := ⟨accords.size, accords.bytes⟩
    lasting := fun earlier later shape => by
      rw [accords.size, shape]
      exact size_le_append _ _ _
    refused := fun _ _ refused => frame_of_isFault refused
    text := fun _ _ _ _ => by
      rw [readText_eq_ok_iff, expected, Outcome.viewed.injEq] }

/-- Writes at the end of a page, before and after a page is added. -/
def acrossPages : List Access :=
  [.write 65534 [7, 8], .write 65535 [1, 2], .grow 1, .write 65535 [1, 2], .view 65534 4]

/-- A context whose memory of one page is bound. -/
def pageOfOwn : Moment :=
  .owning .bare (.page 2 []) false

/-- A write that passes the end of the memory fits once a page was added. -/
theorem accesses_refine_bytes_across_pages :
    Clean { pages := 1, limit := 2 } ∧
      ∃ outcomes now, Refines { pages := 1, limit := 2 } acrossPages outcomes now ∧
        outcomes = [.wrote (.ok ()), .wrote (.error (.outOfBounds 65535 2 65536)),
          .grew (.ok 1), .wrote (.ok ()), .viewed (.ok [7, 1, 2, 0])] := by
  have clean := Clean.of_new 1 2
  obtain ⟨outcomes, now, refines⟩ := accesses_refine_bytes clean acrossPages
  refine ⟨clean, outcomes, now, refines, ?_⟩
  have all := (refines.ends pageOfOwn ⟨false, false⟩ rfl rfl).1 (fun _ _ => True)
  have run := ((Accords.start clean).performAll acrossPages).2 pageOfOwn ⟨false, false⟩ rfl rfl
  rw [← ((all _ _).mp run.endsAmid).1]
  simp [acrossPages, expectedAll, expected, expectedWrite, expectedView, size, pages, pagesAfter,
    pageSize, byte, put?, byteOver?, initial, LinearMemory.size, List.range',
    List.findSome?_cons]

end Access

end WasmBridge
