import EchoSync.Api.Http
import EchoSync.Foundations.TransitionSystem

/-!
# API Server - Framing

The loop that reads a request searches everything it has collected after every read, so where
the reads are cut does not matter.  The announced length is added to the length of the header
in machine arithmetic: a sum out of range panics, or wraps around and ends the request early.

Main results:

- Theorem {lit}`readHttpRequest_message`: a message is read as a whole, however it is divided.
- Theorem {lit}`createRoom_of_message`: a creation is given the text of the body of its message.
- Theorem {lit}`readHttpRequest_sound_iff`: the loop neither panics nor cuts a request short
  exactly when every announced length is in range.
-/

namespace EchoSync
namespace Api

open FirstMatch TransitionSystem Utf8

variable {ε : Type} {profile : BuildProfile}

/-- A request as it is sent: the header, a blank line, which is the first one, and a body of the
length that the header announces. -/
structure Message where
  head : List UInt8
  body : List UInt8
  fits : (head ++ (blankLine ++ body)).length ≤ isizeMax
  ends : findHeaderEnd (head ++ (blankLine ++ body)) = some head.length
  announced : body.length = (contentLength (fromUtf8Lossy head)).val

namespace Message

variable {message : Message}

/-- The bytes of a message. -/
def bytes (message : Message) : ByteVec :=
  ⟨message.head ++ (blankLine ++ message.body), message.fits⟩

theorem splitFirst_bytes (message : Message) :
    splitFirst blankLine message.bytes.val = some (message.head, message.body) :=
  splitFirst_of_findHeaderEnd message.ends

theorem bytes_length (message : Message) :
    message.bytes.val.length = message.head.length + 4 + message.body.length := by
  have hblank : blankLine.length = 4 := rfl
  rw [bytes, List.length_append, List.length_append, hblank, Nat.add_assoc]

/-- The announced length of the whole message is its length. -/
theorem totalExpected_eq_some (message : Message) (profile : BuildProfile) :
    ∃ total, totalExpected profile message.head.length (contentLength
        (fromUtf8Lossy message.head)) = some total ∧ total.val = message.bytes.val.length := by
  have hlength := message.bytes_length
  have hfits : message.bytes.val.length ≤ isizeMax := message.bytes.property
  have hin : message.head.length + 4 + (contentLength (fromUtf8Lossy message.head)).val
      < 2 ^ 64 := by
    rw [← message.announced, ← hlength]
    exact lt_of_le_of_lt hfits (by decide)
  refine ⟨_, totalExpected_of_fits profile hin, ?_⟩
  rw [hlength, message.announced]

end Message

/-! ## Any division into reads -/

/-- The loop stops at the whole message and at no part of it. -/
theorem check_message (profile : BuildProfile) (message : Message) {received : ByteVec}
    (hwithin : received.val <+: message.bytes.val) :
    Reading.check (ε := ε) profile received =
      if received = message.bytes then .stopped received .complete else .reading received := by
  rcases message.totalExpected_eq_some profile with ⟨total, htotal, hlength⟩
  have hsplit := message.splitFirst_bytes
  have hwhole : message.bytes.val.length ≤ received.val.length ↔ received = message.bytes := by
    constructor
    · intro hle
      exact Subtype.ext (hwithin.eq_of_length_le hle)
    · rintro rfl
      exact le_rfl
  rcases splitFirst_take blankLine_ne_nil hwithin hsplit with hnone | ⟨rest, hsome⟩
  · have hne : received ≠ message.bytes := by
      rintro rfl
      rw [hsplit] at hnone
      cases hnone
    have hend : findHeaderEnd received.val = none := by
      rw [findHeaderEnd_eq, hnone, Option.map_none]
    rw [if_neg hne, Reading.check, hend]
  · have hend : findHeaderEnd received.val = some message.head.length := by
      rw [findHeaderEnd_eq, hsome, Option.map_some]
    have hhead : received.val.take message.head.length = message.head := by
      rw [eq_append_of_splitFirst hsome, List.take_left]
    rw [Reading.check, hend]
    simp only [declaredLength, hhead, htotal, hlength, hwhole]

/-- One more read of a message. -/
theorem receive_message (profile : BuildProfile) (message : Message) {bytes : ByteVec}
    {chunk : Chunk} (hne : chunk.val ≠ []) (hwithin : bytes.val ++ chunk.val <+: message.bytes.val) :
    ∃ received : ByteVec, received.val = bytes.val ++ chunk.val ∧
      Reading.receive (ε := ε) profile bytes chunk =
        if received = message.bytes then .stopped received .complete else .reading received := by
  have hfits : (bytes.val ++ chunk.val).length ≤ isizeMax :=
    le_trans hwithin.length_le message.bytes.property
  refine ⟨⟨bytes.val ++ chunk.val, hfits⟩, rfl, ?_⟩
  rw [Reading.receive_of_fits hne hfits]
  exact check_message profile message hwithin

section Division

variable {message : Message} {reads : List Chunk} (hne : ∀ chunk ∈ reads, chunk.val ≠ [])

include hne

/-- Some reads have all the bytes only if they are all the reads. -/
theorem flatten_eq_iff {before : List Chunk} (hwithin : before <+: reads) :
    (before.map Subtype.val).flatten = (reads.map Subtype.val).flatten ↔ before = reads := by
  constructor
  · intro h
    rcases hwithin with ⟨rest, rfl⟩
    rw [List.map_append, List.flatten_append] at h
    have hrest := List.flatten_eq_nil_iff.mp (List.self_eq_append_right.mp h)
    have hnil : rest = [] := by
      rw [List.eq_nil_iff_forall_not_mem]
      intro chunk hchunk
      exact hne chunk (List.mem_append_right _ hchunk)
        (hrest _ (List.mem_map_of_mem hchunk))
    rw [hnil, List.append_nil]
  · rintro rfl
    rfl

variable (hdivision : (reads.map Subtype.val).flatten = message.bytes.val)

include hdivision

/-- After some of the reads the loop holds their bytes, and it is left only if they are all the
reads. -/
theorem readHttpRequest_part (profile : BuildProfile) {before : List Chunk}
    (hwithin : before <+: reads) :
    ∃ received : ByteVec, received.val = (before.map Subtype.val).flatten ∧
      readHttpRequest (ε := ε) profile (before.map Read.data) =
        if before = reads then .stopped received .complete else .reading received := by
  induction before using List.reverseRecOn with
  | nil =>
      have hproper : [] ≠ reads := by
        rintro rfl
        have hlength := congrArg List.length hdivision
        rw [message.bytes_length] at hlength
        exact absurd hlength.symm (by simp)
      exact ⟨⟨[], Nat.zero_le _⟩, rfl, by rw [if_neg hproper]; rfl⟩
  | append_singleton before chunk ih =>
      have hshort : before <+: reads := (List.prefix_append before [chunk]).trans hwithin
      have hproper : before ≠ reads := by
        rintro rfl
        exact absurd hwithin.length_le (by simp)
      rcases ih hshort with ⟨bytes, hbytes, hrun⟩
      rw [if_neg hproper] at hrun
      have hjoin : bytes.val ++ chunk.val = ((before ++ [chunk]).map Subtype.val).flatten := by
        rw [hbytes, List.map_append, List.flatten_append]
        simp
      have hbegins : bytes.val ++ chunk.val <+: message.bytes.val := by
        rw [hjoin, ← hdivision]
        exact (hwithin.map Subtype.val).flatten
      have hchunk : chunk.val ≠ [] :=
        hne chunk (hwithin.subset (List.mem_append_right _ (List.mem_singleton_self chunk)))
      rcases receive_message (ε := ε) profile message hchunk hbegins with
        ⟨received, hreceived, hreceive⟩
      refine ⟨received, hreceived.trans hjoin, ?_⟩
      have hwhole : received = message.bytes ↔ before ++ [chunk] = reads := by
        rw [← flatten_eq_iff hne hwithin, ← hjoin, ← hreceived, hdivision]
        exact Subtype.ext_iff
      rw [readHttpRequest] at hrun ⊢
      rw [List.map_append, List.map_singleton, List.foldl_concat, hrun]
      simp only [← hwhole]
      exact hreceive

end Division

/-- A message is read as a whole, however it is divided into reads: the loop is left after the
last of them, and the body that is passed on is the text of its body. -/
theorem readHttpRequest_message (profile : BuildProfile) (message : Message)
    {reads : List Chunk} (hne : ∀ chunk ∈ reads, chunk.val ≠ [])
    (hdivision : (reads.map Subtype.val).flatten = message.bytes.val) :
    (∀ before, before <+: reads → before ≠ reads →
      ∃ received : ByteVec, received.val = (before.map Subtype.val).flatten ∧
        readHttpRequest (ε := ε) profile (before.map Read.data) = .reading received) ∧
    readHttpRequest (ε := ε) profile (reads.map Read.data) = .stopped message.bytes .complete ∧
    (readHttpRequest (ε := ε) profile (reads.map Read.data)).outcome =
      some (.ok (fromUtf8Lossy message.bytes.val)) ∧
    ∃ request, parseRequest (fromUtf8Lossy message.bytes.val) = some request ∧
      request.body = fromUtf8Lossy message.body := by
  have hend : readHttpRequest (ε := ε) profile (reads.map Read.data) =
      .stopped message.bytes .complete := by
    rcases readHttpRequest_part (ε := ε) hne hdivision profile (List.prefix_refl reads) with
      ⟨received, hreceived, hrun⟩
    rw [if_pos rfl] at hrun
    rw [hrun, Subtype.ext (hreceived.trans hdivision)]
  refine ⟨?_, hend, by rw [hend]; rfl, exists_parseRequest message.splitFirst_bytes⟩
  intro before hwithin hproper
  rcases readHttpRequest_part (ε := ε) hne hdivision profile hwithin with
    ⟨received, hreceived, hrun⟩
  rw [if_neg hproper] at hrun
  exact ⟨received, hreceived, hrun⟩

/-- A message whose body is one character of two bytes. -/
def shortMessage : Message where
  head := "P / H\r\ncontent-length: 2".toList.map fun ch => UInt8.ofNat ch.toNat
  body := [0xc3, 0xa9]
  fits := by decide +kernel
  ends := by decide +kernel
  announced := by decide +kernel

/-- Its bytes, cut within the blank line and within the character. -/
def shortReads : List Chunk :=
  [⟨shortMessage.head ++ [0x0d, 0x0a, 0x0d], by decide +kernel⟩, ⟨[0x0a, 0xc3], by decide⟩,
    ⟨[0xa9], by decide⟩]

theorem readHttpRequest_message_short :
    readHttpRequest (ε := Unit) ⟨true⟩ (shortReads.map Read.data) =
        .stopped shortMessage.bytes .complete ∧
      ∃ request, parseRequest (fromUtf8Lossy shortMessage.bytes.val) = some request ∧
        request.body = ['é'] := by
  have hne : ∀ chunk ∈ shortReads, chunk.val ≠ [] := by
    simp [shortReads]
  have hread := readHttpRequest_message (ε := Unit) ⟨true⟩ shortMessage hne rfl
  have hbody : fromUtf8Lossy shortMessage.body = ['é'] := by
    decide +kernel
  rw [hbody] at hread
  exact ⟨hread.2.1, hread.2.2.2⟩

/-- A creation is given the text of the body of its message. -/
theorem createRoom_of_message (message : Message) {body : Text}
    (h : handleText (fromUtf8Lossy message.bytes.val) = some (.createRoom body)) :
    body = fromUtf8Lossy message.body := by
  rcases exists_parseRequest message.splitFirst_bytes with ⟨request, hparse, hbody⟩
  rw [handleText, hparse, Option.map_some, Option.some.injEq] at h
  rw [handleClient_eq_createRoom h, hbody]

/-! ## Truncated requests -/

/-- The loop has not panicked, and if it was left before the end of the stream, the header, the
blank line and as many bytes as the header announces have been read. -/
def Reading.Sound : Reading ε → Prop
  | .reading _ | .failed _ | .stopped _ .endOfStream => True
  | .stopped bytes .complete => ∃ headerEnd ∈ findHeaderEnd bytes.val,
      headerEnd + 4 + (declaredLength bytes.val headerEnd).val ≤ bytes.val.length
  | .panicked => False

/-- The bytes with those of the next read are no more than a vector holds, and the length
announced by a header that has ended is in range. -/
def Reading.InRange : Reading ε → Read ε → Prop
  | .reading bytes, .data chunk =>
      chunk.val ≠ [] → (bytes.val ++ chunk.val).length ≤ isizeMax ∧
        ∀ headerEnd ∈ findHeaderEnd (bytes.val ++ chunk.val),
          headerEnd + 4 + (declaredLength (bytes.val ++ chunk.val) headerEnd).val < 2 ^ 64
  | _, _ => True

namespace Reading

instance : (r : Reading ε) → Decidable r.Sound
  | .reading _ | .failed _ | .stopped _ .endOfStream => isTrue trivial
  | .stopped bytes .complete =>
      inferInstanceAs (Decidable (∃ headerEnd ∈ findHeaderEnd bytes.val,
        headerEnd + 4 + (declaredLength bytes.val headerEnd).val ≤ bytes.val.length))
  | .panicked => isFalse not_false

/-- The announced length decides how the search through the bytes ends. -/
theorem check_sound_iff (bytes : ByteVec) :
    (check (ε := ε) profile bytes).Sound ↔
      ∀ headerEnd ∈ findHeaderEnd bytes.val,
        headerEnd + 4 + (declaredLength bytes.val headerEnd).val < 2 ^ 64 := by
  cases hend : findHeaderEnd bytes.val with
  | none => simp [check, hend, Sound]
  | some headerEnd =>
      have hle := findHeaderEnd_le hend
      have hlength : bytes.val.length < 2 ^ 64 := lt_of_le_of_lt bytes.property (by decide)
      simp only [Option.mem_def, Option.some.injEq, forall_eq']
      constructor
      · intro hsound
        by_contra hover
        cases htotal : totalExpected profile headerEnd (declaredLength bytes.val headerEnd) with
        | none =>
            simp only [check, hend, htotal] at hsound
            exact hsound
        | some total =>
            have hshort := totalExpected_of_overflow (by omega) (not_lt.mp hover) htotal
            have hstops : total.val ≤ bytes.val.length := by omega
            simp only [check, hend, htotal, if_pos hstops, Sound, Option.mem_def,
              Option.some.injEq, exists_eq_left'] at hsound
            omega
      · intro hin
        simp only [check, hend, totalExpected_of_fits profile hin]
        split_ifs with hstops
        · exact ⟨headerEnd, hend, hstops⟩
        · trivial

/-- A read keeps the loop sound exactly when the lengths are in range. -/
theorem step_sound_iff {r : Reading ε} (hsound : r.Sound) (read : Read ε) :
    (step profile r read).Sound ↔ r.InRange read := by
  cases r with
  | reading bytes =>
      cases read with
      | data chunk =>
          rw [step, InRange]
          by_cases hempty : chunk.val = []
          · rw [receive_of_nil hempty]
            exact iff_of_true trivial fun hne => absurd hempty hne
          · by_cases hfits : (bytes.val ++ chunk.val).length ≤ isizeMax
            · rw [receive_of_fits hempty hfits, check_sound_iff]
              exact ⟨fun h _ => ⟨hfits, h⟩, fun h => (h hempty).2⟩
            · rw [receive_of_not_fits hempty hfits]
              exact iff_of_false not_false fun h => hfits (h hempty).1
      | error error => exact iff_of_true trivial trivial
  | stopped bytes left => exact iff_of_true hsound trivial
  | failed error => exact iff_of_true trivial trivial
  | panicked => exact absurd hsound not_false

end Reading

/-- The loop neither panics nor takes a part of a request for the whole, after any number of
reads, exactly when every read keeps the lengths in range. -/
theorem readHttpRequest_sound_iff (profile : BuildProfile) (reads : List (Read ε)) :
    (∀ before, before <+: reads → (readHttpRequest profile before).Sound) ↔
      ∀ before read, before ++ [read] <+: reads →
        (readHttpRequest profile before).InRange read := by
  have hinitial : (Reading.initial : Reading ε).Sound := trivial
  exact foldl_forall_iff (fun _ => True) Reading.Sound Reading.InRange (fun _ _ _ => trivial)
    (fun _ read _ hsound => Reading.step_sound_iff hsound read) trivial hinitial reads

/-- A header that announces the largest length. -/
def largestLength : Chunk :=
  ⟨"P / H\r\nContent-Length: 18446744073709551615\r\n\r\n".toList.map
    fun ch => UInt8.ofNat ch.toNat, by decide +kernel⟩

/-- The largest length makes the loop panic, or leave with a request without its body. -/
theorem readHttpRequest_unsound :
    ¬ (readHttpRequest (ε := Unit) ⟨true⟩ [.data largestLength]).Sound ∧
      ¬ (readHttpRequest (ε := Unit) ⟨false⟩ [.data largestLength]).Sound := by
  decide +kernel

end Api
end EchoSync
