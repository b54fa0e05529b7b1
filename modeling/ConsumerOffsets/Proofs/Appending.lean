/-
# Bytes appended to a value that fails

A value that cannot be decoded does not get better from a few bytes more.  If the error is about
too few bytes, it stays the same error as long as too few are there, and counts the new ones
(`DecodeError.withMore`).  Every other error stays as it is, whatever is appended
(`failures_stable`).

What counts is whether the decoder ran into the end of the value.  It does not inside the region of
an assignment: that ends where its size says, and more bytes behind the value do not reach it.  So
the errors from there belong to the second kind, a region too short for its version tag included
(`DecodeError.Extensible`).

A decoder is stable if it does with more bytes what it did without (`Decoder.Stable`).  This goes up
from single fields to whole bodies, like the other properties of decoders.
-/
import Mathlib.Control.Monad.Basic
import ConsumerOffsets.Proofs.Failures

namespace ConsumerOffsets

open Binary

namespace DecodeError

/-! ## 1. Errors that more bytes can change -/

/-- The error is about too few bytes, at the end of the value.  The only part of a region that has
such an error of its own is the version tag of an assignment. -/
def Extensible (e : DecodeError) : Prop :=
  e.shortfall.isSome ∧ ¬ e.field.EndsIn "consumer_protocol_version"

/-- The same error, with so many bytes more that were there. -/
def withMore (more : Nat) : DecodeError → DecodeError
  | truncated field needed available => truncated field needed (available + more)
  | missingVersion present => missingVersion (some (present.getD 0 + more))
  | e => e

@[simp] theorem field_withMore (more : Nat) (e : DecodeError) :
    (e.withMore more).field = e.field := by
  cases e <;> rfl

theorem shortfall_withMore (more : Nat) (e : DecodeError) {needed : Nat} {available : Int}
    (h : e.shortfall = some (needed, available)) :
    (e.withMore more).shortfall = some (needed, available + more) := by
  cases e <;> cases h
  · rfl
  · rfl

/-- An error that is not about too few bytes. -/
theorem not_extensible {e : DecodeError} (h : e.shortfall = none) : ¬ e.Extensible := by
  rintro ⟨hsome, -⟩
  rw [h] at hsome
  cases hsome

end DecodeError

/-- The decoding fails with `e`, and goes on failing when bytes are appended: with `e` again, or, if
`e` is about too few bytes, with the new ones counted, as long as they are still too few. -/
structure StaysFailed {α : Type} (decode : List UInt8 → Except DecodeError α) (input : List UInt8)
    (e : DecodeError) : Prop where
  closed : ¬ e.Extensible → ∀ more, decode (input ++ more) = .error e
  extensible : e.Extensible → ∀ {needed : Nat} {available : Int},
    e.shortfall = some (needed, available) → ∀ more : List UInt8,
      (more.length : Int) < needed - available →
      decode (input ++ more) = .error (e.withMore more.length)

section Failing

variable {α κ : Type} {decode : List UInt8 → Except DecodeError α} {input : List UInt8}
  {e : DecodeError}

/-- An error that is met whatever is appended. -/
theorem staysFailed_of_closed (he : ¬ e.Extensible)
    (h : ∀ more, decode (input ++ more) = .error e) : StaysFailed decode input e where
  closed _ := h
  extensible hext := absurd hext he

/-- Something is decoded before the input and apart from it, as a key is.  Nothing appended to the
input changes its errors. -/
theorem StaysFailed.of_bind {first : Except DecodeError κ}
    {decode : κ → List UInt8 → Except DecodeError α}
    (h : (first.bind fun k => decode k input) = .error e)
    (hfirst : ∀ {e}, first = .error e → ¬ e.Extensible)
    (hdecode : ∀ {k}, decode k input = .error e → StaysFailed (decode k) input e) :
    StaysFailed (fun bytes => first.bind fun k => decode k bytes) input e := by
  cases first with
  | error e' =>
    cases h
    exact staysFailed_of_closed (hfirst rfl) fun _ => rfl
  | ok k => exact hdecode h

/-- As long as the bytes are too few, the error has the field and the need that it had, and counts
the new bytes. -/
theorem StaysFailed.exists_error (h : StaysFailed decode input e) (hext : e.Extensible)
    {needed : Nat} {available : Int} (hshort : e.shortfall = some (needed, available))
    {more : List UInt8} (hmore : (more.length : Int) < needed - available) :
    ∃ e', decode (input ++ more) = .error e' ∧ e' = e.withMore more.length
      ∧ e'.field = e.field ∧ e'.shortfall = some (needed, available + more.length) :=
  ⟨_, h.extensible hext hshort more hmore, rfl, e.field_withMore _, e.shortfall_withMore _ hshort⟩

end Failing

namespace Binary.Decoder

variable {α β : Type}

/-! ## 2. Stable decoders -/

/-- With more bytes the decoder decodes what it did without, or fails as it did. -/
structure Stable (decoder : Decoder α) : Prop where
  decoded : ∀ {input rest : List UInt8} {a : α}, decoder input = .ok (a, rest) →
    ∀ more, decoder (input ++ more) = .ok (a, rest ++ more)
  failed : ∀ {input : List UInt8} {e : DecodeError}, decoder input = .error e →
    StaysFailed decoder input e

theorem stable_pure (a : α) : Stable (pure a) where
  decoded h more := by
    cases h
    rfl
  failed h := by cases h

theorem stable_throw {e : DecodeError} (he : ¬ e.Extensible) : Stable (throw e : Decoder α) where
  decoded h := by cases h
  failed h := by
    cases h
    exact staysFailed_of_closed he fun _ => rfl

theorem stable_liftM {x : Except DecodeError α} (h : ∀ e, x = .error e → ¬ e.Extensible) :
    Stable (liftM x) := by
  cases x with
  | ok a => exact stable_pure a
  | error e => exact stable_throw (h e rfl)

/-- The second decoder runs on what the first one leaves, which has the new bytes at its end. -/
theorem Stable.bind {decoder : Decoder α} {next : α → Decoder β} (h : Stable decoder)
    (h' : ∀ a, Stable (next a)) : Stable (decoder >>= next) where
  decoded := by
    intro input rest b hb more
    obtain ⟨a, middle, ha, hnext⟩ := bind_eq_ok_iff.mp hb
    rw [bind_of_ok (h.decoded ha more)]
    exact (h' a).decoded hnext more
  failed := by
    intro input e he
    rcases bind_eq_error_iff.mp he with hfirst | ⟨a, middle, ha, hnext⟩
    · refine ⟨fun hclosed more => ?_, fun hext _ _ hshort more hmore => ?_⟩
      · exact bind_of_error ((h.failed hfirst).closed hclosed more)
      · exact bind_of_error ((h.failed hfirst).extensible hext hshort more hmore)
    · refine ⟨fun hclosed more => ?_, fun hext _ _ hshort more hmore => ?_⟩
      · rw [bind_of_ok (h.decoded ha more)]
        exact ((h' a).failed hnext).closed hclosed more
      · rw [bind_of_ok (h.decoded ha more)]
        exact ((h' a).failed hnext).extensible hext hshort more hmore

theorem Stable.bind_pure {decoder : Decoder α} (h : Stable decoder) (f : α → β) :
    Stable (decoder >>= fun a => pure (f a)) := h.bind fun a => stable_pure (f a)

/-! ## 3. Fields and lists -/

section Fields

variable {field : FieldPath}

variable (h : ¬ field.EndsIn "consumer_protocol_version")
include h

theorem stable_bytes (size : Nat) :
    Stable (bytes size field) where
  decoded := by
    intro input rest raw hread more
    obtain ⟨rfl, rfl⟩ := bytes_eq_ok hread
    rw [List.append_assoc]
    exact reads_bytes raw field _
  failed := by
    intro input e he
    obtain ⟨hlt, rfl⟩ := bytes_eq_error he
    refine ⟨fun hclosed => absurd ⟨rfl, h⟩ hclosed, fun _ needed available hshort more hmore => ?_⟩
    cases hshort
    rw [bytes_of_short (by rw [List.length_append]; omega), List.length_append, Int.natCast_add]
    rfl

theorem stable_int (width : Width) :
    Stable (int width field) := (stable_bytes h width.size).bind_pure intOfBytes

theorem stable_int32 :
    Stable (int32 field) := (stable_int h .four).bind_pure Int32.ofInt

theorem stable_int64 :
    Stable (int64 field) := (stable_int h .eight).bind_pure Int64.ofInt

theorem stable_counted (length : Int) :
    Stable (counted length field) := by
  unfold counted
  split
  · exact stable_throw (DecodeError.not_extensible rfl)
  · exact stable_bytes h _

theorem stable_string : Stable (string field) :=
  (stable_int h .two).bind fun length => (stable_counted h length).bind_pure Text.Utf8.decode

theorem stable_region : Stable (region field) :=
  (stable_int h .four).bind fun size => stable_counted h size

/-- A count is compared with nothing but zero. -/
theorem stable_count : Stable (count field) := by
  refine (stable_int h .four).bind fun n => ?_
  split
  · exact (stable_throw (DecodeError.not_extensible rfl)).bind fun _ => stable_pure _
  · exact stable_pure _

end Fields

theorem Stable.optional {present : Prop} [Decidable present] {decoder : Decoder α}
    (h : Stable decoder) : Stable (Decoder.optional present decoder) := by
  unfold Decoder.optional
  split
  · exact h.bind_pure some
  · exact stable_pure none

/-- By recursion on the number of elements. -/
theorem stable_listFrom {item : Nat → Decoder α} (h : ∀ i, Stable (item i)) :
    ∀ index n : Nat, Stable (listFrom item index n)
  | _, 0 => stable_pure []
  | index, n + 1 =>
    (h index).bind fun a => (stable_listFrom h (index + 1) n).bind_pure (a :: ·)

end Binary.Decoder

open Binary.Decoder

/-! ## 4. Groups and offsets -/

/-- Whatever is wrong inside a region, more bytes behind the value do not change it. -/
theorem Assignment.not_extensible_of_ofRegion {member : FieldPath} {region : List UInt8}
    {e : DecodeError} (h : Assignment.ofRegion member region = .error e) : ¬ e.Extensible := by
  cases Assignment.failure_of_ofRegion h with
  | noVersion hshort =>
    rintro ⟨-, hfield⟩
    rw [hshort.field_eq] at hfield
    exact hfield rfl
  | badVersion _ => exact DecodeError.not_extensible rfl
  | body _ => exact DecodeError.not_extensible rfl

theorem GroupMember.stable_decode (version : Int) (place : FieldPath) :
    Stable (GroupMember.decode version place) :=
  (stable_string (FieldPath.not_endsIn_child (by decide) place)).bind fun _ =>
    (stable_string (FieldPath.not_endsIn_child (by decide) place)).bind fun _ =>
      (stable_string (FieldPath.not_endsIn_child (by decide) place)).bind fun _ =>
        (stable_int32 (FieldPath.not_endsIn_child (by decide) place)).optional.bind fun _ =>
          (stable_int32 (FieldPath.not_endsIn_child (by decide) place)).bind fun _ =>
            (stable_region (FieldPath.not_endsIn_child (by decide) place)).bind fun _ =>
              (stable_region (FieldPath.not_endsIn_child (by decide) place)).bind fun _ =>
                (stable_liftM fun _ he => Assignment.not_extensible_of_ofRegion he).bind_pure _

theorem GroupHeader.stable_decode : Stable GroupHeader.decode :=
  (stable_string (FieldPath.not_endsIn_root _)).bind fun _ =>
    (stable_int32 (FieldPath.not_endsIn_root _)).bind fun _ =>
      (stable_string (FieldPath.not_endsIn_root _)).bind fun _ =>
        (stable_string (FieldPath.not_endsIn_root _)).bind_pure _

theorem GroupMetadata.stable_decodeBody (version : Int) (groupId : String) :
    Stable (GroupMetadata.decodeBody version groupId) :=
  GroupHeader.stable_decode.bind fun _ =>
    (stable_count (FieldPath.not_endsIn_root _)).bind fun count =>
      (stable_listFrom (fun i => GroupMember.stable_decode version (FieldPath.members.item i))
        0 count).bind_pure _

theorem OffsetCommit.stable_decode (key : OffsetKey) (version : Int16) :
    Stable (OffsetCommit.decode key version) := by
  have hvalue : Stable (OffsetValue.decode version.toInt) :=
    (stable_int64 (FieldPath.not_endsIn_root _)).bind fun _ =>
      (stable_int32 (FieldPath.not_endsIn_root _)).optional.bind fun _ =>
        (stable_string (FieldPath.not_endsIn_root _)).bind fun _ =>
          (stable_int64 (FieldPath.not_endsIn_root _)).bind fun _ =>
            (stable_int64 (FieldPath.not_endsIn_root _)).optional.bind_pure _
  exact hvalue.bind_pure _

/-! ## 5. Messages -/

theorem Outcome.staysFailed_ofValue {α : Type} {subject : Subject} {supported : List Int}
    {body : Int16 → Decoder α}
    (hbody : ∀ version : Int16, version.toInt ∈ supported → Stable (body version))
    {bytes : List UInt8} {e : DecodeError}
    (h : (ofValue subject supported body (some bytes)).result = .error e) :
    StaysFailed (fun bytes => (ofValue subject supported body (some bytes)).result) bytes e := by
  rcases Nat.lt_or_ge bytes.length 2 with hshort | hlong
  · rw [ofValue_of_short hshort] at h
    cases h
    refine ⟨fun hclosed => absurd ⟨rfl, id⟩ hclosed, fun _ _ _ hneeded more hmore => ?_⟩
    cases hneeded
    have hmore : (bytes ++ more).length < 2 := by
      simp only [DecodeError.versionSize, Option.getD_some] at hmore
      rw [List.length_append]
      omega
    rw [ofValue_of_short hmore, List.length_append]
    rfl
  · obtain ⟨version, input, rfl⟩ := exists_eq_int16_append hlong
    by_cases hversion : version.toInt ∈ supported
    · have hresult : ∀ input, (ofValue subject supported body
          (some (Encoder.int16 version ++ input))).result = (body version input).map Prod.fst :=
        ofValue_of_supported hversion
      rw [hresult] at h
      have he : body version input = .error e := by
        cases hrun : body version input with
        | error e' =>
          rw [hrun] at h
          cases h
          rfl
        | ok p =>
          rw [hrun] at h
          cases h
      obtain ⟨hclosed, hextensible⟩ := (hbody version hversion).failed he
      refine ⟨fun hnot more => ?_, fun hext _ _ hneeded more hmore => ?_⟩
      · rw [List.append_assoc, hresult, hclosed hnot more]
        rfl
      · rw [List.append_assoc, hresult, hextensible hext hneeded more hmore]
        rfl
    · rw [ofValue_of_unsupported hversion] at h
      cases h
      refine staysFailed_of_closed (DecodeError.not_extensible rfl) fun more => ?_
      rw [List.append_assoc, ofValue_of_unsupported hversion]

/-- The errors of a key have nothing to do with the value. -/
theorem GroupMetadata.not_extensible_of_decodeKey {key : Option (List UInt8)} {e : DecodeError}
    (h : GroupMetadata.decodeKey key = .error e) : ¬ e.Extensible := by
  unfold GroupMetadata.decodeKey at h
  split at h
  · cases h
    exact DecodeError.not_extensible rfl
  · split at h
    · cases h
    · cases h
      exact DecodeError.not_extensible rfl

theorem OffsetKey.not_extensible_of_decode {key : Option (List UInt8)} {e : DecodeError}
    (h : OffsetKey.decode key = .error e) : ¬ e.Extensible := by
  unfold OffsetKey.decode at h
  split at h
  · cases h
    exact DecodeError.not_extensible rfl
  · split at h
    · cases h
    · cases h
      exact DecodeError.not_extensible rfl

theorem GroupMetadata.staysFailed_decodeMessage {key : Option (List UInt8)} {value : List UInt8}
    {e : DecodeError} (h : (GroupMetadata.decodeMessage key (some value)).result = .error e) :
    StaysFailed (fun bytes => (GroupMetadata.decodeMessage key (some bytes)).result) value e := by
  simp only [GroupMetadata.result_decodeMessage] at h ⊢
  refine StaysFailed.of_bind h not_extensible_of_decodeKey fun hvalue => ?_
  refine Outcome.staysFailed_ofValue (fun version hversion => ?_) hvalue
  rw [GroupMetadata.decode_of_supported hversion]
  exact stable_decodeBody _ _

theorem OffsetCommit.staysFailed_decodeMessage {key : Option (List UInt8)} {value : List UInt8}
    {e : DecodeError} (h : (OffsetCommit.decodeMessage key (some value)).result = .error e) :
    StaysFailed (fun bytes => (OffsetCommit.decodeMessage key (some bytes)).result) value e := by
  simp only [OffsetCommit.result_decodeMessage] at h ⊢
  refine StaysFailed.of_bind h OffsetKey.not_extensible_of_decode fun hvalue => ?_
  exact Outcome.staysFailed_ofValue (fun version _ => stable_decode _ version) hvalue

/-- Failures are stable, for a group's message and for an offset's.  An error that more bytes cannot
change is the same whatever is appended to the value.  Any other is the same but for the bytes that
are there, as long as they are too few. -/
theorem failures_stable :
    (∀ {key : Option (List UInt8)} {value : List UInt8} {e : DecodeError},
      (GroupMetadata.decodeMessage key (some value)).result = .error e →
      (¬ e.Extensible → ∀ more : List UInt8,
        (GroupMetadata.decodeMessage key (some (value ++ more))).result = .error e)
      ∧ (e.Extensible → ∀ {needed : Nat} {available : Int},
          e.shortfall = some (needed, available) → ∀ {more : List UInt8},
          (more.length : Int) < needed - available →
          ∃ e', (GroupMetadata.decodeMessage key (some (value ++ more))).result = .error e'
            ∧ e' = e.withMore more.length ∧ e'.field = e.field
            ∧ e'.shortfall = some (needed, available + more.length)))
    ∧ (∀ {key : Option (List UInt8)} {value : List UInt8} {e : DecodeError},
      (OffsetCommit.decodeMessage key (some value)).result = .error e →
      (¬ e.Extensible → ∀ more : List UInt8,
        (OffsetCommit.decodeMessage key (some (value ++ more))).result = .error e)
      ∧ (e.Extensible → ∀ {needed : Nat} {available : Int},
          e.shortfall = some (needed, available) → ∀ {more : List UInt8},
          (more.length : Int) < needed - available →
          ∃ e', (OffsetCommit.decodeMessage key (some (value ++ more))).result = .error e'
            ∧ e' = e.withMore more.length ∧ e'.field = e.field
            ∧ e'.shortfall = some (needed, available + more.length))) := by
  constructor
  · intro key value e h
    have hstays := GroupMetadata.staysFailed_decodeMessage h
    exact ⟨hstays.closed, fun hext _ _ hshort _ hmore => hstays.exists_error hext hshort hmore⟩
  · intro key value e h
    have hstays := OffsetCommit.staysFailed_decodeMessage h
    exact ⟨hstays.closed, fun hext _ _ hshort _ hmore => hstays.exists_error hext hshort hmore⟩

/-- Two bytes more of a protocol type that lacks four, and anything behind a version that is not
supported. -/
theorem failures_stable_of_short_text :
    (∃ e, (GroupMetadata.decodeMessage (some [0, 1, 0x67])
        (some ([0, 1, 0, 5, 0x63] ++ [0x64, 0x65]))).result = .error e
      ∧ e.field = .root "protocol_type" ∧ e.shortfall = some (5, 3))
    ∧ ∀ more : List UInt8, (OffsetCommit.decodeMessage (some [0, 1, 0x67, 0, 1, 0x74, 0, 0, 0, 4])
        (some ([0, 9] ++ more))).result = .error (.unsupportedVersion .version 9) := by
  constructor
  · have hshort : (GroupMetadata.decodeMessage (some [0, 1, 0x67])
        (some [0, 1, 0, 5, 0x63])).result
          = .error (.truncated (.root "protocol_type") 5 1) := by
      decide +kernel
    have hfew : (([0x64, 0x65] : List UInt8).length : Int) < (5 : Nat) - 1 := by decide
    obtain ⟨e, he, -, hfield, hcounted⟩ := (failures_stable.1 hshort).2
      ⟨rfl, FieldPath.not_endsIn_root _⟩ rfl hfew
    exact ⟨e, he, hfield, hcounted⟩
  · have hversion : (OffsetCommit.decodeMessage (some [0, 1, 0x67, 0, 1, 0x74, 0, 0, 0, 4])
        (some [0, 9])).result = .error (.unsupportedVersion .version 9) := by
      decide +kernel
    exact (failures_stable.2 hversion).1 (DecodeError.not_extensible rfl)

end ConsumerOffsets
