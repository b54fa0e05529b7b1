/-
# Values that are cut short

A value that is decoded has a row of fields, and the row ends at some byte.  Cutting the value
behind that byte changes nothing.  Cutting it before makes the decoding fail, at the field in which
the cut lies, with the numbers of bytes that this field needs and has
(`truncation_located`).

What a decoder does on all prefixes of a row is one property (`Decoder.Scans`): it reads the row,
and it stops at the field where a prefix ends.  Two decoders that scan a row each scan the joined
rows, so that the property goes up from single fields to whole bodies.  The region of an assignment
is one field of the row: it is only looked into when all of it is there, so that no cut shows in it.
-/
import Mathlib.Control.Monad.Basic
import Mathlib.Logic.ExistsUnique
import ConsumerOffsets.Proofs.Announced
import ConsumerOffsets.Proofs.Message

namespace ConsumerOffsets

open Binary StoredField

namespace Binary.Decoder

variable {α β : Type}

/-! ## 1. Decoders and rows -/

/-- The decoder reads the row and gives `a`.  On a row that ends too early it fails at the field
that is cut. -/
structure Scans (decoder : Decoder α) (fields : List StoredField) (a : α) : Prop where
  reads : Reads decoder (fields.flatMap encode) a
  stops : ∀ {present own : Nat} {field : StoredField}, cut fields present = some (field, own) →
    decoder ((fields.flatMap encode).take present) = .error (field.truncation own)

theorem scans_pure (a : α) : Scans (pure a : Decoder α) [] a where
  reads := reads_pure a
  stops h := by cases h

theorem scans_liftM {x : Except DecodeError α} {a : α} (h : x = .ok a) : Scans (liftM x) [] a where
  reads := reads_liftM h
  stops h := by cases h

/-- Two decoders one after the other scan their rows, joined. -/
theorem Scans.bind {decoder : Decoder α} {next : α → Decoder β} {fields fields' : List StoredField}
    {a : α} {b : β} (h : Scans decoder fields a) (h' : Scans (next a) fields' b) :
    Scans (decoder >>= next) (fields ++ fields') b where
  reads := by
    rw [List.flatMap_append]
    exact h.reads.bind h'.reads
  stops := by
    intro present own field hcut
    rw [List.flatMap_append]
    rcases Nat.lt_or_ge present (fields.flatMap encode).length with hlt | hge
    · rw [cut_append_of_lt hlt] at hcut
      rw [List.take_append_of_le_length (Nat.le_of_lt hlt)]
      exact bind_of_error (h.stops hcut)
    · rw [cut_append_of_le hge] at hcut
      rw [List.take_append, List.take_of_length_le hge, bind_of_ok (h.reads _)]
      exact h'.stops hcut

theorem Scans.bind_pure {decoder : Decoder α} {fields : List StoredField} {a : α}
    (h : Scans decoder fields a) (f : α → β) :
    Scans (decoder >>= fun x => pure (f x)) fields (f a) := by
  have hbind : Scans (decoder >>= fun x => pure (f x)) (fields ++ []) (f a) :=
    h.bind (scans_pure (f a))
  rwa [List.append_nil] at hbind

/-- A field that is there exactly when it is stored. -/
theorem scans_optional {present : Prop} [Decidable present] {decoder : Decoder α}
    {field : α → StoredField} {stored : Option α} (h : stored.isSome ↔ present)
    (hscan : ∀ a, Scans decoder [field a] a) :
    Scans (optional present decoder) (StoredField.optional field stored) stored := by
  cases stored with
  | none =>
    have habsent : ¬ present := fun hpresent => by simpa using h.mpr hpresent
    rw [optional, if_neg habsent]
    exact scans_pure none
  | some a =>
    rw [optional, if_pos (h.mp rfl)]
    exact (hscan a).bind_pure some

/-- The elements of a list, one after another. -/
theorem scans_listFrom {σ : Type} {item : Nat → Decoder α} {row : Nat → σ → List StoredField}
    {meaning : σ → α} : ∀ (index : Nat) (stored : List σ),
      (∀ s ∈ stored, ∀ i, Scans (item i) (row i s) (meaning s)) →
      Scans (listFrom item index stored.length) (listed row index stored) (stored.map meaning)
  | _, [], _ => scans_pure []
  | index, s :: stored, h => by
    have hfirst := h s List.mem_cons_self index
    have hrest := scans_listFrom (index + 1) stored fun t ht => h t (List.mem_cons_of_mem _ ht)
    exact hfirst.bind (hrest.bind_pure (meaning s :: ·))

theorem scans_list {σ : Type} {item : Nat → Decoder α} {row : Nat → σ → List StoredField}
    {meaning : σ → α} {stored : List σ}
    (h : ∀ s ∈ stored, ∀ i, Scans (item i) (row i s) (meaning s)) :
    Scans (list stored.length item) (listed row 0 stored) (stored.map meaning) :=
  scans_listFrom 0 stored h

/-! ## 2. Single fields -/

/-- A row of one field. -/
theorem scans_singleton {decoder : Decoder α} {field : StoredField} {a : α}
    (hread : Reads decoder field.encode a)
    (hshort : ∀ {present : Nat}, present < field.encode.length →
      decoder (field.encode.take present) = .error (field.truncation present)) :
    Scans decoder [field] a where
  reads := by rwa [List.flatMap_singleton]
  stops := by
    intro present own cutField hcut
    rw [List.flatMap_singleton]
    unfold cut at hcut
    split at hcut
    · next hlt =>
      cases hcut
      exact hshort hlt
    · cases hcut

/-- Integers have no payload, so a cut in one lies in its lead. -/
theorem scans_integer {width : Width} {next : Int → Decoder α} {path : FieldPath}
    {lead : List UInt8} {announced : Option Nat} {a : α}
    (hread : Reads (int width path >>= next) lead a) (hlength : lead.length = width.size) :
    Scans (int width path >>= next) [{ path := path, lead := lead, announced := announced }] a := by
  have hencode : encode { path := path, lead := lead, announced := announced } = lead :=
    List.append_nil _
  refine scans_singleton (by rwa [hencode]) ?_
  intro present hlt
  rw [hencode] at hlt ⊢
  have htake : (lead.take present).length = present := by
    rw [List.length_take]
    omega
  refine bind_of_error ?_
  rw [int_of_short (by omega), truncation, if_pos hlt, htake, hlength]

theorem scans_int32 (n : Int32) (path : FieldPath) :
    Scans (int32 path) [StoredField.int32 path n] n :=
  scans_integer (reads_int32 n path) (Encoder.length_int32 n)

theorem scans_int64 (n : Int64) (path : FieldPath) :
    Scans (int64 path) [StoredField.int64 path n] n :=
  scans_integer (reads_int64 n path) (Encoder.length_int64 n)

theorem scans_count {n : Nat} (h : n ≤ Encoder.maxCount) (path : FieldPath) :
    Scans (count path) [StoredField.count path n] n :=
  scans_integer (reads_count h path) (Encoder.length_count n)

/-- A length and as many bytes behind it.  A cut lies in the one or in the others. -/
theorem scans_lengthy (width : Width) {next : Int → Decoder α} {path : FieldPath}
    {raw : List UInt8} {announced : Option Nat} {a : α}
    (hrange : 2 * (raw.length : Int) < byteRange width.size)
    (hread : Reads (next raw.length) raw a)
    (hshort : ∀ {input : List UInt8}, input.length < raw.length →
      next raw.length input = .error (.truncated path raw.length input.length)) :
    Scans (int width path >>= next)
      [{ path := path, lead := bytesOfInt width.size raw.length, payload := raw,
         announced := announced }] a := by
  have hlength := reads_int_natCast width path hrange
  have hsize := length_bytesOfInt width.size (raw.length : Int)
  refine scans_singleton (hlength.bind hread) ?_
  intro present hlt
  simp only [encode, List.length_append, hsize] at hlt ⊢
  rcases Nat.lt_or_ge present width.size with hlead | hpayload
  · have htake : ((bytesOfInt width.size (raw.length : Int)).take present).length = present := by
      rw [List.length_take]
      omega
    rw [List.take_append_of_le_length (by omega)]
    refine bind_of_error ?_
    rw [int_of_short (by omega), truncation, if_pos (by rwa [hsize]), htake, hsize]
  · have htake : (raw.take (present - width.size)).length = present - width.size := by
      rw [List.length_take]
      omega
    have hlead : (bytesOfInt width.size (raw.length : Int)).take present
        = bytesOfInt width.size (raw.length : Int) := List.take_of_length_le (by omega)
    rw [List.take_append, hlead, hsize, bind_of_ok (hlength _), hshort (by omega), truncation,
      if_neg (by rw [hsize]; omega), htake, hsize, Int.ofNat_sub hpayload]

theorem scans_string {raw : List UInt8} (h : raw.length ≤ Encoder.maxStringLength)
    (path : FieldPath) :
    Scans (string path) [StoredField.string path raw] (Text.Utf8.decode raw) := by
  refine scans_lengthy .two (Encoder.two_mul_lt_of_le_maxStringLength h)
    ((reads_counted raw path).bind_pure Text.Utf8.decode) ?_
  intro input hlt
  exact bind_of_error (counted_of_short hlt)

theorem scans_region {raw : List UInt8} (h : raw.length ≤ Encoder.maxCount) (path : FieldPath) :
    Scans (region path) [StoredField.region path raw] raw :=
  scans_lengthy .four (Encoder.two_mul_lt_of_le_maxCount h) (reads_counted raw path)
    counted_of_short

end Binary.Decoder

open Binary.Decoder

/-! ## 3. Groups and offsets -/

/-- A member that fits is scanned.  The region of its assignment is one field. -/
theorem StoredMember.Fits.scans {version : Int} {member : StoredMember} (h : member.Fits version)
    (place : FieldPath) :
    Scans (GroupMember.decode version place) (member.fields place) member.meaning := by
  have hassignment : Scans (liftM (Assignment.ofRegion place member.assignment.encode)) []
      member.assignment.meaning :=
    scans_liftM (AssignmentRegion.ofRegion_encode h.assignment place)
  rw [StoredMember.fields, List.append_assoc]
  show Scans _ ([_] ++ ([_] ++ ([_] ++ (_ ++ ([_] ++ ([_] ++ ([_] ++ []))))))) _
  exact (scans_string h.memberId _).bind
    ((scans_string h.clientId _).bind
      ((scans_string h.clientHost _).bind
        ((scans_optional h.rebalanceTimeout fun t => scans_int32 t _).bind
          ((scans_int32 member.sessionTimeout _).bind
            ((scans_region h.subscription _).bind
              ((scans_region h.assignment.length_encode_le _).bind
                (hassignment.bind_pure
                  fun assignment => { member.meaning with assignment })))))))

/-- The header of a group that fits is scanned. -/
theorem StoredGroup.Fits.scans_header {group : StoredGroup} (h : group.Fits) :
    Scans GroupHeader.decode
      [.string (.root "protocol_type") group.protocolType,
        .int32 (.root "generation") group.generation,
        .string (.root "protocol") group.protocol, .string (.root "leader") group.leader]
      group.header :=
  (scans_string h.protocolType _).bind
    ((scans_int32 group.generation _).bind
      ((scans_string h.protocol _).bind
        ((scans_string h.leader _).bind_pure fun leader => { group.header with leader })))

/-- A group that fits is scanned, member by member. -/
theorem StoredGroup.Fits.scans_body {group : StoredGroup} (h : group.Fits) (groupId : String) :
    Scans (GroupMetadata.decodeBody group.version.toInt groupId) group.bodyFields
      (group.meaning groupId) := by
  have hmembers : Scans (Decoder.list group.members.length fun i =>
      GroupMember.decode group.version.toInt (FieldPath.members.item i))
      (StoredMember.fieldsFrom 0 group.members) (group.members.map StoredMember.meaning) :=
    scans_list fun member hm i => (h.members member hm).scans (FieldPath.members.item i)
  have hversion : Int16.ofInt group.version.toInt = group.version := Int16.ofInt_toInt _
  rw [show group.meaning groupId = { group.meaning groupId with
    version := Int16.ofInt group.version.toInt } by rw [hversion]; rfl]
  show Scans _ ([_, _, _, _] ++ ([_] ++ StoredMember.fieldsFrom 0 group.members)) _
  exact h.scans_header.bind ((scans_count h.count _).bind
    (hmembers.bind_pure fun members => { group.meaning groupId with
      version := Int16.ofInt group.version.toInt, members }))

/-- An offset that fits is scanned. -/
theorem StoredOffset.Fits.scans_body {stored : StoredOffset} (h : stored.Fits) (key : OffsetKey) :
    Scans (OffsetCommit.decode key stored.version) stored.bodyFields (stored.meaning key) := by
  have hvalue : Scans (OffsetValue.decode stored.version.toInt) stored.bodyFields stored.value := by
    rw [bodyFields, List.append_assoc, List.append_assoc]
    show Scans _ ([_] ++ (_ ++ ([_] ++ ([_] ++ _)))) _
    exact (scans_int64 stored.offset _).bind
      ((scans_optional h.leaderEpoch fun n => scans_int32 n _).bind
        ((scans_string h.metadata _).bind
          ((scans_int64 stored.commitTimestamp _).bind
            ((scans_optional h.expireTimestamp fun n => scans_int64 n _).bind_pure
              fun expireTimestamp => { stored.value with expireTimestamp }))))
  exact hvalue.bind_pure fun value : OffsetValue =>
    ({ value with key, version := stored.version } : OffsetCommit)

/-! ## 4. Messages -/

/-- How a message ends whose value ends after `present` bytes, `own` of them in the given field. -/
def StoredField.endedIn (field : StoredField) (present own : Nat) : DecodeError :=
  if present < DecodeError.versionSize then .missingVersion (some present)
  else field.truncation own

/-- A value that is decoded to `a` begins with the given fields, and wherever it is cut short, the
decoding finds the cut. -/
structure LocatesCuts {α : Type} (decode : List UInt8 → Except DecodeError α)
    (fields : List StoredField) (value : List UInt8) (a : α) : Prop where
  layout : fields.flatMap encode <+: value
  honest : ∀ field ∈ fields, field.Honest
  /-- The prefixes that are accepted are those from some length on … -/
  threshold : ∃! n, n ≤ value.length ∧ ∀ k, (∃ b, decode (value.take k) = .ok b) ↔ n ≤ k
  /-- … and each of them is decoded to what the whole value is decoded to. -/
  same : ∀ k b, decode (value.take k) = .ok b → b = a
  /-- The others end inside one field, and fail there. -/
  located : ∀ k e, decode (value.take k) = .error e → ∃ field start,
    Spans fields field start k
    ∧ (∀ field' start', Spans fields field' start' k → field' = field ∧ start' = start)
    ∧ e = field.endedIn k (k - start) ∧ field.ReportedBy (k - start) e

section Cuts

variable {α : Type} {version : Int16} {fields : List StoredField}

/-- Whatever field a value ends in, the error names that field, with its numbers.  The version tag
is no exception, although it has an error of its own. -/
theorem StoredField.Spans.reportedBy_endedIn {field : StoredField} {start k : Nat}
    (h : Spans (.int16 .version version :: fields) field start k) :
    field.ReportedBy (k - start) (field.endedIn k (k - start)) := by
  unfold StoredField.endedIn
  split
  · next hshort =>
    rw [DecodeError.versionSize] at hshort
    have hcut : cut (.int16 .version version :: fields) k
        = some (StoredField.int16 .version version, k) := by
      rw [cut, encode_int16, Encoder.length_int16, if_pos hshort]
    obtain ⟨start', hspan, hown⟩ := cut_eq_some_iff.mp hcut
    obtain ⟨rfl, rfl⟩ := h.unique hspan
    have hlead : (StoredField.int16 .version version).lead.length = 2 :=
      Encoder.length_int16 version
    rw [ReportedBy, ← hown, hlead, if_pos hshort]
    exact ⟨rfl, rfl⟩
  · exact reportedBy_truncation _ _

/-- It is enough to know what happens when the row is all there, and when a field of it is cut. -/
theorem LocatesCuts.of_cut {decode : List UInt8 → Except DecodeError α} {row : List StoredField}
    {rest : List UInt8} {a : α} (honest : ∀ field ∈ row, field.Honest)
    (hwhole : ∀ {k : Nat}, (row.flatMap encode).length ≤ k →
      decode ((row.flatMap encode ++ rest).take k) = .ok a)
    (hcut : ∀ {k own : Nat} {field : StoredField}, cut row k = some (field, own) →
      decode ((row.flatMap encode ++ rest).take k) = .error (field.endedIn k own))
    (hended : ∀ {field : StoredField} {start k : Nat}, Spans row field start k →
      field.ReportedBy (k - start) (field.endedIn k (k - start))) :
    LocatesCuts decode row (row.flatMap encode ++ rest) a := by
  have hspans : ∀ {k}, k < (row.flatMap encode).length → ∃ field start,
      Spans row field start k
      ∧ decode ((row.flatMap encode ++ rest).take k) = .error (field.endedIn k (k - start)) := by
    intro k hlt
    obtain ⟨field, start, hspan⟩ := exists_spans_of_lt hlt
    exact ⟨field, start, hspan, hcut (cut_eq_some_iff.mpr ⟨start, hspan, rfl⟩)⟩
  have haccepted : ∀ k, (∃ b, decode ((row.flatMap encode ++ rest).take k) = .ok b)
      ↔ (row.flatMap encode).length ≤ k := by
    intro k
    constructor
    · rintro ⟨b, hb⟩
      refine Nat.le_of_not_lt fun hlt => ?_
      obtain ⟨field, start, -, herror⟩ := hspans hlt
      rw [herror] at hb
      cases hb
    · intro hle
      exact ⟨a, hwhole hle⟩
  refine ⟨List.prefix_append _ _, honest, ?_, ?_, ?_⟩
  · refine ⟨(row.flatMap encode).length, ⟨by simp, haccepted⟩, ?_⟩
    rintro n ⟨-, hn⟩
    exact Nat.le_antisymm ((hn _).mp ((haccepted _).mpr (Nat.le_refl _)))
      ((haccepted _).mp ((hn _).mpr (Nat.le_refl _)))
  · intro k b hb
    rw [hwhole ((haccepted k).mp ⟨b, hb⟩)] at hb
    cases hb
    rfl
  · intro k e he
    have hlt : k < (row.flatMap encode).length := by
      refine Nat.lt_of_not_le fun hle => ?_
      rw [hwhole hle] at he
      cases he
    obtain ⟨field, start, hspan, herror⟩ := hspans hlt
    rw [herror] at he
    cases he
    exact ⟨field, start, hspan, fun field' start' hspan' => hspan'.unique hspan, rfl,
      hended hspan⟩

end Cuts

namespace Outcome

variable {α : Type} {subject : Subject} {supported : List Int} {body : Int16 → Decoder α}
  {version : Int16} {fields : List StoredField} {a : α}

/-- The cuts of a value are located if its body is scanned. -/
theorem locatesCuts_ofValue (hversion : version.toInt ∈ supported)
    (hscan : (body version).Scans fields a)
    (honest : ∀ field ∈ StoredField.int16 .version version :: fields, field.Honest)
    (rest : List UInt8) :
    LocatesCuts (fun bytes => (ofValue subject supported body (some bytes)).result)
      (.int16 .version version :: fields)
      ((StoredField.int16 .version version :: fields).flatMap encode ++ rest) a := by
  have hsize := Encoder.length_int16 version
  have hrow : (StoredField.int16 .version version :: fields).flatMap encode ++ rest
      = Encoder.int16 version ++ (fields.flatMap encode ++ rest) := by
    rw [List.flatMap_cons, encode_int16, List.append_assoc]
  refine LocatesCuts.of_cut honest ?_ ?_ Spans.reportedBy_endedIn
  · intro k hk
    rw [List.flatMap_cons, encode_int16, List.length_append, hsize] at hk
    rw [hrow, List.take_append, List.take_of_length_le (by omega), List.take_append,
      List.take_of_length_le (by omega), ofValue_of_supported hversion, hscan.reads]
    rfl
  · intro k own field hcut
    rw [cut, encode_int16, hsize] at hcut
    rw [hrow]
    split at hcut
    · next hshort =>
      have hlength : ((Encoder.int16 version ++ (fields.flatMap encode ++ rest)).take k).length
          = k := by
        rw [List.length_take, List.length_append]
        omega
      rw [ofValue_of_short (by omega), hlength, StoredField.endedIn, DecodeError.versionSize,
        if_pos hshort]
    · next hlong =>
      have hlt : k - 2 < (fields.flatMap encode).length := by
        refine Nat.lt_of_not_le fun hge => ?_
        rw [(cut_eq_none_iff fields (k - 2)).mpr hge] at hcut
        cases hcut
      rw [List.take_append, List.take_of_length_le (by omega), hsize,
        List.take_append_of_le_length (by omega), ofValue_of_supported hversion,
        hscan.stops hcut, StoredField.endedIn, DecodeError.versionSize, if_neg hlong]
      rfl

end Outcome

/-- Truncation is always found, and in the right place: for a group's message and for an offset's,
the prefixes of a value that is decoded are decoded to the same from some length on, and each
shorter one fails at the field that its end lies in. -/
theorem truncation_located :
    (∀ {key : Option (List UInt8)} {value : List UInt8} {group : GroupMetadata},
      (GroupMetadata.decodeMessage key (some value)).result = .ok group →
      ∃ stored : StoredGroup, stored.Fits ∧ stored.encode <+: value
        ∧ (∃ groupId, group = stored.meaning groupId)
        ∧ LocatesCuts (fun bytes => (GroupMetadata.decodeMessage key (some bytes)).result)
            stored.fields value group)
    ∧ (∀ {key : Option (List UInt8)} {value : List UInt8} {commit : OffsetCommit},
      (OffsetCommit.decodeMessage key (some value)).result = .ok commit →
      ∃ stored : StoredOffset, stored.Fits ∧ stored.encode <+: value
        ∧ (∃ offsetKey, commit = stored.meaning offsetKey)
        ∧ LocatesCuts (fun bytes => (OffsetCommit.decodeMessage key (some bytes)).result)
            stored.fields value commit) := by
  constructor
  · intro key value group h
    obtain ⟨groupId, stored, rest, hkey, hfits, rfl, rfl⟩ :=
      GroupMetadata.exists_stored_of_decodeMessage h
    refine ⟨stored, hfits, List.prefix_append _ _, ⟨groupId, rfl⟩, ?_⟩
    simp only [GroupMetadata.result_decodeMessage, hkey, Except.bind]
    rw [← stored.flatMap_fields]
    refine Outcome.locatesCuts_ofValue hfits.version ?_ hfits.honest rest
    rw [GroupMetadata.decode_of_supported hfits.version]
    exact hfits.scans_body groupId
  · intro key value commit h
    obtain ⟨offsetKey, stored, rest, hkey, hfits, rfl, rfl⟩ :=
      OffsetCommit.exists_stored_of_decodeMessage h
    refine ⟨stored, hfits, List.prefix_append _ _, ⟨offsetKey, rfl⟩, ?_⟩
    simp only [OffsetCommit.result_decodeMessage, hkey, Except.bind]
    rw [← stored.flatMap_fields]
    exact Outcome.locatesCuts_ofValue hfits.version (hfits.scans_body offsetKey) hfits.honest rest

/-- A group of one member with an assignment, and an offset of version 3. -/
theorem truncation_located_of_member :
    (∃ stored : StoredGroup, stored.Fits ∧ LocatesCuts
      (fun bytes => (GroupMetadata.decodeMessage (some [0, 1, 0x67]) (some bytes)).result)
      stored.fields
      [0, 0, 0, 1, 0x63, 0, 0, 0, 7, 0, 0, 0, 0, 0, 0, 0, 1, 0, 1, 0x6d, 0, 0, 0, 0, 0, 0, 0, 8, 0,
        0, 0, 0, 0, 0, 0, 21, 0, 3, 0, 0, 0, 1, 0, 1, 0x74, 0, 0, 0, 1, 0, 0, 0, 5, 0, 0, 0, 0]
      ⟨"g", 0, ⟨"c", 7, "", ""⟩, [⟨"m", "", "", 8, none, [⟨"t", [5]⟩]⟩]⟩)
    ∧ (∃ stored : StoredOffset, stored.Fits ∧ LocatesCuts
      (fun bytes => (OffsetCommit.decodeMessage (some [0, 1, 0x67, 0, 1, 0x74, 0, 0, 0, 4])
        (some bytes)).result)
      stored.fields
      [0, 3, 0, 0, 0, 0, 0, 0, 0, 5, 0, 0, 0, 2, 0, 1, 0x78, 0, 0, 0, 0, 0, 0, 0, 9, 0xff]
      ⟨⟨5, some 2, "x", 9, none⟩, ⟨"g", "t", 4⟩, 3⟩) := by
  constructor
  · have hdecoded : (GroupMetadata.decodeMessage (some [0, 1, 0x67]) (some [0, 0, 0, 1, 0x63, 0, 0,
        0, 7, 0, 0, 0, 0, 0, 0, 0, 1, 0, 1, 0x6d, 0, 0, 0, 0, 0, 0, 0, 8, 0, 0, 0, 0, 0, 0, 0, 21,
        0, 3, 0, 0, 0, 1, 0, 1, 0x74, 0, 0, 0, 1, 0, 0, 0, 5, 0, 0, 0, 0])).result
          = .ok ⟨"g", 0, ⟨"c", 7, "", ""⟩, [⟨"m", "", "", 8, none, [⟨"t", [5]⟩]⟩]⟩ := by
      decide +kernel
    obtain ⟨stored, hfits, -, -, hcuts⟩ := truncation_located.1 hdecoded
    exact ⟨stored, hfits, hcuts⟩
  · have hdecoded : (OffsetCommit.decodeMessage (some [0, 1, 0x67, 0, 1, 0x74, 0, 0, 0, 4])
        (some [0, 3, 0, 0, 0, 0, 0, 0, 0, 5, 0, 0, 0, 2, 0, 1, 0x78, 0, 0, 0, 0, 0, 0, 0, 9,
          0xff])).result = .ok ⟨⟨5, some 2, "x", 9, none⟩, ⟨"g", "t", 4⟩, 3⟩ := by
      decide +kernel
    obtain ⟨stored, hfits, -, -, hcuts⟩ := truncation_located.2 hdecoded
    exact ⟨stored, hfits, hcuts⟩

end ConsumerOffsets
