/-
# What decoders accept

`Decoder.Reads` says that a decoder reads back what is written.  Here is the other direction: a
decoder that does not fail has read a written form of what it decodes, and nothing but one
(`Decoder.Accepts`).  Malformed bytes are ruled out with that: a negative length, a count without
its elements, a region that ends inside a field have no written form.

The argument goes up field by field, the way `Reads` does: first single fields and lists, then
topics, assignments, members, groups and offsets.  Each step takes the decoder apart with
`Decoder.bind_eq_ok_iff` and puts the written forms together.
-/
import ConsumerOffsets.Stored.Group
import ConsumerOffsets.Stored.Offset

namespace ConsumerOffsets

namespace Binary.Decoder

/-! ## 1. Accepting nothing but written forms -/

/-- Whatever the decoder accepts begins with the written form of something that fits; the decoder
has taken that form off and decoded it to what it stands for. -/
def Accepts {σ α : Type} (decoder : Decoder α) (fits : σ → Prop) (written : σ → List UInt8)
    (meaning : σ → α) : Prop :=
  ∀ {input rest : List UInt8} {a : α}, decoder input = .ok (a, rest) →
    ∃ s, fits s ∧ input = written s ++ rest ∧ a = meaning s

variable {α β σ : Type} {input rest : List UInt8}

/-- A decoder with a last step that reads nothing. -/
theorem bind_pure_eq_ok_iff {decoder : Decoder α} {f : α → β} {b : β} :
    (decoder >>= fun x => pure (f x)) input = .ok (b, rest)
      ↔ ∃ a, decoder input = .ok (a, rest) ∧ b = f a := by
  rw [bind_eq_ok_iff]
  constructor
  · rintro ⟨a, middle, ha, hpure⟩
    rw [pure_apply] at hpure
    cases hpure
    exact ⟨a, ha, rfl⟩
  · rintro ⟨a, ha, rfl⟩
    exact ⟨a, rest, ha, rfl⟩

theorem liftM_eq_ok_iff {x : Except DecodeError α} {a : α} :
    (liftM x : Decoder α) input = .ok (a, rest) ↔ x = .ok a ∧ rest = input := by
  cases x with
  | error e =>
    constructor
    · intro h
      cases h
    · rintro ⟨h, -⟩
      cases h
  | ok b =>
    constructor
    · intro h
      cases h
      exact ⟨rfl, rfl⟩
    · rintro ⟨h, rfl⟩
      cases h
      rfl

/-! ## 2. Fields -/

theorem bytes_eq_ok {size : Nat} {field : FieldPath} {raw : List UInt8}
    (h : bytes size field input = .ok (raw, rest)) : raw.length = size ∧ input = raw ++ rest := by
  unfold bytes at h
  dsimp only at h
  split at h
  · cases h
  · next hsize =>
    cases h
    rw [List.length_take] at hsize ⊢
    exact ⟨by omega, (List.take_append_drop size input).symm⟩

/-- An integer that is read is in the range of its width, and its bytes are those that were
taken. -/
theorem int_eq_ok {width : Width} {field : FieldPath} {n : Int}
    (h : int width field input = .ok (n, rest)) :
    input = bytesOfInt width.size n ++ rest ∧ -(byteRange width.size : Int) ≤ 2 * n
      ∧ 2 * n < byteRange width.size := by
  obtain ⟨raw, hraw, rfl⟩ := bind_pure_eq_ok_iff.mp h
  obtain ⟨hlength, rfl⟩ := bytes_eq_ok hraw
  rw [← hlength, bytesOfInt_intOfBytes]
  exact ⟨rfl, le_two_mul_intOfBytes raw, two_mul_intOfBytes_lt raw⟩

theorem int16_eq_ok {field : FieldPath} {n : Int16}
    (h : int16 field input = .ok (n, rest)) : input = Encoder.int16 n ++ rest := by
  obtain ⟨m, hm, rfl⟩ := bind_pure_eq_ok_iff.mp h
  obtain ⟨rfl, hlo, hhi⟩ := int_eq_ok hm
  simp only [Width.size, byteRange] at hlo hhi
  rw [Encoder.int16, Int16.toInt_ofInt_of_le (by omega) (by omega)]
  rfl

theorem int32_eq_ok {field : FieldPath} {n : Int32}
    (h : int32 field input = .ok (n, rest)) : input = Encoder.int32 n ++ rest := by
  obtain ⟨m, hm, rfl⟩ := bind_pure_eq_ok_iff.mp h
  obtain ⟨rfl, hlo, hhi⟩ := int_eq_ok hm
  simp only [Width.size, byteRange] at hlo hhi
  rw [Encoder.int32, Int32.toInt_ofInt_of_le (by omega) (by omega)]
  rfl

theorem int64_eq_ok {field : FieldPath} {n : Int64}
    (h : int64 field input = .ok (n, rest)) : input = Encoder.int64 n ++ rest := by
  obtain ⟨m, hm, rfl⟩ := bind_pure_eq_ok_iff.mp h
  obtain ⟨rfl, hlo, hhi⟩ := int_eq_ok hm
  simp only [Width.size, byteRange] at hlo hhi
  rw [Encoder.int64, Int64.toInt_ofInt_of_le (by omega) (by omega)]
  rfl

/-- A length that bytes were read for is not negative, and it is their number. -/
theorem counted_eq_ok {length : Int} {field : FieldPath} {raw : List UInt8}
    (h : counted length field input = .ok (raw, rest)) :
    length = raw.length ∧ input = raw ++ rest := by
  unfold counted at h
  split at h
  · cases h
  · next hneg =>
    obtain ⟨hlength, hinput⟩ := bytes_eq_ok h
    exact ⟨by omega, hinput⟩

theorem accepts_string (field : FieldPath) :
    Accepts (string field) (fun raw => raw.length ≤ Encoder.maxStringLength) Encoder.string
      Text.Utf8.decode := by
  intro input rest s h
  obtain ⟨length, middle, hlength, hread⟩ := bind_eq_ok_iff.mp h
  obtain ⟨rfl, -, hhi⟩ := int_eq_ok hlength
  obtain ⟨raw, hraw, rfl⟩ := bind_pure_eq_ok_iff.mp hread
  obtain ⟨rfl, rfl⟩ := counted_eq_ok hraw
  refine ⟨raw, ?_, ?_, rfl⟩
  · simp only [Width.size, byteRange] at hhi
    rw [Encoder.maxStringLength]
    omega
  · rw [Encoder.string, List.append_assoc]
    rfl

theorem region_eq_ok {field : FieldPath} {raw : List UInt8}
    (h : region field input = .ok (raw, rest)) :
    raw.length ≤ Encoder.maxCount ∧ input = Encoder.region raw ++ rest := by
  obtain ⟨size, middle, hsize, hraw⟩ := bind_eq_ok_iff.mp h
  obtain ⟨rfl, -, hhi⟩ := int_eq_ok hsize
  obtain ⟨rfl, rfl⟩ := counted_eq_ok hraw
  constructor
  · simp only [Width.size, byteRange] at hhi
    rw [Encoder.maxCount]
    omega
  · rw [Encoder.region, List.append_assoc]
    rfl

/-- A field that is read exactly under a condition is stored exactly then. -/
theorem optional_eq_ok {present : Prop} [Decidable present] {decoder : Decoder α}
    {written : α → List UInt8}
    (hdecoder : ∀ {input rest a}, decoder input = .ok (a, rest) → input = written a ++ rest)
    {stored : Option α} (h : optional present decoder input = .ok (stored, rest)) :
    (stored.isSome ↔ present) ∧ input = stored.elim [] written ++ rest := by
  unfold optional at h
  split at h
  · next hpresent =>
    obtain ⟨a, ha, rfl⟩ := bind_pure_eq_ok_iff.mp h
    exact ⟨iff_of_true rfl hpresent, hdecoder ha⟩
  · next habsent =>
    cases h
    exact ⟨iff_of_false (by simp) habsent, rfl⟩

/-! ## 3. Lists -/

theorem count_eq_ok {field : FieldPath} {n : Nat} (h : count field input = .ok (n, rest)) :
    n ≤ Encoder.maxCount ∧ input = Encoder.count n ++ rest := by
  obtain ⟨m, middle, hm, hn⟩ := bind_eq_ok_iff.mp h
  obtain ⟨rfl, -, hhi⟩ := int_eq_ok hm
  simp only [Width.size, byteRange] at hhi
  split at hn
  · cases hn
  · next hneg =>
    cases hn
    constructor
    · rw [Encoder.maxCount]
      omega
    · rw [Encoder.count, Int.toNat_of_nonneg (by omega)]
      rfl

/-- A count that was compared with the remaining bytes is a count, and they are enough for its
elements. -/
theorem boundedCount_eq_ok {itemSize : Nat} {field : FieldPath} {n : Nat}
    (h : boundedCount itemSize field input = .ok (n, rest)) :
    (n ≤ Encoder.maxCount ∧ n * itemSize ≤ rest.length) ∧ input = Encoder.count n ++ rest := by
  obtain ⟨m, middle, hm, hn⟩ := bind_eq_ok_iff.mp h
  obtain ⟨left, same, hleft, hn⟩ := bind_eq_ok_iff.mp hn
  cases hleft
  split at hn
  · cases hn
  · next hroom =>
    cases hn
    obtain ⟨hcount, rfl⟩ := count_eq_ok hm
    exact ⟨⟨hcount, by omega⟩, rfl⟩

/-- So many elements were read one after another from as many written forms. -/
theorem listFrom_eq_ok {item : Nat → Decoder α} {fits : σ → Prop} {written : σ → List UInt8}
    {meaning : σ → α} (h : ∀ i, Accepts (item i) fits written meaning) :
    ∀ {n index : Nat} {input rest : List UInt8} {as : List α},
      listFrom item index n input = .ok (as, rest) →
      ∃ stored : List σ, stored.length = n ∧ (∀ s ∈ stored, fits s)
        ∧ input = stored.flatMap written ++ rest ∧ as = stored.map meaning
  | 0, index, input, rest, as, hread => by
    cases hread
    exact ⟨[], rfl, by simp, rfl, rfl⟩
  | n + 1, index, input, rest, as, hread => by
    obtain ⟨a, middle, ha, hread⟩ := bind_eq_ok_iff.mp hread
    obtain ⟨as', has, rfl⟩ := bind_pure_eq_ok_iff.mp hread
    obtain ⟨s, hs, rfl, rfl⟩ := h index ha
    obtain ⟨stored, hlength, hstored, rfl, rfl⟩ := listFrom_eq_ok h has
    refine ⟨s :: stored, by rw [List.length_cons, hlength], ?_, ?_, rfl⟩
    · intro t ht
      rcases List.mem_cons.mp ht with rfl | ht
      · exact hs
      · exact hstored t ht
    · rw [List.flatMap_cons, List.append_assoc]

end Binary.Decoder

open Binary

/-! ## 4. Assignments -/

/-- A topic that is read was stored, its partitions as many as their count says. -/
theorem StoredTopic.accepts_decodeTopic (field : FieldPath) :
    Decoder.Accepts (Assignment.decodeTopic field) Fits encode meaning := by
  intro input rest entry h
  obtain ⟨_, _, hname, h⟩ := Decoder.bind_eq_ok_iff.mp h
  obtain ⟨count, _, hcount, h⟩ := Decoder.bind_eq_ok_iff.mp h
  obtain ⟨_, hpartitions, rfl⟩ := Decoder.bind_pure_eq_ok_iff.mp h
  obtain ⟨name, fitsName, rfl, rfl⟩ := Decoder.accepts_string _ hname
  obtain ⟨⟨fitsCount, -⟩, rfl⟩ := Decoder.boundedCount_eq_ok hcount
  have hitem : ∀ j, Decoder.Accepts (Decoder.int32 ((field.child "partitions").item j))
      (fun _ => True) Encoder.int32 id :=
    fun j {_ _ n} hn => ⟨n, trivial, Decoder.int32_eq_ok hn, rfl⟩
  obtain ⟨partitions, rfl, -, rfl, rfl⟩ := Decoder.listFrom_eq_ok hitem hpartitions
  refine ⟨⟨name, partitions⟩, ⟨fitsName, fitsCount⟩, ?_, ?_⟩
  · simp only [encode, List.append_assoc]
  · rw [meaning, List.map_id]

/-- A body that is read was stored. -/
theorem StoredAssignment.accepts_decode (field : FieldPath) :
    Decoder.Accepts (Assignment.decode field) Fits encode meaning := by
  intro input rest assignment h
  obtain ⟨count, _, hcount, h⟩ := Decoder.bind_eq_ok_iff.mp h
  obtain ⟨_, _, htopics, h⟩ := Decoder.bind_eq_ok_iff.mp h
  obtain ⟨userData, huserData, rfl⟩ := Decoder.bind_pure_eq_ok_iff.mp h
  obtain ⟨⟨fitsCount, -⟩, rfl⟩ := Decoder.boundedCount_eq_ok hcount
  obtain ⟨topics, rfl, fitsTopics, rfl, rfl⟩ :=
    Decoder.listFrom_eq_ok (fun i => StoredTopic.accepts_decodeTopic _) htopics
  obtain ⟨fitsUserData, rfl⟩ := Decoder.region_eq_ok huserData
  refine ⟨⟨topics, userData⟩, ⟨fitsCount, fitsTopics, fitsUserData⟩, ?_, rfl⟩
  simp only [encode, List.append_assoc]

/-- A region that holds an assignment is empty, or is a version that is not negative, a stored
body, and whatever follows that. -/
theorem AssignmentRegion.eq_encode_of_ofRegion {member : FieldPath} {raw : List UInt8}
    {assignment : Assignment} (hsize : raw.length ≤ Encoder.maxCount)
    (h : Assignment.ofRegion member raw = .ok assignment) :
    ∃ region : AssignmentRegion, region.Fits ∧ raw = region.encode
      ∧ assignment = region.meaning := by
  by_cases hempty : raw = []
  · subst hempty
    cases h
    exact ⟨empty, trivial, rfl, rfl⟩
  · rw [Assignment.ofRegion_of_ne_nil hempty] at h
    split at h
    · cases h
    · next version body hversion =>
      split at h
      · cases h
      · next hneg =>
        split at h
        · next hbody =>
          cases h
          obtain ⟨stored, fitsBody, rfl, rfl⟩ := StoredAssignment.accepts_decode _ hbody
          obtain ⟨rfl, hlo, hhi⟩ := Decoder.int_eq_ok hversion
          simp only [Width.size, byteRange] at hlo hhi
          have hstored : (Int16.ofInt version).toInt = version :=
            Int16.toInt_ofInt_of_le (by omega) (by omega)
          have hencode : ∀ slack, bytesOfInt Width.two.size version ++ (stored.encode ++ slack)
              = encode (holding (Int16.ofInt version) stored slack) := by
            intro slack
            rw [encode, Encoder.int16, hstored]
            rfl
          rw [hencode] at hsize
          exact ⟨holding (Int16.ofInt version) stored _, ⟨by omega, fitsBody, hsize⟩,
            hencode _, rfl⟩
        · cases h

/-! ## 5. Groups -/

/-- A member that is read was stored, with the fields of its version. -/
theorem StoredMember.accepts_decode (version : Int) (field : FieldPath) :
    Decoder.Accepts (GroupMember.decode version field) (Fits version) encode meaning := by
  intro input rest member h
  obtain ⟨_, _, hmemberId, h⟩ := Decoder.bind_eq_ok_iff.mp h
  obtain ⟨_, _, hclientId, h⟩ := Decoder.bind_eq_ok_iff.mp h
  obtain ⟨_, _, hclientHost, h⟩ := Decoder.bind_eq_ok_iff.mp h
  obtain ⟨rebalanceTimeout, _, hrebalance, h⟩ := Decoder.bind_eq_ok_iff.mp h
  obtain ⟨sessionTimeout, _, hsession, h⟩ := Decoder.bind_eq_ok_iff.mp h
  obtain ⟨subscription, _, hsubscription, h⟩ := Decoder.bind_eq_ok_iff.mp h
  obtain ⟨raw, _, hregion, h⟩ := Decoder.bind_eq_ok_iff.mp h
  obtain ⟨_, hassignment, rfl⟩ := Decoder.bind_pure_eq_ok_iff.mp h
  obtain ⟨hdecoded, rfl⟩ := Decoder.liftM_eq_ok_iff.mp hassignment
  obtain ⟨memberId, fitsMemberId, rfl, rfl⟩ := Decoder.accepts_string _ hmemberId
  obtain ⟨clientId, fitsClientId, rfl, rfl⟩ := Decoder.accepts_string _ hclientId
  obtain ⟨clientHost, fitsClientHost, rfl, rfl⟩ := Decoder.accepts_string _ hclientHost
  obtain ⟨fitsRebalance, rfl⟩ := Decoder.optional_eq_ok Decoder.int32_eq_ok hrebalance
  obtain rfl := Decoder.int32_eq_ok hsession
  obtain ⟨fitsSubscription, rfl⟩ := Decoder.region_eq_ok hsubscription
  obtain ⟨fitsRaw, rfl⟩ := Decoder.region_eq_ok hregion
  obtain ⟨region, fitsRegion, rfl, rfl⟩ :=
    AssignmentRegion.eq_encode_of_ofRegion fitsRaw hdecoded
  refine ⟨⟨memberId, clientId, clientHost, rebalanceTimeout, sessionTimeout, subscription,
    region⟩, ⟨fitsMemberId, fitsClientId, fitsClientHost, fitsRebalance, fitsSubscription,
    fitsRegion⟩, ?_, rfl⟩
  simp only [encode, List.append_assoc]

/-- A body that is read for a supported version was stored, its members as many as their count
says. -/
theorem StoredGroup.accepts_decodeBody {version : Int16}
    (hversion : version.toInt ∈ GroupMetadata.supportedVersions) (groupId : String) :
    Decoder.Accepts (GroupMetadata.decodeBody version.toInt groupId)
      (fun stored => stored.version = version ∧ stored.Fits) encodeBody (meaning groupId) := by
  intro input rest group h
  obtain ⟨_, _, hheader, h⟩ := Decoder.bind_eq_ok_iff.mp h
  obtain ⟨count, _, hcount, h⟩ := Decoder.bind_eq_ok_iff.mp h
  obtain ⟨_, hmembers, rfl⟩ := Decoder.bind_pure_eq_ok_iff.mp h
  obtain ⟨_, _, hprotocolType, h⟩ := Decoder.bind_eq_ok_iff.mp hheader
  obtain ⟨generation, _, hgeneration, h⟩ := Decoder.bind_eq_ok_iff.mp h
  obtain ⟨_, _, hprotocol, h⟩ := Decoder.bind_eq_ok_iff.mp h
  obtain ⟨_, hleader, rfl⟩ := Decoder.bind_pure_eq_ok_iff.mp h
  obtain ⟨protocolType, fitsProtocolType, rfl, rfl⟩ := Decoder.accepts_string _ hprotocolType
  obtain rfl := Decoder.int32_eq_ok hgeneration
  obtain ⟨protocol, fitsProtocol, rfl, rfl⟩ := Decoder.accepts_string _ hprotocol
  obtain ⟨leader, fitsLeader, rfl, rfl⟩ := Decoder.accepts_string _ hleader
  obtain ⟨fitsCount, rfl⟩ := Decoder.count_eq_ok hcount
  obtain ⟨members, rfl, fitsMembers, rfl, rfl⟩ :=
    Decoder.listFrom_eq_ok (fun i => StoredMember.accepts_decode _ _) hmembers
  refine ⟨⟨version, protocolType, generation, protocol, leader, members⟩, ⟨rfl, hversion,
    fitsProtocolType, fitsProtocol, fitsLeader, fitsCount, fitsMembers⟩, ?_, ?_⟩
  · simp only [encodeBody, encodeHeader, List.append_assoc]
  · rw [meaning, header, Int16.ofInt_toInt]

/-! ## 6. Offsets -/

/-- A key that is read was stored. -/
theorem StoredOffsetKey.accepts_decodeBody :
    Decoder.Accepts OffsetKey.decodeBody Fits encode meaning := by
  intro input rest key h
  obtain ⟨_, _, hgroupId, h⟩ := Decoder.bind_eq_ok_iff.mp h
  obtain ⟨_, _, htopic, h⟩ := Decoder.bind_eq_ok_iff.mp h
  obtain ⟨partition, hpartition, rfl⟩ := Decoder.bind_pure_eq_ok_iff.mp h
  obtain ⟨groupId, fitsGroupId, rfl, rfl⟩ := Decoder.accepts_string _ hgroupId
  obtain ⟨topic, fitsTopic, rfl, rfl⟩ := Decoder.accepts_string _ htopic
  obtain rfl := Decoder.int32_eq_ok hpartition
  refine ⟨⟨groupId, topic, partition⟩, ⟨fitsGroupId, fitsTopic⟩, ?_, rfl⟩
  simp only [encode, List.append_assoc]

/-- A body that is read for a supported version was stored, with the fields of that version. -/
theorem StoredOffset.accepts_decode {version : Int16}
    (hversion : version.toInt ∈ OffsetCommit.supportedVersions) (key : OffsetKey) :
    Decoder.Accepts (OffsetCommit.decode key version)
      (fun stored => stored.version = version ∧ stored.Fits) encodeBody (meaning key) := by
  intro input rest commit h
  obtain ⟨_, hvalue, rfl⟩ := Decoder.bind_pure_eq_ok_iff.mp h
  obtain ⟨offset, _, hoffset, h⟩ := Decoder.bind_eq_ok_iff.mp hvalue
  obtain ⟨leaderEpoch, _, hepoch, h⟩ := Decoder.bind_eq_ok_iff.mp h
  obtain ⟨_, _, hmetadata, h⟩ := Decoder.bind_eq_ok_iff.mp h
  obtain ⟨commitTimestamp, _, hcommit, h⟩ := Decoder.bind_eq_ok_iff.mp h
  obtain ⟨expireTimestamp, hexpire, rfl⟩ := Decoder.bind_pure_eq_ok_iff.mp h
  obtain rfl := Decoder.int64_eq_ok hoffset
  obtain ⟨fitsEpoch, rfl⟩ := Decoder.optional_eq_ok Decoder.int32_eq_ok hepoch
  obtain ⟨metadata, fitsMetadata, rfl, rfl⟩ := Decoder.accepts_string _ hmetadata
  obtain rfl := Decoder.int64_eq_ok hcommit
  obtain ⟨fitsExpire, rfl⟩ := Decoder.optional_eq_ok Decoder.int64_eq_ok hexpire
  refine ⟨⟨version, offset, leaderEpoch, metadata, commitTimestamp, expireTimestamp⟩,
    ⟨rfl, hversion, fitsEpoch, fitsMetadata, fitsExpire⟩, ?_, rfl⟩
  simp only [encodeBody, List.append_assoc]

end ConsumerOffsets
