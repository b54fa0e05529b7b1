/-
# Written forms cannot be confused

Two stored values whose bytes agree, as far as they go, are the same value: no written form is the
beginning of another one (`Binary.Unambiguous`).  Hence bytes that begin with the written form of a
group's or an offset's value do so in one way only (`StoredGroup.unambiguous_encode`,
`StoredOffset.unambiguous_encode`).

For a single field this follows from there being a decoder that reads it back, since a decoder has
one answer (`Binary.Decoder.Reads.append_inj`).  The larger forms are fields one after another, and
lists whose count comes first.
-/
import ConsumerOffsets.Stored.Group
import ConsumerOffsets.Stored.Offset

namespace ConsumerOffsets

namespace Binary

/-! ## 1. Fields and lists -/

/-- The written forms of what fits are told apart by their bytes, whatever follows them. -/
def Unambiguous {σ : Type} (fits : σ → Prop) (written : σ → List UInt8) : Prop :=
  ∀ {s t : σ} {rest rest' : List UInt8}, fits s → fits t →
    written s ++ rest = written t ++ rest' → s = t ∧ rest = rest'

/-- One decoder cannot read back two things from the same bytes. -/
theorem Decoder.Reads.append_inj {α : Type} {decoder : Decoder α} {w w' rest rest' : List UInt8}
    {a b : α} (h : Reads decoder w a) (h' : Reads decoder w' b) (heq : w ++ rest = w' ++ rest') :
    a = b ∧ rest = rest' := by
  have hread := h rest
  rw [heq, h' rest'] at hread
  cases hread
  exact ⟨rfl, rfl⟩

/-- A text, read without being decoded. -/
theorem Decoder.reads_string_raw {raw : List UInt8} (h : raw.length ≤ Encoder.maxStringLength)
    (field : FieldPath) :
    Reads (int .two field >>= fun length => counted length field) (Encoder.string raw) raw := by
  have hlength := reads_int_natCast .two field (Encoder.two_mul_lt_of_le_maxStringLength h)
  exact hlength.bind (reads_counted raw field)

theorem unambiguous_int16 : Unambiguous (fun _ : Int16 => True) Encoder.int16 :=
  fun {s t _ _} _ _ h => (Decoder.reads_int16 s .version).append_inj (Decoder.reads_int16 t _) h

theorem unambiguous_int32 : Unambiguous (fun _ : Int32 => True) Encoder.int32 :=
  fun {s t _ _} _ _ h => (Decoder.reads_int32 s .version).append_inj (Decoder.reads_int32 t _) h

theorem unambiguous_int64 : Unambiguous (fun _ : Int64 => True) Encoder.int64 :=
  fun {s t _ _} _ _ h => (Decoder.reads_int64 s .version).append_inj (Decoder.reads_int64 t _) h

theorem unambiguous_count : Unambiguous (fun n => n ≤ Encoder.maxCount) Encoder.count :=
  fun hs ht h => (Decoder.reads_count hs .version).append_inj (Decoder.reads_count ht _) h

theorem unambiguous_string :
    Unambiguous (fun raw => raw.length ≤ Encoder.maxStringLength) Encoder.string :=
  fun hs ht h =>
    (Decoder.reads_string_raw hs .version).append_inj (Decoder.reads_string_raw ht _) h

theorem unambiguous_region :
    Unambiguous (fun raw => raw.length ≤ Encoder.maxCount) Encoder.region :=
  fun hs ht h => (Decoder.reads_region hs .version).append_inj (Decoder.reads_region ht _) h

variable {σ : Type} {fits : σ → Prop} {written : σ → List UInt8}

/-- A field that is there under one condition on both sides. -/
theorem Unambiguous.optional (h : Unambiguous fits written) {s t : Option σ}
    {rest rest' : List UInt8} (hs : ∀ a, s = some a → fits a) (ht : ∀ a, t = some a → fits a)
    (hsome : s.isSome = t.isSome)
    (heq : s.elim [] written ++ rest = t.elim [] written ++ rest') : s = t ∧ rest = rest' := by
  cases s with
  | none =>
    cases t with
    | none => exact ⟨rfl, heq⟩
    | some b => cases hsome
  | some a =>
    cases t with
    | none => cases hsome
    | some b =>
      obtain ⟨rfl, hrest⟩ := h (hs a rfl) (ht b rfl) heq
      exact ⟨rfl, hrest⟩

/-- Lists that are known to be equally long. -/
theorem Unambiguous.list (h : Unambiguous fits written) : ∀ {s t : List σ}
    {rest rest' : List UInt8}, (∀ a ∈ s, fits a) → (∀ a ∈ t, fits a) → s.length = t.length →
    s.flatMap written ++ rest = t.flatMap written ++ rest' → s = t ∧ rest = rest'
  | [], [], _, _, _, _, _, heq => ⟨rfl, heq⟩
  | a :: s, b :: t, rest, rest', hs, ht, hlength, heq => by
    rw [List.flatMap_cons, List.flatMap_cons, List.append_assoc, List.append_assoc] at heq
    obtain ⟨hfirst, heq⟩ := h (hs a List.mem_cons_self) (ht b List.mem_cons_self) heq
    obtain ⟨htail, hrest⟩ := h.list (fun c hc => hs c (List.mem_cons_of_mem _ hc))
      (fun c hc => ht c (List.mem_cons_of_mem _ hc)) (Nat.succ.inj hlength) heq
    exact ⟨by rw [hfirst, htail], hrest⟩

end Binary

open Binary

/-! ## 2. Assignments -/

theorem StoredTopic.unambiguous_encode : Unambiguous Fits encode := by
  intro s t rest rest' hs ht h
  simp only [encode, List.append_assoc] at h
  obtain ⟨hname, h⟩ := unambiguous_string hs.name ht.name h
  obtain ⟨hcount, h⟩ := unambiguous_count hs.partitions ht.partitions h
  obtain ⟨hpartitions, hrest⟩ :=
    unambiguous_int32.list (fun _ _ => trivial) (fun _ _ => trivial) hcount h
  exact ⟨by cases s; cases t; congr, hrest⟩

theorem StoredAssignment.unambiguous_encode : Unambiguous Fits encode := by
  intro s t rest rest' hs ht h
  simp only [encode, List.append_assoc] at h
  obtain ⟨hcount, h⟩ := unambiguous_count hs.count ht.count h
  obtain ⟨htopics, h⟩ := StoredTopic.unambiguous_encode.list hs.topics ht.topics hcount h
  obtain ⟨huserData, hrest⟩ := unambiguous_region hs.userData ht.userData h
  exact ⟨by cases s; cases t; congr, hrest⟩

/-- A region has its size written in front, so here nothing follows: what is behind the body is
slack. -/
theorem AssignmentRegion.encode_inj {s t : AssignmentRegion} (hs : s.Fits) (ht : t.Fits)
    (h : s.encode = t.encode) : s = t := by
  have hne : ∀ version body slack, encode (holding version body slack) ≠ [] := by
    intro version body slack hnil
    have hlength := congrArg List.length hnil
    rw [encode, List.length_append, Encoder.length_int16, List.length_nil] at hlength
    omega
  cases s with
  | empty =>
    cases t with
    | empty => rfl
    | holding version body slack => exact absurd h.symm (hne version body slack)
  | holding version body slack =>
    cases t with
    | empty => exact absurd h (hne version body slack)
    | holding version' body' slack' =>
      obtain ⟨hversion, h⟩ := unambiguous_int16 trivial trivial h
      obtain ⟨hbody, hslack⟩ := StoredAssignment.unambiguous_encode hs.2.1 ht.2.1 h
      rw [hversion, hbody, hslack]

/-! ## 3. Groups -/

theorem StoredMember.unambiguous_encode (version : Int) : Unambiguous (Fits version) encode := by
  intro s t rest rest' hs ht h
  have hpresent : s.rebalanceTimeout.isSome = t.rebalanceTimeout.isSome :=
    Bool.eq_iff_iff.mpr (hs.rebalanceTimeout.trans ht.rebalanceTimeout.symm)
  simp only [encode, List.append_assoc] at h
  obtain ⟨hmemberId, h⟩ := unambiguous_string hs.memberId ht.memberId h
  obtain ⟨hclientId, h⟩ := unambiguous_string hs.clientId ht.clientId h
  obtain ⟨hclientHost, h⟩ := unambiguous_string hs.clientHost ht.clientHost h
  obtain ⟨hrebalance, h⟩ :=
    unambiguous_int32.optional (fun _ _ => trivial) (fun _ _ => trivial) hpresent h
  obtain ⟨hsession, h⟩ := unambiguous_int32 trivial trivial h
  obtain ⟨hsubscription, h⟩ := unambiguous_region hs.subscription ht.subscription h
  obtain ⟨hregion, hrest⟩ :=
    unambiguous_region hs.assignment.length_encode_le ht.assignment.length_encode_le h
  have hassignment := AssignmentRegion.encode_inj hs.assignment ht.assignment hregion
  exact ⟨by cases s; cases t; congr, hrest⟩

/-- Bytes begin with the written form of at most one value. -/
theorem StoredGroup.unambiguous_encode : Unambiguous Fits encode := by
  intro s t rest rest' hs ht h
  simp only [encode, encodeBody, encodeHeader, List.append_assoc] at h
  obtain ⟨hversion, h⟩ := unambiguous_int16 trivial trivial h
  obtain ⟨hprotocolType, h⟩ := unambiguous_string hs.protocolType ht.protocolType h
  obtain ⟨hgeneration, h⟩ := unambiguous_int32 trivial trivial h
  obtain ⟨hprotocol, h⟩ := unambiguous_string hs.protocol ht.protocol h
  obtain ⟨hleader, h⟩ := unambiguous_string hs.leader ht.leader h
  obtain ⟨hcount, h⟩ := unambiguous_count hs.count ht.count h
  -- which fields the members have depends on the version, which is known to agree by now
  have hfits : ∀ member ∈ s.members, member.Fits t.version.toInt := hversion ▸ hs.members
  obtain ⟨hmembers, hrest⟩ :=
    Unambiguous.list (StoredMember.unambiguous_encode _) hfits ht.members hcount h
  exact ⟨by cases s; cases t; congr, hrest⟩

/-! ## 4. Offsets -/

theorem StoredOffset.unambiguous_encode : Unambiguous Fits encode := by
  intro s t rest rest' hs ht h
  simp only [encode, encodeBody, List.append_assoc] at h
  obtain ⟨hversion, h⟩ := unambiguous_int16 trivial trivial h
  have hepoch : s.leaderEpoch.isSome = t.leaderEpoch.isSome :=
    Bool.eq_iff_iff.mpr (hs.leaderEpoch.trans (hversion ▸ ht.leaderEpoch.symm))
  have hexpire : s.expireTimestamp.isSome = t.expireTimestamp.isSome :=
    Bool.eq_iff_iff.mpr (hs.expireTimestamp.trans (hversion ▸ ht.expireTimestamp.symm))
  obtain ⟨hoffset, h⟩ := unambiguous_int64 trivial trivial h
  obtain ⟨hleaderEpoch, h⟩ :=
    unambiguous_int32.optional (fun _ _ => trivial) (fun _ _ => trivial) hepoch h
  obtain ⟨hmetadata, h⟩ := unambiguous_string hs.metadata ht.metadata h
  obtain ⟨hcommit, h⟩ := unambiguous_int64 trivial trivial h
  obtain ⟨hexpireTimestamp, hrest⟩ :=
    unambiguous_int64.optional (fun _ _ => trivial) (fun _ _ => trivial) hexpire h
  exact ⟨by cases s; cases t; congr, hrest⟩

end ConsumerOffsets
