/-
# Values read under the wrong version

The two versions of a group's value differ in one field of each member, and nothing behind the version
tag says which of them was written.  So some bytes are a body of either version
(`GroupMetadata.wrong_version_accepted`), and a value whose tag is changed need not fail.

What can be said is this (`GroupMetadata.decodeMessage_retag`).  A changed tag is noticed unless the
bytes behind it store a group of the other version, too.  In that case the group is decoded, and it is
off by one field from the first member on: header, number of members and the names of the first member
are right, and each timeout of the first member is the number that stands one field further on or
before (`StoredMember.MisreadAs`).  A number that is taken for the size of a subscription has to be
one: if it is negative, or greater than the body, then the changed tag is noticed.
-/
import Mathlib.Control.Monad.Basic
import ConsumerOffsets.Proofs.Message
import ConsumerOffsets.Proofs.Unambiguous

namespace ConsumerOffsets

open Binary

/-! ## 1. Second readings -/

namespace StoredGroup

/-- The bytes of a value with another version in their tag. -/
def retag (stored : StoredGroup) (version : Int16) : List UInt8 :=
  Encoder.int16 version ++ stored.encode.drop 2

theorem retag_eq (stored : StoredGroup) (version : Int16) :
    stored.retag version = Encoder.int16 version ++ stored.encodeBody := by
  rw [retag, encode, List.drop_left' (Encoder.length_int16 stored.version)]

/-- Behind the tag, the bytes begin with the body of a group of this version. -/
structure Rereads (stored : StoredGroup) (version : Int16) (reread : StoredGroup)
    (rest : List UInt8) : Prop where
  fits : reread.Fits
  version : reread.version = version
  body : stored.encodeBody = reread.encodeBody ++ rest

end StoredGroup

namespace GroupMetadata

/-- A value with another tag is decoded exactly to what its body stores in the version of the tag. -/
theorem decodeMessage_retag_eq_ok_iff {stored : StoredGroup} {version : Int16}
    {key : Option (List UInt8)} {group : GroupMetadata} :
    (GroupMetadata.decodeMessage key (some (stored.retag version))).result = .ok group
      ↔ ∃ groupId reread rest, GroupMetadata.decodeKey key = .ok groupId
          ∧ stored.Rereads version reread rest ∧ group = reread.meaning groupId := by
  rw [StoredGroup.retag_eq]
  constructor
  · intro h
    obtain ⟨groupId, reread, rest, hkey, hfits, hvalue, rfl⟩ := exists_stored_of_decodeMessage h
    rw [StoredGroup.encode, List.append_assoc] at hvalue
    obtain ⟨hversion, hbody⟩ := unambiguous_int16 trivial trivial hvalue
    exact ⟨groupId, reread, rest, hkey, ⟨hfits, hversion.symm, hbody⟩, rfl⟩
  · rintro ⟨groupId, reread, rest, hkey, ⟨hfits, rfl, hbody⟩, rfl⟩
    rw [hbody, ← List.append_assoc]
    exact decodeMessage_of_fits hkey hfits rest

end GroupMetadata

/-! ## 2. Off by one field -/

/-- A number where a region is read has to be the size of the region. -/
theorem Binary.Encoder.toInt_eq_of_int32_append_eq {n : Int32} {raw rest rest' : List UInt8}
    (h : raw.length ≤ maxCount) (heq : int32 n ++ rest = region raw ++ rest') :
    n.toInt = raw.length ∧ rest = raw ++ rest' := by
  rw [maxCount] at h
  have hsize : (Int32.ofInt raw.length).toInt = raw.length :=
    Int32.toInt_ofInt_of_le (by omega) (by omega)
  rw [region, ← hsize, ← int32, List.append_assoc] at heq
  obtain ⟨rfl, hrest⟩ := unambiguous_int32 trivial trivial heq
  exact ⟨hsize, hrest⟩

/-- Bytes that begin with a region begin with its size. -/
theorem Binary.Encoder.intOfBytes_take_eq {bytes raw rest rest' : List UInt8}
    (h : raw.length ≤ maxCount) (hbytes : 4 ≤ bytes.length)
    (heq : bytes ++ rest = region raw ++ rest') : intOfBytes (bytes.take 4) = raw.length := by
  have htake := congrArg (List.take 4) heq
  rw [region, List.append_assoc, List.take_append_of_le_length hbytes,
    List.take_left' (length_bytesOfInt 4 raw.length)] at htake
  rw [htake]
  exact intOfBytes_bytesOfInt_natCast (two_mul_lt_of_le_maxCount h)

namespace StoredMember

/-- The number that the other version takes for the size of the subscription.  If the member has a
rebalance timeout, it is the session timeout.  Otherwise it is in the front of the subscription, if
that is long enough to hold it. -/
def sizeMisread (member : StoredMember) : Option Int :=
  match member.rebalanceTimeout with
  | some _ => some member.sessionTimeout.toInt
  | none =>
    if 4 ≤ member.subscription.length then some (intOfBytes (member.subscription.take 4)) else none

/-- How a member appears in the other version: its names are right, and its numbers are taken for the
ones next to them. -/
structure MisreadAs (member reread : StoredMember) : Prop where
  memberId : reread.memberId = member.memberId
  clientId : reread.clientId = member.clientId
  clientHost : reread.clientHost = member.clientHost
  timeouts : match member.rebalanceTimeout with
    | some timeout => reread.rebalanceTimeout = none ∧ reread.sessionTimeout = timeout
    | none => reread.rebalanceTimeout = some member.sessionTimeout
        ∧ reread.sessionTimeout.toInt = member.subscription.length
  size : ∀ size, member.sizeMisread = some size → size = reread.subscription.length

theorem misreadAs {version version' : Int} {member reread : StoredMember} {rest rest' : List UInt8}
    (h : member.Fits version) (h' : reread.Fits version')
    (hother : member.rebalanceTimeout.isSome ≠ reread.rebalanceTimeout.isSome)
    (heq : member.encode ++ rest = reread.encode ++ rest') : member.MisreadAs reread := by
  simp only [encode, List.append_assoc] at heq
  obtain ⟨hmemberId, heq⟩ := unambiguous_string h.memberId h'.memberId heq
  obtain ⟨hclientId, heq⟩ := unambiguous_string h.clientId h'.clientId heq
  obtain ⟨hclientHost, heq⟩ := unambiguous_string h.clientHost h'.clientHost heq
  cases hstored : member.rebalanceTimeout with
  | some timeout =>
    have hnone : reread.rebalanceTimeout = none := by
      rw [hstored] at hother
      exact Option.not_isSome_iff_eq_none.mp fun hsome => hother hsome.symm
    rw [hstored, hnone] at heq
    obtain ⟨htimeout, heq⟩ := unambiguous_int32 trivial trivial heq
    obtain ⟨hsize, -⟩ := Encoder.toInt_eq_of_int32_append_eq h'.subscription heq
    refine ⟨hmemberId.symm, hclientId.symm, hclientHost.symm, ?_, ?_⟩
    · rw [hstored]
      exact ⟨hnone, htimeout.symm⟩
    · intro size hmisread
      rw [sizeMisread, hstored] at hmisread
      cases hmisread
      exact hsize
  | none =>
    obtain ⟨timeout, hsome⟩ : ∃ timeout, reread.rebalanceTimeout = some timeout := by
      rw [hstored] at hother
      exact Option.isSome_iff_exists.mp (Bool.not_eq_false _ ▸ hother.symm)
    rw [hstored, hsome] at heq
    obtain ⟨htimeout, heq⟩ := unambiguous_int32 trivial trivial heq
    obtain ⟨hsession, heq⟩ := Encoder.toInt_eq_of_int32_append_eq h.subscription heq.symm
    rw [← htimeout] at hsome
    refine ⟨hmemberId.symm, hclientId.symm, hclientHost.symm, ?_, ?_⟩
    · rw [hstored]
      exact ⟨hsome, hsession⟩
    · intro size hmisread
      rw [sizeMisread, hstored] at hmisread
      dsimp only at hmisread
      split at hmisread
      · next hlong =>
        cases hmisread
        exact Encoder.intOfBytes_take_eq h'.subscription hlong heq.symm
      · cases hmisread

end StoredMember

namespace StoredGroup

/-- The number that the other version takes for the size of the first member's subscription. -/
def sizeMisread (stored : StoredGroup) : Option Int :=
  stored.members.head?.bind StoredMember.sizeMisread

/-- How a group appears in the other version.  What comes before the members is right, and so is their
number; from the numbers of the first member on, what is read is not what was written. -/
structure MisreadAs (stored reread : StoredGroup) : Prop where
  protocolType : reread.protocolType = stored.protocolType
  generation : reread.generation = stored.generation
  protocol : reread.protocol = stored.protocol
  leader : reread.leader = stored.leader
  count : reread.members.length = stored.members.length
  first : ∃ member others rereadMember rereadOthers, stored.members = member :: others
    ∧ reread.members = rereadMember :: rereadOthers ∧ member.MisreadAs rereadMember

variable {stored reread : StoredGroup} {version : Int16} {rest : List UInt8}

/-- Of two versions that are supported, one has a field for the rebalance timeout. -/
theorem Fits.isSome_rebalanceTimeout_ne (h : stored.Fits) (h' : reread.Fits)
    (hother : reread.version ≠ stored.version) {member member' : StoredMember}
    (hmember : member ∈ stored.members) (hmember' : member' ∈ reread.members) :
    member.rebalanceTimeout.isSome ≠ member'.rebalanceTimeout.isSome := by
  intro heq
  have hone : stored.version.toInt = 1 ↔ reread.version.toInt = 1 := by
    rw [← (h.members member hmember).rebalanceTimeout, heq,
      (h'.members member' hmember').rebalanceTimeout]
  have hversion := h.version
  have hversion' := h'.version
  simp only [GroupMetadata.supportedVersions, List.mem_cons, List.not_mem_nil, or_false]
    at hversion hversion'
  exact hother (Int16.toInt_inj.mp (by omega))

theorem Rereads.misreadAs (hreread : stored.Rereads version reread rest) (h : stored.Fits)
    (hmembers : stored.members ≠ []) (hother : version ≠ stored.version) :
    stored.MisreadAs reread := by
  obtain ⟨hfits, rfl, heq⟩ := hreread
  simp only [encodeBody, encodeHeader, List.append_assoc] at heq
  obtain ⟨hprotocolType, heq⟩ := unambiguous_string h.protocolType hfits.protocolType heq
  obtain ⟨hgeneration, heq⟩ := unambiguous_int32 trivial trivial heq
  obtain ⟨hprotocol, heq⟩ := unambiguous_string h.protocol hfits.protocol heq
  obtain ⟨hleader, heq⟩ := unambiguous_string h.leader hfits.leader heq
  obtain ⟨hcount, heq⟩ := unambiguous_count h.count hfits.count heq
  obtain ⟨member, others, hstored⟩ := List.exists_cons_of_ne_nil hmembers
  obtain ⟨member', others', hreread⟩ : ∃ member' others', reread.members = member' :: others' :=
    List.exists_cons_of_length_pos (by rw [← hcount, hstored]; exact Nat.succ_pos _)
  have hmember : member ∈ stored.members := hstored ▸ List.mem_cons_self
  have hmember' : member' ∈ reread.members := hreread ▸ List.mem_cons_self
  rw [hstored, hreread, List.flatMap_cons, List.flatMap_cons, List.append_assoc] at heq
  have hfirst := StoredMember.misreadAs (h.members member hmember) (hfits.members member' hmember')
    (h.isSome_rebalanceTimeout_ne hfits hother hmember hmember') heq
  exact ⟨hprotocolType.symm, hgeneration.symm, hprotocol.symm, hleader.symm, hcount.symm,
    member, others, member', others', hstored, hreread, hfirst⟩

/-- A size that is misread is the size of something in the body. -/
theorem Rereads.sizeMisread_le (hreread : stored.Rereads version reread rest) (h : stored.Fits)
    (hmembers : stored.members ≠ []) (hother : version ≠ stored.version) {size : Int}
    (hsize : stored.sizeMisread = some size) : 0 ≤ size ∧ size ≤ stored.encodeBody.length := by
  obtain ⟨member, others, member', others', hstored, hmember', hfirst⟩ :=
    (hreread.misreadAs h hmembers hother).first
  rw [sizeMisread, hstored] at hsize
  have hlength := congrArg List.length hreread.body
  simp only [encodeBody, hmember', List.flatMap_cons, StoredMember.encode, List.length_append,
    Encoder.length_region] at hlength ⊢
  have hmisread := hfirst.size size hsize
  omega

end StoredGroup

/-! ## 3. Changed tags -/

namespace GroupMetadata

/-- A value whose tag is changed to another version is rejected, unless its key can be decoded and the
bytes behind the tag begin with a group of that version as well.  If so, it is that group, which is off
by one field.  In particular, the value is rejected if the number that is taken for the size of the
first subscription is negative or greater than the body. -/
theorem decodeMessage_retag {stored : StoredGroup} (h : stored.Fits) (hmembers : stored.members ≠ [])
    {version : Int16} (hother : version ≠ stored.version) (key : Option (List UInt8)) :
    ((∃ e, (GroupMetadata.decodeMessage key (some (stored.retag version))).result = .error e)
      ↔ ¬ ∃ groupId reread rest, GroupMetadata.decodeKey key = .ok groupId
          ∧ stored.Rereads version reread rest)
    ∧ (∀ group,
        (GroupMetadata.decodeMessage key (some (stored.retag version))).result = .ok group →
          ∃ groupId reread rest, GroupMetadata.decodeKey key = .ok groupId
            ∧ stored.Rereads version reread rest ∧ group = reread.meaning groupId
            ∧ stored.MisreadAs reread)
    ∧ (∀ size, stored.sizeMisread = some size → (size < 0 ∨ stored.encodeBody.length < size) →
        ∃ e, (GroupMetadata.decodeMessage key (some (stored.retag version))).result = .error e) := by
  have hrejected : (∃ e,
      (GroupMetadata.decodeMessage key (some (stored.retag version))).result = .error e)
      ↔ ¬ ∃ groupId reread rest, GroupMetadata.decodeKey key = .ok groupId
          ∧ stored.Rereads version reread rest := by
    constructor
    · rintro ⟨e, herror⟩ ⟨groupId, reread, rest, hkey, hreread⟩
      have hok := decodeMessage_retag_eq_ok_iff.mpr ⟨groupId, reread, rest, hkey, hreread, rfl⟩
      rw [herror] at hok
      cases hok
    · intro hnone
      cases hresult : (GroupMetadata.decodeMessage key (some (stored.retag version))).result with
      | error e => exact ⟨e, rfl⟩
      | ok group =>
        obtain ⟨groupId, reread, rest, hkey, hreread, -⟩ :=
          decodeMessage_retag_eq_ok_iff.mp hresult
        exact absurd ⟨groupId, reread, rest, hkey, hreread⟩ hnone
  refine ⟨hrejected, ?_, ?_⟩
  · intro group hok
    obtain ⟨groupId, reread, rest, hkey, hreread, hgroup⟩ :=
      decodeMessage_retag_eq_ok_iff.mp hok
    exact ⟨groupId, reread, rest, hkey, hreread, hgroup, hreread.misreadAs h hmembers hother⟩
  · intro size hsize hbad
    rw [hrejected]
    rintro ⟨groupId, reread, rest, -, hreread⟩
    obtain ⟨hnonneg, hle⟩ := hreread.sizeMisread_le h hmembers hother hsize
    omega

/-- A member of version 1 with a session timeout of ten seconds is no member of version 0. -/
theorem decodeMessage_retag_of_ten_seconds : ∃ stored : StoredGroup, stored.Fits
    ∧ stored.version = 1 ∧ stored.members ≠ []
    ∧ ∃ e, (GroupMetadata.decodeMessage (some [0, 1, 0x67]) (some (stored.retag 0))).result
        = .error e := by
  have hfits : (⟨1, [0x63], 5, [], [0x6d],
      [⟨[0x6d], [0x63], [0x68], some 300000, 10000, [0, 0, 0, 0], .empty⟩]⟩ : StoredGroup).Fits := by
    refine ⟨by decide, by decide, by decide, by decide, by decide, ?_⟩
    intro member hmember
    rw [List.mem_singleton.mp hmember]
    exact ⟨by decide, by decide, by decide, by decide, by decide, trivial⟩
  obtain ⟨-, -, hsize⟩ :=
    decodeMessage_retag hfits (by decide) (by decide : (0 : Int16) ≠ 1) (some [0, 1, 0x67])
  exact ⟨_, hfits, rfl, by decide, hsize 10000 rfl (.inr (by decide))⟩

/-- Two groups with a member each, one of version 0 and one of version 1, whose values differ in the tag
alone: neither tag can be told to be wrong. -/
theorem wrong_version_accepted : ∃ zero one : StoredGroup,
    (zero.Fits ∧ zero.version = 0 ∧ zero.members.length = 1)
    ∧ (one.Fits ∧ one.version = 1 ∧ one.members.length = 1)
    ∧ zero.retag 1 = one.encode ∧ one.retag 0 = zero.encode
    ∧ (GroupMetadata.decodeMessage (some [0, 0]) (some (zero.retag 1))).result
      = .ok ⟨"", 1, ⟨"", 0, "", ""⟩, [⟨"", "", "", 4, some 7, []⟩]⟩
    ∧ (GroupMetadata.decodeMessage (some [0, 0]) (some (one.retag 0))).result
      = .ok ⟨"", 0, ⟨"", 0, "", ""⟩, [⟨"", "", "", 7, none, []⟩]⟩ := by
  refine ⟨⟨0, [], 0, [], [], [⟨[], [], [], none, 7, [0, 0, 0, 0], .empty⟩]⟩,
    ⟨1, [], 0, [], [], [⟨[], [], [], some 7, 4, [], .empty⟩]⟩, ⟨?_, rfl, rfl⟩, ⟨?_, rfl, rfl⟩,
    by decide, by decide, by decide +kernel, by decide +kernel⟩
  · refine ⟨by decide, by decide, by decide, by decide, by decide, ?_⟩
    intro member hmember
    rw [List.mem_singleton.mp hmember]
    exact ⟨by decide, by decide, by decide, by decide, by decide, trivial⟩
  · refine ⟨by decide, by decide, by decide, by decide, by decide, ?_⟩
    intro member hmember
    rw [List.mem_singleton.mp hmember]
    exact ⟨by decide, by decide, by decide, by decide, by decide, trivial⟩

end GroupMetadata

end ConsumerOffsets
