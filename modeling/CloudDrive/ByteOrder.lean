import CloudDrive.TransferHandlers
import Mathlib.Data.List.Induction
import Mathlib.Tactic.NormNum

/-!
# Words on the wire

A word in memory is a row of bytes, and the host's byte order says in which
direction.  `host_to_net_u64` and `net_to_host_u64` convert a 64-bit word by
its two halves: they always swap the halves and leave it to `htonl` and `ntohl`
whether the bytes of a half are swapped.
-/

namespace CloudDrive

inductive ByteOrder where
  | little
  | big
deriving DecidableEq, Repr

/-- The low bytes of a number, the most significant one first. -/
def bigEndian : Nat → Nat → Bytes
  | 0, _ => []
  | width + 1, value => bigEndian width (value / 256) ++ [UInt8.ofNat value]

/-- The number with the given bytes, the most significant one first. -/
def fromBigEndian (bytes : Bytes) : Nat :=
  bytes.foldl (fun value byte => value * 256 + byte.toNat) 0

@[simp]
theorem length_bigEndian (width value : Nat) : (bigEndian width value).length = width := by
  induction width generalizing value with
  | zero => rfl
  | succ width inductionHypothesis => simp [bigEndian, inductionHypothesis]

@[simp]
theorem fromBigEndian_snoc (bytes : Bytes) (byte : UInt8) :
    fromBigEndian (bytes ++ [byte]) = fromBigEndian bytes * 256 + byte.toNat := by
  simp [fromBigEndian]

theorem fromBigEndian_bigEndian {width value : Nat} (fits : value < 256 ^ width) :
    fromBigEndian (bigEndian width value) = value := by
  induction width generalizing value with
  | zero =>
      rw [pow_zero, Nat.lt_one_iff] at fits
      rw [fits]
      rfl
  | succ width inductionHypothesis =>
      rw [pow_succ] at fits
      have quotient : value / 256 < 256 ^ width := by omega
      rw [bigEndian, fromBigEndian_snoc, inductionHypothesis quotient,
        UInt8.toNat_ofNat']
      omega

theorem bigEndian_fromBigEndian (bytes : Bytes) :
    bigEndian bytes.length (fromBigEndian bytes) = bytes := by
  induction bytes using List.reverseRecOn with
  | nil => rfl
  | append_singleton bytes byte inductionHypothesis =>
      have bound := byte.toNat_lt
      have quotient : (fromBigEndian bytes * 256 + byte.toNat) / 256 =
          fromBigEndian bytes := by omega
      rw [List.length_append, List.length_singleton, bigEndian, fromBigEndian_snoc,
        quotient, inductionHypothesis]
      congr 2
      apply UInt8.toNat_inj.mp
      simp

theorem fromBigEndian_lt (bytes : Bytes) :
    fromBigEndian bytes < 256 ^ bytes.length := by
  induction bytes using List.reverseRecOn with
  | nil => simp [fromBigEndian]
  | append_singleton bytes byte inductionHypothesis =>
      have bound := byte.toNat_lt
      rw [fromBigEndian_snoc, List.length_append, List.length_singleton, pow_succ]
      omega

/-- The bytes of a number are those of its upper and of its lower part. -/
theorem bigEndian_join {low : Nat} (width : Nat) {lower : Nat} (high : Nat)
    (fits : low < 256 ^ lower) :
    bigEndian (width + lower) (high * 256 ^ lower + low) =
      bigEndian width high ++ bigEndian lower low := by
  induction lower generalizing low with
  | zero =>
      rw [pow_zero, Nat.lt_one_iff] at fits
      simp [fits, bigEndian]
  | succ lower inductionHypothesis =>
      rw [pow_succ] at fits
      have smaller : low / 256 < 256 ^ lower := by omega
      have quotient : (high * 256 ^ (lower + 1) + low) / 256 =
          high * 256 ^ lower + low / 256 := by
        rw [pow_succ, ← mul_assoc, Nat.add_comm, Nat.add_mul_div_right _ _ (by decide),
          Nat.add_comm]
      have remainder : UInt8.ofNat (high * 256 ^ (lower + 1) + low) =
          UInt8.ofNat low := by
        apply UInt8.toNat_inj.mp
        simp [pow_succ, ← mul_assoc]
      rw [← Nat.add_assoc, bigEndian, quotient, remainder, inductionHypothesis smaller,
        bigEndian, List.append_assoc]

namespace ByteOrder

/-- A row of bytes in the order of the host. -/
def arrange : ByteOrder → Bytes → Bytes
  | little, bytes => bytes.reverse
  | big, bytes => bytes

/-- The bytes in memory of a 64-bit word. -/
def bytesOf (order : ByteOrder) (word : UInt64) : Bytes :=
  order.arrange (bigEndian 8 word.toNat)

/-- The 64-bit word with the given bytes in memory. -/
def wordOf (order : ByteOrder) (bytes : Bytes) : UInt64 :=
  UInt64.ofNat (fromBigEndian (order.arrange bytes))

/-- `htonl`: the word whose bytes in memory are the big-endian ones of a value. -/
def htonl (order : ByteOrder) (value : UInt32) : UInt32 :=
  UInt32.ofNat (fromBigEndian (order.arrange (bigEndian 4 value.toNat)))

/-- `ntohl`: the value whose big-endian bytes a word has in memory. -/
def ntohl (order : ByteOrder) (word : UInt32) : UInt32 :=
  UInt32.ofNat (fromBigEndian (order.arrange (bigEndian 4 word.toNat)))

/-- `host_to_net_u64`. -/
def hostToNetU64 (order : ByteOrder) (value : UInt64) : UInt64 :=
  let high := order.htonl (value >>> 32).toUInt32
  let low := order.htonl (value &&& 0xffffffff).toUInt32
  (low.toUInt64 <<< 32) ||| high.toUInt64

/-- `net_to_host_u64`. -/
def netToHostU64 (order : ByteOrder) (value : UInt64) : UInt64 :=
  let high := order.ntohl (value >>> 32).toUInt32
  let low := order.ntohl (value &&& 0xffffffff).toUInt32
  (low.toUInt64 <<< 32) ||| high.toUInt64

/-- The upper 32 bits of a word. -/
def highHalf (word : UInt64) : UInt32 := (word >>> 32).toUInt32

/-- The lower 32 bits of a word. -/
def lowHalf (word : UInt64) : UInt32 := (word &&& 0xffffffff).toUInt32

theorem pow_four_eq : 256 ^ 4 = 2 ^ 32 := by norm_num

theorem toNat_highHalf (word : UInt64) : (highHalf word).toNat = word.toNat / 256 ^ 4 := by
  have bound := word.toNat_lt
  simp [highHalf, Nat.shiftRight_eq_div_pow]
  omega

theorem toNat_lowHalf (word : UInt64) : (lowHalf word).toNat = word.toNat % 256 ^ 4 := by
  have masked : (word &&& 0xffffffff).toNat = word.toNat % 2 ^ 32 := by
    rw [UInt64.toNat_and]
    exact Nat.and_two_pow_sub_one_eq_mod word.toNat 32
  rw [lowHalf, UInt64.toNat_toUInt32, masked, Nat.mod_mod]
  rfl

/-- The two halves of a word are put together. -/
theorem toNat_join (high low : UInt32) :
    ((high.toUInt64 <<< 32) ||| low.toUInt64).toNat =
      high.toNat * 256 ^ 4 + low.toNat := by
  have highBound := high.toNat_lt
  have lowBound := low.toNat_lt
  have shifted : (high.toUInt64 <<< 32).toNat = high.toNat <<< 32 := by
    have reduced : high.toNat <<< 32 % 18446744073709551616 = high.toNat <<< 32 := by
      apply Nat.mod_eq_of_lt
      rw [Nat.shiftLeft_eq]
      omega
    simp [reduced]
  rw [UInt64.toNat_or, shifted, UInt32.toNat_toUInt64,
    ← Nat.shiftLeft_add_eq_or_of_lt lowBound, Nat.shiftLeft_eq, ← pow_four_eq]

theorem length_arrange (order : ByteOrder) (bytes : Bytes) :
    (order.arrange bytes).length = bytes.length := by
  cases order
  · exact List.length_reverse
  · rfl

theorem arrange_arrange (order : ByteOrder) (bytes : Bytes) :
    order.arrange (order.arrange bytes) = bytes := by
  cases order
  · exact List.reverse_reverse bytes
  · rfl

/-- Both directions are one conversion of the bytes. -/
theorem netToHostU64_eq_hostToNetU64 (order : ByteOrder) :
    order.netToHostU64 = order.hostToNetU64 := rfl

/-- A converted half has the bytes of the half, arranged as the host does. -/
theorem bigEndian_htonl (order : ByteOrder) (value : UInt32) :
    bigEndian 4 (order.htonl value).toNat =
      order.arrange (bigEndian 4 value.toNat) := by
  have length : (order.arrange (bigEndian 4 value.toNat)).length = 4 := by
    rw [length_arrange, length_bigEndian]
  have bound := fromBigEndian_lt (order.arrange (bigEndian 4 value.toNat))
  have bytes := bigEndian_fromBigEndian (order.arrange (bigEndian 4 value.toNat))
  rw [length] at bound bytes
  rw [htonl, UInt32.toNat_ofNat_of_lt' bound, bytes]

theorem bigEndian_join_halves (high low : UInt32) :
    bigEndian 8 (high.toNat * 256 ^ 4 + low.toNat) =
      bigEndian 4 high.toNat ++ bigEndian 4 low.toNat := by
  have fits : low.toNat < 256 ^ 4 := by
    rw [pow_four_eq]
    exact low.toNat_lt
  exact bigEndian_join 4 high.toNat fits

/-- A word has the bytes of its halves. -/
theorem bigEndian_halves (word : UInt64) :
    bigEndian 8 word.toNat =
      bigEndian 4 (highHalf word).toNat ++ bigEndian 4 (lowHalf word).toNat := by
  have split : word.toNat =
      (highHalf word).toNat * 256 ^ 4 + (lowHalf word).toNat := by
    rw [toNat_highHalf, toNat_lowHalf]
    omega
  rw [split, bigEndian_join_halves]

/-- The converted word: its halves are swapped, and the bytes of each are arranged as
the host does. -/
theorem bigEndian_hostToNetU64 (order : ByteOrder) (word : UInt64) :
    bigEndian 8 (order.hostToNetU64 word).toNat =
      order.arrange (bigEndian 4 (lowHalf word).toNat) ++
        order.arrange (bigEndian 4 (highHalf word).toNat) := by
  have joined : (order.hostToNetU64 word).toNat =
      (order.htonl (lowHalf word)).toNat * 256 ^ 4 +
        (order.htonl (highHalf word)).toNat := toNat_join _ _
  rw [joined, bigEndian_join_halves, bigEndian_htonl, bigEndian_htonl]

theorem eq_of_bigEndian {first second : UInt64}
    (same : bigEndian 8 first.toNat = bigEndian 8 second.toNat) : first = second := by
  have value := congrArg fromBigEndian same
  rw [fromBigEndian_bigEndian first.toNat_lt, fromBigEndian_bigEndian second.toNat_lt]
    at value
  exact UInt64.toNat_inj.mp value

theorem eq_of_bigEndian_half {first second : UInt32}
    (same : bigEndian 4 first.toNat = bigEndian 4 second.toNat) : first = second := by
  have value := congrArg fromBigEndian same
  have fits : ∀ half : UInt32, half.toNat < 256 ^ 4 := by
    intro half
    rw [pow_four_eq]
    exact half.toNat_lt
  rw [fromBigEndian_bigEndian (fits first), fromBigEndian_bigEndian (fits second)] at value
  exact UInt32.toNat_inj.mp value

/-- On one host the conversions undo each other. -/
theorem netToHostU64_hostToNetU64 (order : ByteOrder) (value : UInt64) :
    order.netToHostU64 (order.hostToNetU64 value) = value := by
  have halves := (bigEndian_halves (order.hostToNetU64 value)).symm.trans
    (bigEndian_hostToNetU64 order value)
  have lengths : (bigEndian 4 (highHalf (order.hostToNetU64 value)).toNat).length =
      (order.arrange (bigEndian 4 (lowHalf value).toNat)).length := by
    rw [length_arrange, length_bigEndian, length_bigEndian]
  obtain ⟨high, low⟩ := List.append_inj halves lengths
  apply eq_of_bigEndian
  rw [netToHostU64_eq_hostToNetU64, bigEndian_hostToNetU64, high, low, arrange_arrange,
    arrange_arrange, ← bigEndian_halves]

/-- A little-endian host puts the big-endian bytes of the value on the wire. -/
theorem bytesOf_little (value : UInt64) :
    little.bytesOf (little.hostToNetU64 value) = bigEndian 8 value.toNat := by
  rw [bytesOf, bigEndian_hostToNetU64, bigEndian_halves]
  simp [arrange]

/-- A big-endian host puts the lower half of the value first. -/
theorem bytesOf_big (value : UInt64) :
    big.bytesOf (big.hostToNetU64 value) =
      bigEndian 4 (lowHalf value).toNat ++ bigEndian 4 (highHalf value).toNat :=
  bigEndian_hostToNetU64 big value

theorem bytesOf_big_iff (value : UInt64) :
    big.bytesOf (big.hostToNetU64 value) = bigEndian 8 value.toNat ↔
      highHalf value = lowHalf value := by
  rw [bytesOf_big, bigEndian_halves]
  constructor
  · intro same
    have lengths : (bigEndian 4 (lowHalf value).toNat).length =
        (bigEndian 4 (highHalf value).toNat).length := by
      rw [length_bigEndian, length_bigEndian]
    exact (eq_of_bigEndian_half (List.append_inj same lengths).1).symm
  · intro same
    rw [same]

theorem wordOf_bytesOf (order : ByteOrder) (word : UInt64) :
    order.wordOf (order.bytesOf word) = word := by
  have fits : word.toNat < 256 ^ 8 := word.toNat_lt
  rw [wordOf, bytesOf, arrange_arrange, fromBigEndian_bigEndian fits]
  exact UInt64.ofNat_toNat

/-- What a receiver makes of the big-endian bytes of a value. -/
theorem netToHostU64_wordOf_iff (receiver : ByteOrder) (value : UInt64) :
    receiver.netToHostU64 (receiver.wordOf (bigEndian 8 value.toNat)) = value ↔
      receiver = little ∨ highHalf value = lowHalf value := by
  cases receiver with
  | little =>
      have returned : little.netToHostU64 (little.wordOf (bigEndian 8 value.toNat)) =
          value := by
        rw [← bytesOf_little, wordOf_bytesOf, netToHostU64_hostToNetU64]
      exact iff_of_true returned (Or.inl rfl)
  | big =>
      have isValue : big.wordOf (bigEndian 8 value.toNat) = value := wordOf_bytesOf big value
      rw [isValue, netToHostU64_eq_hostToNetU64, ← bytesOf_big_iff]
      constructor
      · intro same
        right
        rw [same]
        rfl
      · rintro (impossible | same)
        · cases impossible
        · exact eq_of_bigEndian same

/-- The bytes on the wire are the big-endian ones and give the value back exactly when
both hosts are little-endian or the swapped halves are equal. -/
theorem wire_word_iff (sender receiver : ByteOrder) (value : UInt64) :
    (sender.bytesOf (sender.hostToNetU64 value) = bigEndian 8 value.toNat ∧
      receiver.netToHostU64 (receiver.wordOf
        (sender.bytesOf (sender.hostToNetU64 value))) = value) ↔
      (sender = little ∧ receiver = little) ∨ highHalf value = lowHalf value := by
  have sent : sender.bytesOf (sender.hostToNetU64 value) = bigEndian 8 value.toNat ↔
      sender = little ∨ highHalf value = lowHalf value := by
    cases sender with
    | little => exact iff_of_true (bytesOf_little value) (Or.inl rfl)
    | big => simp [bytesOf_big_iff]
  constructor
  · rintro ⟨bytes, returned⟩
    rw [bytes, netToHostU64_wordOf_iff] at returned
    rcases sent.mp bytes with isLittle | same
    · exact returned.imp_left fun alsoLittle => ⟨isLittle, alsoLittle⟩
    · exact Or.inr same
  · intro condition
    have bytes := sent.mpr (condition.imp_left And.left)
    refine ⟨bytes, ?_⟩
    rw [bytes, netToHostU64_wordOf_iff]
    exact condition.imp_left And.right

theorem resume_offset_between_little_hosts :
    little.bytesOf (little.hostToNetU64 5000000000) = bigEndian 8 5000000000 ∧
      little.netToHostU64 (little.wordOf
        (little.bytesOf (little.hostToNetU64 5000000000))) = 5000000000 :=
  (wire_word_iff little little 5000000000).mpr (Or.inl ⟨rfl, rfl⟩)

/-- A big-endian host sends 1 as 2 to the 32nd. -/
theorem big_host_sends_halves_swapped :
    big.bytesOf (big.hostToNetU64 1) = [0, 0, 0, 1, 0, 0, 0, 0] ∧
      bigEndian 8 1 = [0, 0, 0, 0, 0, 0, 0, 1] ∧
      little.netToHostU64 (little.wordOf (big.bytesOf (big.hostToNetU64 1))) =
        4294967296 := by
  decide +kernel

/-- The word that the transfer messages are read as. -/
theorem netToHost_eq (bytes : Bytes) :
    netToHost bytes = UInt64.ofNat (fromBigEndian bytes) := by
  induction bytes using List.reverseRecOn with
  | nil => rfl
  | append_singleton bytes byte inductionHypothesis =>
      have word : netToHost (bytes ++ [byte]) = netToHost bytes * 256 + byte.toUInt64 := by
        simp [netToHost]
      rw [word, fromBigEndian_snoc, inductionHypothesis]
      apply UInt64.toNat_inj.mp
      simp

/-- Between little-endian hosts the bytes are those of the transfer messages. -/
theorem bytesOf_eq_hostToNet (value : UInt64) :
    little.bytesOf (little.hostToNetU64 value) = hostToNet value := by
  have bound := fromBigEndian_lt (hostToNet value)
  have same := bigEndian_fromBigEndian (hostToNet value)
  have read := congrArg UInt64.toNat (netToHost_hostToNet value)
  rw [length_hostToNet] at bound same
  rw [netToHost_eq, UInt64.toNat_ofNat_of_lt' bound] at read
  rw [bytesOf_little, ← read, same]

theorem netToHostU64_eq_netToHost {bytes : Bytes} (length : bytes.length = 8) :
    little.netToHostU64 (little.wordOf bytes) = netToHost bytes := by
  have bound := fromBigEndian_lt bytes
  have same := bigEndian_fromBigEndian bytes
  rw [length] at bound same
  have isBytes : bytes = bigEndian 8 (netToHost bytes).toNat := by
    rw [netToHost_eq, UInt64.toNat_ofNat_of_lt' bound, same]
  have returned := (netToHostU64_wordOf_iff little (netToHost bytes)).mpr (Or.inl rfl)
  rwa [← isBytes] at returned

end ByteOrder

end CloudDrive
