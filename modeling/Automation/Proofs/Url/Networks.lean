import Automation.Url.Guard
import Mathlib.Data.Nat.Bitwise

/-!
Networks: the addresses that begin with the same bits. What may not be called is a list of networks in either
family, and an address of four bytes inside one of eight words is judged as it is on its own.
-/
namespace Automation.Url

section Digits

variable {width low k m n x y : Nat}

/-- A mask for the upper bits of a word takes the lower ones away. -/
theorem land_mask (bound : n < 2 ^ width) (le : low ≤ width) :
    n &&& (2 ^ width - 2 ^ low) = n / 2 ^ low * 2 ^ low := by
  have mask : 2 ^ width - 2 ^ low = (2 ^ (width - low) - 1) <<< low := by
    rw [Nat.shiftLeft_eq, Nat.sub_mul, ← pow_add, Nat.sub_add_cancel le, Nat.one_mul]
  rw [mask, ← Nat.shiftRight_eq_div_pow, ← Nat.shiftLeft_eq]
  refine Nat.eq_of_testBit_eq fun i => ?_
  rw [Nat.testBit_and, Nat.testBit_shiftLeft, Nat.testBit_shiftLeft, Nat.testBit_two_pow_sub_one,
    Nat.testBit_shiftRight]
  by_cases upper : low ≤ i
  · by_cases inside : i < width
    · simp [upper, show i - low < width - low by omega]
    · have beyond : n.testBit i = false :=
        Nat.testBit_lt_two_pow (bound.trans_le (Nat.pow_le_pow_right (by decide) (by omega)))
      simp [upper, beyond]
  · simp [upper]

/-- What a mask for the upper bits leaves is a number without lower bits just if both have the same upper bits. -/
theorem land_mask_eq_iff (bound : n < 2 ^ width) (le : low ≤ width) (even : 2 ^ low ∣ m) :
    n &&& (2 ^ width - 2 ^ low) = m ↔ n / 2 ^ low = m / 2 ^ low := by
  rw [land_mask bound le]
  constructor
  · intro same
    rw [← same, Nat.mul_div_cancel _ (Nat.two_pow_pos low)]
  · intro same
    rw [same, Nat.div_mul_cancel even]

/-- Two numbers agree but for their last `k` bits just if what stands in front of the last digit does, and
the last digit does. -/
theorem div_eq_div_iff_digits (hx : x < 2 ^ low) (hy : y < 2 ^ low) :
    (m * 2 ^ low + x) / 2 ^ k = (n * 2 ^ low + y) / 2 ^ k ↔
      m / 2 ^ (k - low) = n / 2 ^ (k - low) ∧ x / 2 ^ k = y / 2 ^ k := by
  -- either a part of the last digit is cut off, or all of it and perhaps a part of what stands in front
  obtain within | beyond := Nat.le_total k low
  · have cut (m x : Nat) : (m * 2 ^ low + x) / 2 ^ k = m * 2 ^ (low - k) + x / 2 ^ k := by
      rw [← pow_sub_mul_pow 2 within, ← Nat.mul_assoc, Nat.add_comm,
        Nat.add_mul_div_right _ _ (Nat.two_pow_pos k), Nat.add_comm]
    have small {x : Nat} (h : x < 2 ^ low) : x / 2 ^ k < 2 ^ (low - k) := by
      rwa [Nat.div_lt_iff_lt_mul (Nat.two_pow_pos k), pow_sub_mul_pow 2 within]
    rw [cut, cut, Nat.sub_eq_zero_of_le within, Nat.pow_zero, Nat.div_one, Nat.div_one]
    constructor
    · intro same
      have lower := congrArg (· % 2 ^ (low - k)) same
      simp only [Nat.mul_add_mod', Nat.mod_eq_of_lt (small hx), Nat.mod_eq_of_lt (small hy)] at lower
      rw [lower, Nat.add_right_cancel_iff] at same
      exact ⟨Nat.eq_of_mul_eq_mul_right (Nat.two_pow_pos _) same, lower⟩
    · rintro ⟨rfl, same⟩
      rw [same]
  · have cut {m x : Nat} (h : x < 2 ^ low) : (m * 2 ^ low + x) / 2 ^ k = m / 2 ^ (k - low) := by
      rw [← Nat.sub_add_cancel beyond, Nat.add_comm (k - low), pow_add, ← Nat.div_div_eq_div_mul,
        Nat.add_sub_cancel_left, Nat.mul_comm, Nat.mul_add_div (Nat.two_pow_pos low), Nat.div_eq_of_lt h,
        Nat.add_zero]
    have gone {x : Nat} (h : x < 2 ^ low) : x / 2 ^ k = 0 :=
      Nat.div_eq_of_lt (h.trans_le (Nat.pow_le_pow_right (by decide) beyond))
    rw [cut hx, cut hy, gone hx, gone hy]
    simp

/-- Numbers that agree but for some bits agree but for more. -/
theorem div_eq_div_of_le (le : low ≤ k) (same : m / 2 ^ low = n / 2 ^ low) : m / 2 ^ k = n / 2 ^ k := by
  rw [← Nat.add_sub_of_le le, pow_add, ← Nat.div_div_eq_div_mul, ← Nat.div_div_eq_div_mul, same]

end Digits

/-- Addresses as numbers of so many bits. -/
class Address (α : Type) where
  width : Nat
  toNat : α → Nat

/-- The addresses that begin with the first `length` bits of `base`. -/
structure Network (α : Type) where
  base : α
  length : Nat
  deriving DecidableEq

namespace Network

open Address (width toNat)

variable {α : Type} [Address α] {ip : α} {inner outer : Network α}

instance : Membership α (Network α) where
  mem network ip :=
    toNat ip / 2 ^ (width α - network.length) = toNat network.base / 2 ^ (width α - network.length)

instance (ip : α) (network : Network α) : Decidable (ip ∈ network) :=
  inferInstanceAs (Decidable (_ = _))

/-- A network whose base is in one that is no longer lies in it. -/
theorem mem_of_mem (short : outer.length ≤ inner.length) (base : inner.base ∈ outer) (h : ip ∈ inner) :
    ip ∈ outer :=
  (div_eq_div_of_le (Nat.sub_le_sub_left short _) h).trans base

/-- Of two networks with an address in common the shorter one has the base of the other. -/
theorem base_mem (short : outer.length ≤ inner.length) (h : ip ∈ inner) (h' : ip ∈ outer) : inner.base ∈ outer :=
  (div_eq_div_of_le (Nat.sub_le_sub_left short _) h).symm.trans h'

/-- Neither network has the base of the other. -/
def Apart (inner outer : Network α) : Prop := inner.base ∉ outer ∧ outer.base ∉ inner

instance : Decidable (Apart inner outer) := inferInstanceAs (Decidable (_ ∧ _))

theorem Apart.not_mem (apart : Apart inner outer) (h : ip ∈ inner) : ip ∉ outer := by
  intro h'
  rcases Nat.le_total outer.length inner.length with short | short
  · exact apart.1 (base_mem short h h')
  · exact apart.2 (base_mem short h' h)

end Network

namespace Ipv4

/-- The bytes as the digits of a number. -/
def toNat (ip : Ipv4) : Nat :=
  ((ip.a.toNat * 2 ^ 8 + ip.b.toNat) * 2 ^ 8 + ip.c.toNat) * 2 ^ 8 + ip.d.toNat

instance : Address Ipv4 := ⟨32, toNat⟩

/-- Each byte agrees with that of the base in the bits that the length leaves for it. -/
theorem mem_iff {ip base : Ipv4} {length : Nat} : ip ∈ (⟨base, length⟩ : Network Ipv4) ↔
    ip.a.toNat / 2 ^ (32 - length - 24) = base.a.toNat / 2 ^ (32 - length - 24) ∧
    ip.b.toNat / 2 ^ (32 - length - 16) = base.b.toNat / 2 ^ (32 - length - 16) ∧
    ip.c.toNat / 2 ^ (32 - length - 8) = base.c.toNat / 2 ^ (32 - length - 8) ∧
    ip.d.toNat / 2 ^ (32 - length) = base.d.toNat / 2 ^ (32 - length) := by
  change ip.toNat / 2 ^ (32 - length) = base.toNat / 2 ^ (32 - length) ↔ _
  rw [toNat, toNat, div_eq_div_iff_digits ip.d.toNat_lt base.d.toNat_lt,
    div_eq_div_iff_digits ip.c.toNat_lt base.c.toNat_lt, div_eq_div_iff_digits ip.b.toNat_lt base.b.toNat_lt]
  simp only [Nat.sub_sub, and_assoc]

/-- The networks of addresses that may not be called. -/
def refused : List (Network Ipv4) :=
  [⟨⟨0, 0, 0, 0⟩, 8⟩, ⟨⟨10, 0, 0, 0⟩, 8⟩, ⟨⟨100, 64, 0, 0⟩, 10⟩, ⟨⟨127, 0, 0, 0⟩, 8⟩, ⟨⟨169, 254, 0, 0⟩, 16⟩,
    ⟨⟨172, 16, 0, 0⟩, 12⟩, ⟨⟨192, 0, 0, 0⟩, 24⟩, ⟨⟨192, 0, 2, 0⟩, 24⟩, ⟨⟨192, 168, 0, 0⟩, 16⟩,
    ⟨⟨198, 18, 0, 0⟩, 15⟩, ⟨⟨198, 51, 100, 0⟩, 24⟩, ⟨⟨203, 0, 113, 0⟩, 24⟩, ⟨⟨240, 0, 0, 0⟩, 4⟩]

section Classes

variable {ip : Ipv4} {a b c : UInt8}

private theorem bytes_lt (ip : Ipv4) : ip.a.toNat < 256 ∧ ip.b.toNat < 256 ∧ ip.c.toNat < 256 ∧ ip.d.toNat < 256 :=
  ⟨ip.a.toNat_lt, ip.b.toNat_lt, ip.c.toNat_lt, ip.d.toNat_lt⟩

theorem mem_byte : ip ∈ (⟨⟨a, 0, 0, 0⟩, 8⟩ : Network Ipv4) ↔ ip.a = a := by
  have bounds := ip.bytes_lt
  simp [mem_iff, ← UInt8.toNat_inj]
  omega

theorem mem_twoBytes : ip ∈ (⟨⟨a, b, 0, 0⟩, 16⟩ : Network Ipv4) ↔ ip.a = a ∧ ip.b = b := by
  have bounds := ip.bytes_lt
  simp [mem_iff, ← UInt8.toNat_inj]
  omega

theorem mem_threeBytes : ip ∈ (⟨⟨a, b, c, 0⟩, 24⟩ : Network Ipv4) ↔ ip.a = a ∧ ip.b = b ∧ ip.c = c := by
  have bounds := ip.bytes_lt
  simp [mem_iff, ← UInt8.toNat_inj]
  omega

theorem mem_upper : ip ∈ (⟨⟨240, 0, 0, 0⟩, 4⟩ : Network Ipv4) ↔ 240 ≤ ip.a := by
  have bounds := ip.bytes_lt
  simp [mem_iff, UInt8.le_iff_toNat_le]
  omega

theorem mem_private : ip ∈ (⟨⟨172, 16, 0, 0⟩, 12⟩ : Network Ipv4) ↔ ip.a = 172 ∧ 16 ≤ ip.b ∧ ip.b ≤ 31 := by
  have bounds := ip.bytes_lt
  simp [mem_iff, ← UInt8.toNat_inj, UInt8.le_iff_toNat_le]
  omega

private theorem land_eq_iff (low : Nat) {mask value : UInt8} (upper : mask.toNat = 2 ^ 8 - 2 ^ low)
    (le : low ≤ 8) (even : 2 ^ low ∣ value.toNat) :
    b &&& mask = value ↔ b.toNat / 2 ^ low = value.toNat / 2 ^ low := by
  rw [← UInt8.toNat_inj, UInt8.toNat_and, upper, land_mask_eq_iff b.toNat_lt le even]

theorem mem_shared : ip ∈ (⟨⟨100, 64, 0, 0⟩, 10⟩ : Network Ipv4) ↔ ip.a = 100 ∧ ip.b &&& 0xC0 = 64 := by
  have bounds := ip.bytes_lt
  rw [land_eq_iff 6 rfl (by decide) (by decide)]
  simp [mem_iff, ← UInt8.toNat_inj]
  omega

theorem mem_benchmark : ip ∈ (⟨⟨198, 18, 0, 0⟩, 15⟩ : Network Ipv4) ↔ ip.a = 198 ∧ ip.b &&& 0xFE = 18 := by
  have bounds := ip.bytes_lt
  rw [land_eq_iff 1 rfl (by decide) (by decide)]
  simp [mem_iff, ← UInt8.toNat_inj]
  omega

theorem isBlocked_iff : ip.isBlocked = true ↔ ∃ network ∈ refused, ip ∈ network := by
  by_cases special : ip = unspecified ∨ ip = broadcast
  · rcases special with rfl | rfl <;> decide
  · rw [not_or] at special
    simp only [refused, List.mem_cons, List.not_mem_nil, or_false, exists_eq_or_imp, exists_eq_left, mem_byte,
      mem_twoBytes, mem_threeBytes, mem_upper, mem_private, mem_shared, mem_benchmark]
    simp only [isBlocked, isLoopback, isPrivate, isLinkLocal, isDocumentation, isShared, isProtocolAssignment,
      isBenchmark, special, Bool.or_eq_true, Bool.and_eq_true, beq_iff_eq, decide_eq_true_eq, false_or, or_assoc,
      and_assoc]
    constructor
    · rintro (h | h | h | h | h | h | h | h | h | h | h | h | h) <;> simp [h]
    · rintro (h | h | h | h | h | h | h | h | h | h | h | h | h) <;> simp [h]

end Classes

/-- Two bytes as one word. -/
def word (upper lower : UInt8) : UInt16 := UInt16.ofNat (upper.toNat * 2 ^ 8 + lower.toNat)

/-- The address in the form `::ffff:a.b.c.d`. -/
def mapped (ip : Ipv4) : Ipv6 := ⟨0, 0, 0, 0, 0, 0xFFFF, word ip.a ip.b, word ip.c ip.d⟩

/-- The address in the form `::a.b.c.d`. -/
def compatible (ip : Ipv4) : Ipv6 := ⟨0, 0, 0, 0, 0, 0, word ip.a ip.b, word ip.c ip.d⟩

end Ipv4

namespace Ipv6

def toNat (ip : Ipv6) : Nat :=
  ((((((ip.w0.toNat * 2 ^ 16 + ip.w1.toNat) * 2 ^ 16 + ip.w2.toNat) * 2 ^ 16 + ip.w3.toNat) * 2 ^ 16 +
    ip.w4.toNat) * 2 ^ 16 + ip.w5.toNat) * 2 ^ 16 + ip.w6.toNat) * 2 ^ 16 + ip.w7.toNat

instance : Address Ipv6 := ⟨128, toNat⟩

/-- Each word agrees with that of the base in the bits that the length leaves for it. -/
theorem mem_iff {ip base : Ipv6} {length : Nat} : ip ∈ (⟨base, length⟩ : Network Ipv6) ↔
    ip.w0.toNat / 2 ^ (128 - length - 112) = base.w0.toNat / 2 ^ (128 - length - 112) ∧
    ip.w1.toNat / 2 ^ (128 - length - 96) = base.w1.toNat / 2 ^ (128 - length - 96) ∧
    ip.w2.toNat / 2 ^ (128 - length - 80) = base.w2.toNat / 2 ^ (128 - length - 80) ∧
    ip.w3.toNat / 2 ^ (128 - length - 64) = base.w3.toNat / 2 ^ (128 - length - 64) ∧
    ip.w4.toNat / 2 ^ (128 - length - 48) = base.w4.toNat / 2 ^ (128 - length - 48) ∧
    ip.w5.toNat / 2 ^ (128 - length - 32) = base.w5.toNat / 2 ^ (128 - length - 32) ∧
    ip.w6.toNat / 2 ^ (128 - length - 16) = base.w6.toNat / 2 ^ (128 - length - 16) ∧
    ip.w7.toNat / 2 ^ (128 - length) = base.w7.toNat / 2 ^ (128 - length) := by
  change ip.toNat / 2 ^ (128 - length) = base.toNat / 2 ^ (128 - length) ↔ _
  simp only [toNat, div_eq_div_iff_digits (UInt16.toNat_lt _) (UInt16.toNat_lt _), Nat.sub_sub, and_assoc]

/-- The networks of addresses that may not be called, if no address of four bytes is inside. -/
def refused : List (Network Ipv6) :=
  [⟨⟨0xFC00, 0, 0, 0, 0, 0, 0, 0⟩, 7⟩, ⟨⟨0xFE80, 0, 0, 0, 0, 0, 0, 0⟩, 10⟩, ⟨⟨0xFF00, 0, 0, 0, 0, 0, 0, 0⟩, 8⟩]

variable {ip : Ipv6} {w : UInt16} {length : Nat}

/-- For short networks the first word is enough. -/
theorem mem_iff_first (short : length ≤ 16) : ip ∈ (⟨⟨w, 0, 0, 0, 0, 0, 0, 0⟩, length⟩ : Network Ipv6) ↔
    ip.w0.toNat / 2 ^ (16 - length) = w.toNat / 2 ^ (16 - length) := by
  have gone (v : UInt16) {k : Nat} (ge : 16 ≤ k) : v.toNat / 2 ^ k = 0 / 2 ^ k := by
    rw [Nat.zero_div]
    exact Nat.div_eq_of_lt (v.toNat_lt.trans_le (Nat.pow_le_pow_right (by decide) ge))
  have first : 128 - length - 112 = 16 - length := by omega
  rw [mem_iff, first, and_iff_left]
  exact ⟨gone _ (by omega), gone _ (by omega), gone _ (by omega), gone _ (by omega), gone _ (by omega),
    gone _ (by omega), gone _ (by omega)⟩

private theorem land_eq_iff_mem {mask : UInt16} (short : length ≤ 16)
    (upper : mask.toNat = 2 ^ 16 - 2 ^ (16 - length)) (even : 2 ^ (16 - length) ∣ w.toNat) :
    ip.w0 &&& mask = w ↔ ip ∈ (⟨⟨w, 0, 0, 0, 0, 0, 0, 0⟩, length⟩ : Network Ipv6) := by
  rw [← UInt16.toNat_inj, UInt16.toNat_and, upper, mem_iff_first short]
  exact land_mask_eq_iff ip.w0.toNat_lt (Nat.sub_le 16 length) even

theorem isMulticast_iff : ip.isMulticast = true ↔ ip ∈ (⟨⟨0xFF00, 0, 0, 0, 0, 0, 0, 0⟩, 8⟩ : Network Ipv6) := by
  rw [isMulticast, beq_iff_eq]
  exact land_eq_iff_mem (by decide) rfl (by decide)

theorem isUniqueLocal_iff : ip.isUniqueLocal = true ↔ ip ∈ (⟨⟨0xFC00, 0, 0, 0, 0, 0, 0, 0⟩, 7⟩ : Network Ipv6) := by
  rw [isUniqueLocal, beq_iff_eq]
  exact land_eq_iff_mem (by decide) rfl (by decide)

theorem isLinkLocal_iff : ip.isLinkLocal = true ↔ ip ∈ (⟨⟨0xFE80, 0, 0, 0, 0, 0, 0, 0⟩, 10⟩ : Network Ipv6) := by
  rw [isLinkLocal, beq_iff_eq]
  exact land_eq_iff_mem (by decide) rfl (by decide)

end Ipv6

section Embedding

variable {upper lower : UInt8} {w : UInt16} {a : Ipv4} {ip : Ipv6}

theorem Ipv4.upper_word : (word upper lower >>> 8).toUInt8 = upper := by
  have high := upper.toNat_lt
  have low := lower.toNat_lt
  rw [← UInt8.toNat_inj]
  simp [word, Nat.shiftRight_eq_div_pow]
  omega

theorem Ipv4.lower_word : (word upper lower).toUInt8 = lower := by
  rw [← UInt8.toNat_inj]
  simp [word]

theorem Ipv4.word_bytes : word (w >>> 8).toUInt8 w.toUInt8 = w := by
  have bound := w.toNat_lt
  rw [← UInt16.toNat_inj]
  simp [word, Nat.shiftRight_eq_div_pow]
  omega

theorem Ipv6.embedded_mapped : a.mapped.embedded = a := by
  simp [embedded, Ipv4.mapped, Ipv4.upper_word, Ipv4.lower_word]

theorem Ipv6.embedded_compatible : a.compatible.embedded = a := by
  simp [embedded, Ipv4.compatible, Ipv4.upper_word, Ipv4.lower_word]

/-- An address in the mapped form is that of the address inside, and no other address is. -/
theorem Ipv6.mapped?_eq_some_iff : ip.mapped? = some a ↔ ip = a.mapped := by
  constructor
  · intro found
    unfold mapped? at found
    split at found
    · next front =>
      obtain ⟨w0, w1, w2, w3, w4, w5, w6, w7⟩ := ip
      obtain ⟨rfl, rfl, rfl, rfl, rfl, rfl⟩ := front
      cases found
      simp [embedded, Ipv4.mapped, Ipv4.word_bytes]
    · cases found
  · rintro rfl
    exact congrArg some embedded_mapped

theorem Ipv6.isCompatible_iff : ip.isCompatible = true ↔ ∃ a, ip = Ipv4.compatible a := by
  constructor
  · intro front
    refine ⟨ip.embedded, ?_⟩
    obtain ⟨w0, w1, w2, w3, w4, w5, w6, w7⟩ := ip
    simp only [isCompatible, Bool.and_eq_true, beq_iff_eq] at front
    obtain ⟨⟨⟨⟨⟨rfl, rfl⟩, rfl⟩, rfl⟩, rfl⟩, rfl⟩ := front
    simp [embedded, Ipv4.compatible, Ipv4.word_bytes]
  · rintro ⟨a, rfl⟩
    rfl

/-- An address in the mapped form is judged as the one inside. -/
theorem Ipv6.isBlocked_mapped (a : Ipv4) : a.mapped.isBlocked = a.isBlocked := by
  rw [isBlocked, mapped?_eq_some_iff.mpr rfl]

/-- So is one in the compatible form, also where it is that of this machine or of none. -/
theorem Ipv6.isBlocked_compatible (a : Ipv4) : a.compatible.isBlocked = a.isBlocked := by
  have unmapped : a.compatible.mapped? = none :=
    if_neg fun ⟨_, _, _, _, _, last⟩ => absurd (show (0 : UInt16) = 0xFFFF from last) (by decide)
  have inside : a.compatible.isCompatible = true := isCompatible_iff.mpr ⟨a, rfl⟩
  rw [isBlocked, unmapped]
  dsimp only
  split
  · rw [embedded_compatible]
  · next special =>
    have known : a.compatible = loopback ∨ a.compatible = unspecified := by tauto
    have same : a = ⟨0, 0, 0, 1⟩ ∨ a = ⟨0, 0, 0, 0⟩ := by
      rw [← embedded_compatible (a := a)]
      exact known.imp (congrArg embedded) (congrArg embedded)
    rcases same with rfl | rfl <;> rfl

theorem Ipv6.isBlocked_iff (unmapped : ∀ a, ip ≠ Ipv4.mapped a) (incompatible : ∀ a, ip ≠ Ipv4.compatible a) :
    ip.isBlocked = true ↔ ∃ network ∈ refused, ip ∈ network := by
  have outside : ip.mapped? = none :=
    Option.eq_none_iff_forall_ne_some.mpr fun a found => unmapped a (mapped?_eq_some_iff.mp found)
  have apart : ¬ ip.isCompatible = true := fun inside =>
    let ⟨a, same⟩ := isCompatible_iff.mp inside
    incompatible a same
  have notLoopback : ip ≠ loopback := incompatible ⟨0, 0, 0, 1⟩
  have notUnspecified : ip ≠ unspecified := incompatible ⟨0, 0, 0, 0⟩
  rw [isBlocked, outside]
  dsimp only
  rw [if_neg fun inside => apart inside.1]
  simp only [notLoopback, notUnspecified, decide_false, Bool.false_or, Bool.or_eq_true, isMulticast_iff,
    isUniqueLocal_iff, isLinkLocal_iff, refused, List.mem_cons, List.not_mem_nil, or_false, exists_eq_or_imp,
    exists_eq_left]
  exact or_assoc.trans (or_comm.trans or_assoc)

end Embedding

/-- What may not be called, address by address: of those of four bytes just what is in one of thirteen networks,
of those of eight words what has such an address inside in either form, and of all others what is local to a site
or a link or stands for many. -/
theorem blocked_exactly :
    (∀ a : Ipv4, a.mapped.isBlocked = a.isBlocked ∧ a.compatible.isBlocked = a.isBlocked) ∧
    (∀ a : Ipv4, a.isBlocked = true ↔ ∃ network ∈ Ipv4.refused, a ∈ network) ∧
    ∀ ip : Ipv6, (∀ a, ip ≠ Ipv4.mapped a) → (∀ a, ip ≠ Ipv4.compatible a) →
      (ip.isBlocked = true ↔ ∃ network ∈ Ipv6.refused, ip ∈ network) := by
  refine ⟨?_, ?_, ?_⟩
  · intro a
    exact ⟨Ipv6.isBlocked_mapped a, Ipv6.isBlocked_compatible a⟩
  · intro a
    exact Ipv4.isBlocked_iff
  · intro ip unmapped incompatible
    exact Ipv6.isBlocked_iff unmapped incompatible

/-- A service with credentials answers at the address, which has no other inside. -/
theorem blocked_exactly_credentials :
    let ip : Ipv6 := ⟨0xFD00, 0xEC2, 0, 0, 0, 0, 0, 0x254⟩
    (∀ a, ip ≠ Ipv4.mapped a) ∧ (∀ a, ip ≠ Ipv4.compatible a) ∧ ip.isBlocked = true := by
  intro ip
  have first : ip.w0 ≠ 0 := by decide
  have unmapped (a : Ipv4) : ip ≠ a.mapped := fun same => first (congrArg Ipv6.w0 same)
  have incompatible (a : Ipv4) : ip ≠ a.compatible := fun same => first (congrArg Ipv6.w0 same)
  exact ⟨unmapped, incompatible, (blocked_exactly.2.2 ip unmapped incompatible).mpr (by decide)⟩

end Automation.Url
