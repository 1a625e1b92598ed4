import Automation.Proofs.Url.Networks
import Automation.Proofs.Url.Targets

/-!
Public addresses: those in no network that is set aside for something. A guard lets all of them pass, and some
others: addresses that stand for many hosts, addresses that carry one of four bytes in a form that the guard does
not look into, and addresses of eight words that are reserved or meant for documentation.
-/
namespace Automation.Url

/-- What a network is set aside for. -/
inductive Purpose where
  | loopback
  | unspecified
  | privateUse
  | linkLocal
  | shared
  | broadcast
  | reserved
  | documentation
  | multicast
  deriving DecidableEq

namespace Purpose

def all : List Purpose :=
  [loopback, unspecified, privateUse, linkLocal, shared, broadcast, reserved, documentation, multicast]

theorem mem_all (purpose : Purpose) : purpose ∈ all := by
  cases purpose <;> decide

end Purpose

namespace Ipv4

/-- Reserved are also the networks of protocols and of measurements. -/
def networks : Purpose → List (Network Ipv4)
  | .loopback => [⟨⟨127, 0, 0, 0⟩, 8⟩]
  | .unspecified => [⟨unspecified, 32⟩]
  | .privateUse => [⟨⟨10, 0, 0, 0⟩, 8⟩, ⟨⟨172, 16, 0, 0⟩, 12⟩, ⟨⟨192, 168, 0, 0⟩, 16⟩]
  | .linkLocal => [⟨⟨169, 254, 0, 0⟩, 16⟩]
  | .shared => [⟨⟨100, 64, 0, 0⟩, 10⟩]
  | .broadcast => [⟨broadcast, 32⟩]
  | .reserved => [⟨⟨0, 0, 0, 0⟩, 8⟩, ⟨⟨192, 0, 0, 0⟩, 24⟩, ⟨⟨198, 18, 0, 0⟩, 15⟩, ⟨⟨240, 0, 0, 0⟩, 4⟩]
  | .documentation => [⟨⟨192, 0, 2, 0⟩, 24⟩, ⟨⟨198, 51, 100, 0⟩, 24⟩, ⟨⟨203, 0, 113, 0⟩, 24⟩]
  | .multicast => [⟨⟨224, 0, 0, 0⟩, 4⟩]

def HasPurpose (ip : Ipv4) (purpose : Purpose) : Prop := ∃ network ∈ networks purpose, ip ∈ network

instance (ip : Ipv4) (purpose : Purpose) : Decidable (ip.HasPurpose purpose) :=
  inferInstanceAs (Decidable (∃ network ∈ networks purpose, ip ∈ network))

/-- In no network that is set aside for anything. -/
def IsPublic (ip : Ipv4) : Prop := ∀ purpose, ¬ ip.HasPurpose purpose

instance (ip : Ipv4) : Decidable ip.IsPublic :=
  decidable_of_iff (∀ purpose ∈ Purpose.all, ¬ ip.HasPurpose purpose)
    ⟨fun h purpose => h purpose purpose.mem_all, fun h purpose _ => h purpose⟩

variable {ip : Ipv4}

/-- What may not be called is set aside for something, and what is set aside may not be called, but for what
stands for many. -/
theorem isBlocked_iff_hasPurpose :
    ip.isBlocked = true ↔ ∃ purpose, purpose ≠ .multicast ∧ ip.HasPurpose purpose := by
  rw [isBlocked_iff]
  constructor
  · rintro ⟨network, known, inside⟩
    have sources : ∀ network ∈ refused, ∃ purpose ∈ Purpose.all, purpose ≠ .multicast ∧
        network ∈ networks purpose := by decide
    obtain ⟨purpose, -, other, listed⟩ := sources network known
    exact ⟨purpose, other, network, listed, inside⟩
  · rintro ⟨purpose, other, network, listed, inside⟩
    have covers : ∀ purpose ∈ Purpose.all, purpose ≠ .multicast → ∀ network ∈ networks purpose,
        ∃ outer ∈ refused, outer.length ≤ network.length ∧ network.base ∈ outer := by decide
    obtain ⟨outer, known, short, base⟩ := covers purpose purpose.mem_all other network listed
    exact ⟨outer, known, Network.mem_of_mem short base inside⟩

theorem isBlocked_of_multicast (h : ip.HasPurpose .multicast) : ip.isBlocked = false := by
  obtain ⟨network, listed, inside⟩ := h
  have apart : ∀ network ∈ networks .multicast, ∀ other ∈ refused, network.Apart other := by decide
  rw [← Bool.not_eq_true, isBlocked_iff]
  rintro ⟨other, known, inside'⟩
  exact (apart network listed other known).not_mem inside inside'

/-- What may be called is public or stands for many. -/
theorem isBlocked_eq_false_iff : ip.isBlocked = false ↔ ip.IsPublic ∨ ip.HasPurpose .multicast := by
  constructor
  · intro free
    by_cases many : ip.HasPurpose .multicast
    · exact .inr many
    · refine .inl fun purpose has => ?_
      have other : purpose ≠ .multicast := fun same => many (same ▸ has)
      rw [isBlocked_iff_hasPurpose.mpr ⟨purpose, other, has⟩] at free
      cases free
  · rintro (isPublic | many)
    · rw [← Bool.not_eq_true, isBlocked_iff_hasPurpose]
      exact fun ⟨purpose, _, has⟩ => isPublic purpose has
    · exact isBlocked_of_multicast many

end Ipv4

namespace Ipv6

/-- Reserved is, besides the networks of protocols, whatever is not handed out and not local. -/
def networks : Purpose → List (Network Ipv6)
  | .loopback => [⟨loopback, 128⟩]
  | .unspecified => [⟨unspecified, 128⟩]
  | .privateUse => [⟨⟨0xFC00, 0, 0, 0, 0, 0, 0, 0⟩, 7⟩]
  | .linkLocal => [⟨⟨0xFE80, 0, 0, 0, 0, 0, 0, 0⟩, 10⟩]
  | .shared | .broadcast => []
  | .reserved =>
    [⟨⟨0, 0, 0, 0, 0, 0, 0, 0⟩, 3⟩, ⟨⟨0x2001, 0, 0, 0, 0, 0, 0, 0⟩, 23⟩, ⟨⟨0x4000, 0, 0, 0, 0, 0, 0, 0⟩, 2⟩,
      ⟨⟨0x8000, 0, 0, 0, 0, 0, 0, 0⟩, 2⟩, ⟨⟨0xC000, 0, 0, 0, 0, 0, 0, 0⟩, 3⟩, ⟨⟨0xE000, 0, 0, 0, 0, 0, 0, 0⟩, 4⟩,
      ⟨⟨0xF000, 0, 0, 0, 0, 0, 0, 0⟩, 5⟩, ⟨⟨0xF800, 0, 0, 0, 0, 0, 0, 0⟩, 6⟩, ⟨⟨0xFE00, 0, 0, 0, 0, 0, 0, 0⟩, 9⟩,
      ⟨⟨0xFEC0, 0, 0, 0, 0, 0, 0, 0⟩, 10⟩]
  | .documentation => [⟨⟨0x2001, 0xDB8, 0, 0, 0, 0, 0, 0⟩, 32⟩, ⟨⟨0x3FFF, 0, 0, 0, 0, 0, 0, 0⟩, 20⟩]
  | .multicast => [⟨⟨0xFF00, 0, 0, 0, 0, 0, 0, 0⟩, 8⟩]

def HasPurpose (ip : Ipv6) (purpose : Purpose) : Prop := ∃ network ∈ networks purpose, ip ∈ network

instance (ip : Ipv6) (purpose : Purpose) : Decidable (ip.HasPurpose purpose) :=
  inferInstanceAs (Decidable (∃ network ∈ networks purpose, ip ∈ network))

/-- Networks whose addresses have an address of four bytes inside. -/
inductive Carrier where
  | mapped
  | compatible
  | nat64
  | sixToFour
  deriving DecidableEq

namespace Carrier

def all : List Carrier := [mapped, compatible, nat64, sixToFour]

theorem mem_all (carrier : Carrier) : carrier ∈ all := by
  cases carrier <;> decide

def network : Carrier → Network Ipv6
  | mapped => ⟨⟨0, 0, 0, 0, 0, 0xFFFF, 0, 0⟩, 96⟩
  | compatible => ⟨⟨0, 0, 0, 0, 0, 0, 0, 0⟩, 96⟩
  | nat64 => ⟨⟨0x64, 0xFF9B, 0, 0, 0, 0, 0, 0⟩, 96⟩
  | sixToFour => ⟨⟨0x2002, 0, 0, 0, 0, 0, 0, 0⟩, 16⟩

/-- The two forms that a guard looks into. -/
def isKnown : Carrier → Bool
  | mapped | compatible => true
  | nat64 | sixToFour => false

/-- The address inside: at the end, but behind the network if that is short. -/
def inner : Carrier → Ipv6 → Ipv4
  | mapped, ip | compatible, ip | nat64, ip => ip.embedded
  | sixToFour, ip => ⟨(ip.w1 >>> 8).toUInt8, ip.w1.toUInt8, (ip.w2 >>> 8).toUInt8, ip.w2.toUInt8⟩

/-- No address is in the networks of two carriers. -/
theorem eq_of_mem {ip : Ipv6} {carrier other : Carrier} (h : ip ∈ carrier.network) (h' : ip ∈ other.network) :
    carrier = other := by
  have apart : ∀ carrier ∈ all, ∀ other ∈ all, carrier ≠ other → carrier.network.Apart other.network := by decide
  by_contra two
  exact (apart carrier carrier.mem_all other other.mem_all two).not_mem h h'

end Carrier

/-- Carries a public address, or carries none and is in no network that is set aside for anything. -/
def IsPublic (ip : Ipv6) : Prop :=
  (∀ carrier : Carrier, ip ∈ carrier.network → (carrier.inner ip).IsPublic) ∧
    ((∀ carrier : Carrier, ip ∉ carrier.network) → ∀ purpose, ¬ ip.HasPurpose purpose)

instance (ip : Ipv6) : Decidable ip.IsPublic :=
  decidable_of_iff ((∀ carrier ∈ Carrier.all, ip ∈ carrier.network → (carrier.inner ip).IsPublic) ∧
      ((∀ carrier ∈ Carrier.all, ip ∉ carrier.network) → ∀ purpose ∈ Purpose.all, ¬ ip.HasPurpose purpose)) <| by
    simp only [Carrier.mem_all, Purpose.mem_all, forall_const]
    rfl

/-- May be called and is not public: it carries an address that stands for many, or in a form that a guard does not
look into any address that is not public, or it carries none and is reserved or meant for documentation. -/
inductive IsOverlooked (ip : Ipv6) : Prop
  | multicast (carrier : Carrier) (known : carrier.isKnown = true) (h : ip ∈ carrier.network)
    (inside : (carrier.inner ip).HasPurpose .multicast)
  | carried (carrier : Carrier) (unknown : carrier.isKnown = false) (h : ip ∈ carrier.network)
    (inside : ¬ (carrier.inner ip).IsPublic)
  | bare (h : ∀ carrier : Carrier, ip ∉ carrier.network)
    (kept : ip.HasPurpose .reserved ∨ ip.HasPurpose .documentation)

variable {ip base : Ipv6} {carrier : Carrier}

theorem mem_sixWords : ip ∈ (⟨base, 96⟩ : Network Ipv6) ↔ ip.w0 = base.w0 ∧ ip.w1 = base.w1 ∧ ip.w2 = base.w2 ∧
    ip.w3 = base.w3 ∧ ip.w4 = base.w4 ∧ ip.w5 = base.w5 := by
  have gone (v v' : UInt16) : v.toNat / 2 ^ 16 = v'.toNat / 2 ^ 16 ∧ v.toNat / 2 ^ 32 = v'.toNat / 2 ^ 32 := by
    have bound := v.toNat_lt
    have bound' := v'.toNat_lt
    omega
  have rest : ip.w6.toNat / 2 ^ 16 = base.w6.toNat / 2 ^ 16 ∧ ip.w7.toNat / 2 ^ 32 = base.w7.toNat / 2 ^ 32 :=
    ⟨(gone _ _).1, (gone _ _).2⟩
  rw [mem_iff]
  simp only [Nat.reduceSub, rest, and_self, and_true, Nat.pow_zero, Nat.div_one, UInt16.toNat_inj]

theorem mapped?_of_mem (h : ip ∈ Carrier.mapped.network) : ip.mapped? = some (Carrier.mapped.inner ip) :=
  if_pos (mem_sixWords.mp h)

theorem eq_compatible_of_mem (h : ip ∈ Carrier.compatible.network) :
    ip = (Carrier.compatible.inner ip).compatible := by
  obtain ⟨w0, w1, w2, w3, w4, w5⟩ := mem_sixWords.mp h
  have front : ip.isCompatible = true := by
    rw [isCompatible, w0, w1, w2, w3, w4, w5]
    rfl
  obtain ⟨a, rfl⟩ := isCompatible_iff.mp front
  exact congrArg Ipv4.compatible embedded_compatible.symm

theorem isBlocked_of_known (known : carrier.isKnown = true) (h : ip ∈ carrier.network) :
    ip.isBlocked = (carrier.inner ip).isBlocked := by
  cases carrier with
  | mapped => rw [isBlocked, mapped?_of_mem h]
  | compatible => conv_lhs => rw [eq_compatible_of_mem h, isBlocked_compatible]
  | nat64 | sixToFour => cases known

/-- In neither of these forms an address is refused for its own networks alone. -/
theorem isBlocked_iff_of_unmapped (unmapped : ip ∉ Carrier.mapped.network)
    (incompatible : ip ∉ Carrier.compatible.network) :
    ip.isBlocked = true ↔ ∃ network ∈ refused, ip ∈ network := by
  refine isBlocked_iff (fun a same => unmapped ?_) (fun a same => incompatible ?_)
  · rw [same]
    exact mem_sixWords.mpr ⟨rfl, rfl, rfl, rfl, rfl, rfl⟩
  · rw [same]
    exact mem_sixWords.mpr ⟨rfl, rfl, rfl, rfl, rfl, rfl⟩

theorem isBlocked_of_unknown (unknown : carrier.isKnown = false) (h : ip ∈ carrier.network) :
    ip.isBlocked = false := by
  have outside (other : Carrier) (known : other.isKnown = true) : ip ∉ other.network := fun inside => by
    rw [Carrier.eq_of_mem h inside, known] at unknown
    cases unknown
  have apart : ∀ carrier ∈ Carrier.all, ∀ network ∈ refused, carrier.network.Apart network := by decide
  rw [← Bool.not_eq_true, isBlocked_iff_of_unmapped (outside .mapped rfl) (outside .compatible rfl)]
  rintro ⟨network, listed, inside⟩
  exact (apart carrier carrier.mem_all network listed).not_mem h inside

/-- The loopback address, behind a translator. -/
example : Ipv6.isBlocked ⟨0x64, 0xFF9B, 0, 0, 0, 0, 0x7F00, 1⟩ = false := by decide

/-- An address that carries none is refused just for three purposes. -/
theorem isBlocked_iff_of_bare (bare : ∀ carrier : Carrier, ip ∉ carrier.network) : ip.isBlocked = true ↔
    ip.HasPurpose .privateUse ∨ ip.HasPurpose .linkLocal ∨ ip.HasPurpose .multicast := by
  rw [isBlocked_iff_of_unmapped (bare .mapped) (bare .compatible)]
  simp [refused, HasPurpose, networks]

theorem isPublic_iff_of_mem (h : ip ∈ carrier.network) : ip.IsPublic ↔ (carrier.inner ip).IsPublic := by
  constructor
  · exact fun isPublic => isPublic.1 carrier h
  · refine fun isPublic => ⟨fun other h' => ?_, fun bare => absurd h (bare carrier)⟩
    rw [← Carrier.eq_of_mem h h']
    exact isPublic

theorem isPublic_iff_of_bare (bare : ∀ carrier : Carrier, ip ∉ carrier.network) :
    ip.IsPublic ↔ ∀ purpose, ¬ ip.HasPurpose purpose :=
  ⟨fun isPublic => isPublic.2 bare, fun free => ⟨fun carrier h => absurd h (bare carrier), fun _ => free⟩⟩

theorem isOverlooked_iff_of_known (known : carrier.isKnown = true) (h : ip ∈ carrier.network) :
    ip.IsOverlooked ↔ (carrier.inner ip).HasPurpose .multicast := by
  refine ⟨fun overlooked => ?_, .multicast carrier known h⟩
  cases overlooked with
  | multicast other _ h' inside => exact Carrier.eq_of_mem h' h ▸ inside
  | carried other unknown h' _ =>
    rw [Carrier.eq_of_mem h' h, known] at unknown
    cases unknown
  | bare bare _ => exact absurd h (bare carrier)

theorem isOverlooked_iff_of_unknown (unknown : carrier.isKnown = false) (h : ip ∈ carrier.network) :
    ip.IsOverlooked ↔ ¬ (carrier.inner ip).IsPublic := by
  refine ⟨fun overlooked => ?_, .carried carrier unknown h⟩
  cases overlooked with
  | multicast other known h' _ =>
    rw [Carrier.eq_of_mem h' h, unknown] at known
    cases known
  | carried other _ h' inside => exact Carrier.eq_of_mem h' h ▸ inside
  | bare bare _ => exact absurd h (bare carrier)

theorem isOverlooked_iff_of_bare (bare : ∀ carrier : Carrier, ip ∉ carrier.network) :
    ip.IsOverlooked ↔ ip.HasPurpose .reserved ∨ ip.HasPurpose .documentation := by
  refine ⟨fun overlooked => ?_, .bare bare⟩
  cases overlooked with
  | multicast carrier _ h _ => exact absurd h (bare carrier)
  | carried carrier _ h _ => exact absurd h (bare carrier)
  | bare _ kept => exact kept

/-- What is reserved or meant for documentation is in no network that is refused. -/
theorem isBlocked_of_kept (bare : ∀ carrier : Carrier, ip ∉ carrier.network)
    (kept : ip.HasPurpose .reserved ∨ ip.HasPurpose .documentation) : ip.isBlocked = false := by
  have apart : ∀ network ∈ networks .reserved ++ networks .documentation, ∀ other ∈ refused,
      network.Apart other := by decide
  obtain ⟨network, listed, inside⟩ : ∃ network ∈ networks .reserved ++ networks .documentation, ip ∈ network := by
    rcases kept with ⟨network, listed, inside⟩ | ⟨network, listed, inside⟩
    · exact ⟨network, List.mem_append_left _ listed, inside⟩
    · exact ⟨network, List.mem_append_right _ listed, inside⟩
  rw [← Bool.not_eq_true, isBlocked_iff_of_unmapped (bare .mapped) (bare .compatible)]
  rintro ⟨other, known, inside'⟩
  exact (apart network listed other known).not_mem inside inside'

/-- An address that carries none is neither the loopback address nor the unspecified one. -/
theorem not_hasPurpose_of_bare (bare : ∀ carrier : Carrier, ip ∉ carrier.network) {purpose : Purpose}
    (h : purpose = .loopback ∨ purpose = .unspecified ∨ purpose = .shared ∨ purpose = .broadcast) :
    ¬ ip.HasPurpose purpose := by
  rintro ⟨network, listed, inside⟩
  have covers : ∀ purpose ∈ [Purpose.loopback, .unspecified, .shared, .broadcast], ∀ network ∈ networks purpose,
      Carrier.compatible.network.length ≤ network.length ∧ network.base ∈ Carrier.compatible.network := by decide
  obtain ⟨short, base⟩ := covers purpose (by simpa using h) network listed
  exact bare .compatible (Network.mem_of_mem short base inside)

/-- What may be called is public or overlooked. -/
theorem isBlocked_eq_false_iff : ip.isBlocked = false ↔ ip.IsPublic ∨ ip.IsOverlooked := by
  by_cases carries : ∃ carrier : Carrier, ip ∈ carrier.network
  · obtain ⟨carrier, h⟩ := carries
    rw [isPublic_iff_of_mem h]
    cases known : carrier.isKnown with
    | true => rw [isBlocked_of_known known h, isOverlooked_iff_of_known known h, Ipv4.isBlocked_eq_false_iff]
    | false =>
      rw [isBlocked_of_unknown known h, isOverlooked_iff_of_unknown known h]
      exact iff_of_true rfl (Classical.em _)
  · have bare : ∀ carrier : Carrier, ip ∉ carrier.network := fun carrier h => carries ⟨carrier, h⟩
    rw [isPublic_iff_of_bare bare, isOverlooked_iff_of_bare bare]
    -- of the nine purposes three are refused, two are not, and four are none of such an address
    constructor
    · intro free
      rw [← Bool.not_eq_true, isBlocked_iff_of_bare bare, not_or, not_or] at free
      obtain ⟨notPrivate, notLocal, notMany⟩ := free
      by_cases kept : ip.HasPurpose .reserved ∨ ip.HasPurpose .documentation
      · exact .inr kept
      · rw [not_or] at kept
        obtain ⟨notReserved, notExample⟩ := kept
        refine .inl fun purpose => ?_
        cases purpose with
        | loopback | unspecified | shared | broadcast => exact not_hasPurpose_of_bare bare (by decide)
        | privateUse => exact notPrivate
        | linkLocal => exact notLocal
        | reserved => exact notReserved
        | documentation => exact notExample
        | multicast => exact notMany
    · rintro (free | kept)
      · rw [← Bool.not_eq_true, isBlocked_iff_of_bare bare]
        rintro (has | has | has) <;> exact free _ has
      · exact isBlocked_of_kept bare kept

end Ipv6

/-- Which addresses a guard lets pass over HTTP and without credentials: all public ones, and besides them, of four
bytes, just those that stand for many, and of eight words just those that are overlooked. -/
theorem addresses_allowed (guard : Guard) {text : String} {url : Url} (read : Url.parse text = .ok url) :
    (∀ ip, url.host = some (.ipv4 ip) →
      (guard.judge text = .allowed ↔ url.IsCallable ∧ (ip.IsPublic ∨ ip.HasPurpose .multicast))) ∧
    ∀ ip, url.host = some (.ipv6 ip) →
      (guard.judge text = .allowed ↔ url.IsCallable ∧ (ip.IsPublic ∨ ip.IsOverlooked)) := by
  constructor
  · intro ip found
    rw [Guard.judge_eq_allowed_iff_of_host read found, Guard.Bars, Bool.not_eq_true, Ipv4.isBlocked_eq_false_iff]
  · intro ip found
    rw [Guard.judge_eq_allowed_iff_of_host read found, Guard.Bars, Bool.not_eq_true, Ipv6.isBlocked_eq_false_iff]

/-- A public resolver. -/
theorem addresses_allowed_resolver : ({} : Guard).judge "http://[2606:4700:4700::1111]/" = .allowed := by
  have read : Url.parse "http://[2606:4700:4700::1111]/" = .ok
      { scheme := "http", host := some (.ipv6 ⟨0x2606, 0x4700, 0x4700, 0, 0, 0, 0, 0x1111⟩)
        path := .segments [""] } := by decide +kernel
  refine ((addresses_allowed {} read).2 _ rfl).mpr ⟨⟨.inl rfl, rfl⟩, .inl ?_⟩
  decide

/-- An address that a guard lets pass need not be public, since it may stand for many hosts. -/
theorem manyHosts_allowed : ¬ ∀ (guard : Guard) (text : String) (url : Url) (ip : Ipv4),
    Url.parse text = .ok url → url.host = some (.ipv4 ip) → guard.judge text = .allowed → ip.IsPublic := by
  intro sound
  have whole : IsWholeHost "224.0.0.1" (.ipv4 ⟨224, 0, 0, 1⟩) := by
    have plain : Idna.IsPlain "224.0.0.1".toList := by decide
    refine isWholeHost_of_allowed (by decide) ?_
    rw [Host.parse_of_plain plain (by decide) (by decide)]
    decide
  have read := parse_wholeHost whole
  have free : ¬ ({} : Guard).Bars (.ipv4 ⟨224, 0, 0, 1⟩) := show ¬ Ipv4.isBlocked ⟨224, 0, 0, 1⟩ = true by decide
  have allowed : ({} : Guard).judge "http://224.0.0.1/" = .allowed :=
    (Guard.judge_eq_allowed_iff_of_host read rfl).mpr ⟨⟨.inl rfl, rfl⟩, free⟩
  exact absurd (sound {} "http://224.0.0.1/" _ _ read rfl allowed) (by decide)

end Automation.Url
