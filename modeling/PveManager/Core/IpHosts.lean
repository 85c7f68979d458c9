import PveManager.Core.IpText

/-!
# Numbers, addresses and hosts

Which address a number stands for, where the numbers of a network lie and which of its addresses
are hosts: all but the first and, in the fourth version, the last, unless there are no more than
two.
-/

namespace PveManager.Net

namespace IpAddress

variable {a b : IpAddress} {n : Nat}

/-- A small number stands for an address of the fourth version. -/
theorem ofNat?_eq_some_iff :
    ofNat? n = some a ↔ a.plain = true ∧ a.toNat = n ∧ (a.width = 32 ∨ 2 ^ 32 ≤ n) := by
  unfold ofNat?
  constructor
  · intro h
    split at h
    · obtain rfl := Option.some.inj h
      exact ⟨rfl, rfl, Or.inl rfl⟩
    · rename_i hlow
      split at h
      · obtain rfl := Option.some.inj h
        exact ⟨rfl, rfl, Or.inr (Nat.le_of_not_lt hlow)⟩
      · cases h
  · rintro ⟨hplain, rfl, hversion⟩
    cases a with
    | v4 m => rw [dif_pos (show (IpAddress.v4 m).toNat < 2 ^ 32 from m.isLt)]; rfl
    | v6 m scope =>
      have hscope : scope = none := Option.isNone_iff_eq_none.mp hplain
      have hlow : ¬(IpAddress.v6 m scope).toNat < 2 ^ 32 := by
        rcases hversion with hversion | hversion
        · cases hversion
        · exact Nat.not_lt.mpr hversion
      rw [dif_neg hlow, dif_pos (show (IpAddress.v6 m scope).toNat < 2 ^ 128 from m.isLt), hscope]
      rfl

theorem exists_ofNat? (h : n < 2 ^ 128) : ∃ a, ofNat? n = some a := by
  unfold ofNat?
  split
  · exact ⟨_, rfl⟩
  · exact ⟨_, rfl⟩

theorem renumbered_eq_some_iff :
    a.renumbered n = some b ↔ b.plain = true ∧ b.width = a.width ∧ b.toNat = n := by
  constructor
  · intro h
    cases a with
    | v4 m =>
      unfold renumbered at h
      dsimp only at h
      split at h
      · obtain rfl := Option.some.inj h
        exact ⟨rfl, rfl, rfl⟩
      · cases h
    | v6 m scope =>
      unfold renumbered at h
      dsimp only at h
      split at h
      · obtain rfl := Option.some.inj h
        exact ⟨rfl, rfl, rfl⟩
      · cases h
  · rintro ⟨hplain, hwidth, rfl⟩
    cases a with
    | v4 m =>
      cases b with
      | v4 k => exact dif_pos k.isLt
      | v6 k scope => cases hwidth
    | v6 m scope =>
      cases b with
      | v4 k => cases hwidth
      | v6 k scope' =>
        obtain rfl : scope' = none := Option.isNone_iff_eq_none.mp hplain
        exact dif_pos k.isLt

theorem exists_renumbered (h : n < 2 ^ a.width) : ∃ b, a.renumbered n = some b := by
  cases a with
  | v4 m => exact ⟨_, dif_pos h⟩
  | v6 m scope => exact ⟨_, dif_pos h⟩

end IpAddress

namespace IpNetwork

variable (net : IpNetwork) {a : IpAddress}

theorem size_pos : 0 < net.size := Nat.two_pow_pos _

/-- The numbers of a network follow one another. -/
theorem contains_iff : net.contains a = true ↔
    a.width = net.address.width ∧ net.first ≤ a.toNat ∧ a.toNat < net.first + net.size := by
  have hpos := net.size_pos
  unfold contains first
  rw [decide_eq_true_eq, Nat.div_eq_iff hpos]
  constructor
  · rintro ⟨hwidth, hle, hlt⟩
    exact ⟨hwidth, by omega, by omega⟩
  · rintro ⟨hwidth, hle, hlt⟩
    exact ⟨hwidth, by omega, by omega⟩

/-- The numbers of a network are numbers of addresses. -/
theorem first_add_size_le : net.first + net.size ≤ 2 ^ net.address.width := by
  have hpow : 2 ^ net.address.width = net.size * 2 ^ net.prefixLen := by
    unfold size
    rw [← Nat.pow_add, Nat.sub_add_cancel net.prefixLen_le]
  have hlt : net.address.toNat / net.size < 2 ^ net.prefixLen :=
    Nat.div_lt_of_lt_mul (hpow ▸ net.address.toNat_lt)
  calc net.first + net.size = net.size * (net.address.toNat / net.size + 1) := by
        unfold first
        rw [Nat.mul_add, Nat.mul_one, Nat.mul_comm]
    _ ≤ net.size * 2 ^ net.prefixLen := Nat.mul_le_mul_left _ hlt
    _ = 2 ^ net.address.width := hpow.symm

/-- The highest address as a number: the broadcast address of the fourth version. -/
def last : Nat := net.first + net.size - 1

/-- An address for a host. -/
def IsHost (a : IpAddress) : Prop :=
  if net.size = 1 then a = net.address
  else a.plain = true ∧ net.contains a = true ∧
    (2 < net.size → a.toNat ≠ net.first ∧ (a.width = 32 → a.toNat ≠ net.last))

/-- The numbers of the hosts. -/
theorem isHost_iff : net.IsHost a ↔
    ∃ n, net.hosts.1 ≤ n ∧ n < net.hosts.1 + net.hosts.2 ∧ net.hostAt n = some a := by
  have hpos := net.size_pos
  unfold IsHost hostAt hosts
  by_cases hone : net.size = 1
  · rw [if_pos hone, if_pos (by omega)]
    simp only [if_pos hone, Option.some.injEq]
    constructor
    · intro h
      exact ⟨net.first, Nat.le_refl _, by omega, h.symm⟩
    · rintro ⟨n, -, -, h⟩
      exact h.symm
  · simp only [if_neg hone, IpAddress.renumbered_eq_some_iff, contains_iff, last]
    by_cases htwo : net.size ≤ 2
    · rw [if_pos htwo]
      constructor
      · rintro ⟨hplain, ⟨hwidth, hle, hlt⟩, -⟩
        exact ⟨a.toNat, hle, hlt, hplain, hwidth, rfl⟩
      · rintro ⟨n, hle, hlt, hplain, hwidth, rfl⟩
        exact ⟨hplain, ⟨hwidth, hle, hlt⟩, fun h => absurd htwo (by omega)⟩
    · rw [if_neg htwo]
      cases net.address with
      | v4 m =>
        dsimp only
        constructor
        · rintro ⟨hplain, ⟨hwidth, hle, hlt⟩, hends⟩
          obtain ⟨hfirst, hlast⟩ := hends (by omega)
          have hend := hlast hwidth
          exact ⟨a.toNat, by omega, by omega, hplain, hwidth, rfl⟩
        · rintro ⟨n, hle, hlt, hplain, hwidth, rfl⟩
          exact ⟨hplain, ⟨hwidth, by omega, by omega⟩, fun _ => ⟨by omega, fun _ => by omega⟩⟩
      | v6 m scope =>
        dsimp only
        constructor
        · rintro ⟨hplain, ⟨hwidth, hle, hlt⟩, hends⟩
          obtain ⟨hfirst, -⟩ := hends (by omega)
          exact ⟨a.toNat, by omega, by omega, hplain, hwidth, rfl⟩
        · rintro ⟨n, hle, hlt, hplain, hwidth, rfl⟩
          refine ⟨hplain, ⟨hwidth, by omega, by omega⟩, fun _ => ⟨by omega, fun h => ?_⟩⟩
          rw [hwidth] at h
          cases h

/-- The numbers of the hosts are in the network. -/
theorem hosts_le : net.hosts.1 + net.hosts.2 ≤ net.first + net.size := by
  unfold hosts
  split
  · exact Nat.le_refl _
  · split
    · dsimp only
      omega
    · dsimp only
      omega

theorem exists_hostAt {n : Nat} (h : n < net.hosts.1 + net.hosts.2) :
    ∃ a, net.hostAt n = some a := by
  unfold hostAt
  split
  · exact ⟨_, rfl⟩
  · exact IpAddress.exists_renumbered
      (Nat.lt_of_lt_of_le h (Nat.le_trans net.hosts_le net.first_add_size_le))

/-- A host has its number. -/
theorem toNat_of_hostAt {n : Nat} (hge : net.hosts.1 ≤ n)
    (hlt : n < net.hosts.1 + net.hosts.2) (h : net.hostAt n = some a) : a.toNat = n := by
  unfold hostAt at h
  by_cases hone : net.size = 1
  · rw [if_pos hone] at h
    obtain rfl := Option.some.inj h
    have hfirst : net.first = net.address.toNat := by
      unfold first
      rw [hone, Nat.div_one, Nat.mul_one]
    unfold hosts at hge hlt
    rw [if_pos (by omega)] at hge hlt
    dsimp only at hge hlt
    omega
  · rw [if_neg hone] at h
    exact (IpAddress.renumbered_eq_some_iff.mp h).2.2

/-- The address of a network that was read has a scope that can be read. -/
theorem wellScoped_of_parse {text : String} (h : parse text = some net) :
    net.address.wellScoped = true := by
  have hread : ∀ {address : List Char → Option IpAddress} {chars : List Char},
      parseWith address chars = some net → ∃ addr, address addr = some net.address := by
    intro address chars h
    unfold parseWith at h
    split at h
    · rename_i addr _
      obtain ⟨a, ha, hnet⟩ := Option.map_eq_some_iff.mp h
      exact ⟨addr, by rw [ha, ← hnet]⟩
    · rename_i addr pre _
      obtain ⟨a, ha, h⟩ := Option.bind_eq_some_iff.mp h
      obtain ⟨p, -, h⟩ := Option.bind_eq_some_iff.mp h
      split at h
      · obtain rfl := Option.some.inj h
        exact ⟨addr, ha⟩
      · cases h
    · cases h
  rw [parse, Option.or_eq_some_iff] at h
  rcases h with h | ⟨-, h⟩
  · obtain ⟨addr, haddr⟩ := hread h
    obtain ⟨n, -, ha⟩ := Option.bind_eq_some_iff.mp haddr
    split at ha
    · rw [← Option.some.inj ha]
      rfl
    · cases ha
  · obtain ⟨addr, haddr⟩ := hread h
    exact IpAddress.wellScoped_of_parseV6Address haddr

theorem wellScoped_of_hostAt {text : String} (hparse : parse text = some net) {n : Nat}
    (h : net.hostAt n = some a) : a.wellScoped = true := by
  unfold hostAt at h
  split at h
  · rw [← Option.some.inj h]
    exact net.wellScoped_of_parse hparse
  · exact IpAddress.wellScoped_of_plain (IpAddress.renumbered_eq_some_iff.mp h).1

end IpNetwork

end PveManager.Net
