import Mathlib.Data.Nat.Notation

/-!
# The fake DNS addresses

The VPN interface registers one fake DNS address for each DNS server of the network. `Subnet`
numbers the fake addresses in the last byte, which `DnsServerMapper` reads back as a signed number.

## Main definitions

* `InetAddress` — an IPv4 or IPv6 address
* `getAddress` — the fake address of an index
* `getDnsServerFromFakeAddress` — the server of a fake address

## Main results

* `getDnsServerFromFakeAddress_getAddress` — the first 126 servers are found again
-/

namespace AdAway

/-- A `java.net.InetAddress`. -/
structure InetAddress where
  /-- `getAddress()`. -/
  bytes : List UInt8
  length_eq : bytes.length = 4 ∨ bytes.length = 16
  deriving DecidableEq

/-- `instanceof Inet6Address`. -/
def InetAddress.isInet6 (a : InetAddress) : Bool := a.bytes.length = 16

theorem InetAddress.bytes_ne_nil (a : InetAddress) : a.bytes ≠ [] := by
  intro h
  have := a.length_eq
  simp [h] at this

/-- `Subnet.getAddress`: the last byte is replaced by `(byte) (index + 1)`. -/
def getAddress (subnet : InetAddress) (index : ℕ) : InetAddress where
  bytes := subnet.bytes.dropLast ++ [UInt8.ofNat (index + 1)]
  length_eq := by
    have := subnet.length_eq
    simp only [List.length_append, List.length_dropLast, List.length_singleton]
    omega

/-- `DnsServerMapper.getDnsServerFromFakeAddress`, where a byte is a signed number. -/
def getDnsServerFromFakeAddress (dnsServers : List InetAddress) (fakeDnsAddress : InetAddress) :
    Option InetAddress :=
  let index := (fakeDnsAddress.bytes.getLast fakeDnsAddress.bytes_ne_nil).toInt8.toInt - 2
  if index < 0 ∨ (dnsServers.length : Int) ≤ index then none else dnsServers[index.toNat]?

/-- **The servers up to number 126 are found again.** `configureVpn` gives the server at position
`i` the address of index `i + 1`. -/
theorem getDnsServerFromFakeAddress_getAddress (dnsServers : List InetAddress) (subnet : InetAddress)
    {i : ℕ} (hi : i < dnsServers.length) (hbyte : i < 126) :
    getDnsServerFromFakeAddress dnsServers (getAddress subnet (i + 1)) = some dnsServers[i] := by
  have hlast : ((getAddress subnet (i + 1)).bytes.getLast (InetAddress.bytes_ne_nil _)).toInt8.toInt
      = i + 2 := by
    have hbound : i + 2 < 2 ^ 7 := by omega
    simp only [getAddress, List.getLast_concat, UInt8.toInt8_ofNat']
    exact Int8.toInt_ofNat_of_lt hbound
  rw [getDnsServerFromFakeAddress, hlast]
  have hindex : (i + 2 - 2 : Int) = i := by omega
  rw [hindex, if_neg (by omega), Int.toNat_natCast, List.getElem?_eq_getElem hi]

end AdAway
