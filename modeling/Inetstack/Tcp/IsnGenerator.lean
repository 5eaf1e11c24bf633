import Inetstack.Tcp.Basic

/-!
# Initial sequence numbers (`protocols/tcp/isn_generator.rs`)

A number is a checksum of the address pair and a nonce, plus a counter. The checksum is a
third-party crate's CRC-32; it is a parameter here, a function of the bytes it is fed. The build
modelled is the one without `cfg(test)`, where the generator is the constant zero.
-/

namespace Inetstack.Tcp

structure IsnGenerator where
  nonce : UInt32
  counter : UInt16
  deriving DecidableEq

/-- The bytes of a number, most significant first. -/
def toBeBytes (width n : Nat) : List UInt8 :=
  (List.range width).reverse.map fun i => UInt8.ofNat (n >>> (8 * i))

def Ipv4Addr.octets (ip : Ipv4Addr) : List UInt8 := toBeBytes 4 ip.toNat

namespace IsnGenerator

def new (nonce : UInt32) : IsnGenerator where
  nonce := nonce
  counter := 0

/-- The bytes the digest is updated with, in order. -/
def digestBytes (g : IsnGenerator) (localAddr remoteAddr : SocketAddrV4) : List UInt8 :=
  Ipv4Addr.octets remoteAddr.ip ++ toBeBytes 2 remoteAddr.port.toNat ++
    Ipv4Addr.octets localAddr.ip ++ toBeBytes 2 localAddr.port.toNat ++ toBeBytes 4 g.nonce.toNat

/-- The next number. Both sums wrap. -/
def generate (crc : List UInt8 → UInt32) (g : IsnGenerator) (localAddr remoteAddr : SocketAddrV4) :
    SeqNumber × IsnGenerator :=
  (⟨crc (g.digestBytes localAddr remoteAddr) + g.counter.toUInt32⟩,
    { g with counter := g.counter + 1 })

/-- The sum of the next number does not fit, which a build with overflow checks panics on. -/
def overflows (crc : List UInt8 → UInt32) (g : IsnGenerator) (localAddr remoteAddr : SocketAddrV4) :
    Bool :=
  decide (2 ^ 32 ≤ (crc (g.digestBytes localAddr remoteAddr)).toNat + g.counter.toNat)

end IsnGenerator

end Inetstack.Tcp
