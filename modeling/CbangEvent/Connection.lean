import CbangEvent.Request

/-!
# The peer address of a connection

`Connection::getPeer` builds the peer's `IPAddress` from what libevent reports for the
connection: the host text and host-order port of `evhttp_connection_get_peer`, then, when
`evhttp_connection_get_addr` gives an `AF_INET` socket address, that address's
`sin_port` and `sin_addr.s_addr`.  The constructor `Request(evhttp_request *, bool)` stores
the result as `clientIP`.

A `sockaddr_in` holds its port and address in network byte order, most significant byte
first.  `getPeer` passes the two fields to `setPort` and `setIP` as the machine loads them,
with no `ntohs` or `ntohl`, and after the reported peer, so the raw fields replace the
reported ones whenever the family is `AF_INET`.  The model keeps the bytes as stored and the
machine's byte order as a parameter; `getPeer_of_inet` says what the loads give, and the
characterization below says for which endpoints the result is the reported peer.
-/

namespace CbangEvent

/-! ## Loads of network-order fields -/

/-- The byte order of the machine the library runs on. -/
inductive ByteOrder
  | littleEndian
  | bigEndian
  deriving DecidableEq, Repr

/-- A 16-bit load of a field whose bytes are stored in the given order, lower address
first. -/
def load16 : ByteOrder → UInt8 × UInt8 → UInt16
  | .bigEndian, (first, second) => .ofNat (first.toNat * 2 ^ 8 + second.toNat)
  | .littleEndian, (first, second) => .ofNat (second.toNat * 2 ^ 8 + first.toNat)

/-- A 32-bit load of a field whose bytes are stored in the given order, lower address
first. -/
def load32 : ByteOrder → UInt8 × UInt8 × UInt8 × UInt8 → UInt32
  | .bigEndian, (b₀, b₁, b₂, b₃) =>
      .ofNat (((b₀.toNat * 2 ^ 8 + b₁.toNat) * 2 ^ 8 + b₂.toNat) * 2 ^ 8 + b₃.toNat)
  | .littleEndian, (b₀, b₁, b₂, b₃) =>
      .ofNat (((b₃.toNat * 2 ^ 8 + b₂.toNat) * 2 ^ 8 + b₁.toNat) * 2 ^ 8 + b₀.toNat)

theorem byte_toNat_lt (byte : UInt8) : byte.toNat < 2 ^ 8 :=
  byte.toNat_lt_size

/-- A little-endian load of a network-order 16-bit field gives its value only when the two
bytes are equal. -/
theorem load16_eq_bigEndian_iff (order : ByteOrder) (bytes : UInt8 × UInt8) :
    load16 order bytes = load16 .bigEndian bytes ↔ order = .bigEndian ∨ bytes.1 = bytes.2 := by
  obtain ⟨first, second⟩ := bytes
  cases order with
  | bigEndian => simp
  | littleEndian =>
      have first_lt := byte_toNat_lt first
      have second_lt := byte_toNat_lt second
      simp only [load16, reduceCtorEq, false_or]
      refine ⟨fun same => UInt8.toNat.inj ?_, fun same => by rw [same]⟩
      have values := congrArg UInt16.toNat same
      rw [UInt16.toNat_ofNat_of_lt (show _ < 2 ^ 16 by omega),
        UInt16.toNat_ofNat_of_lt (show _ < 2 ^ 16 by omega)] at values
      omega

/-- A little-endian load of a network-order 32-bit field gives its value only when the bytes
read the same backwards. -/
theorem load32_eq_bigEndian_iff (order : ByteOrder) (bytes : UInt8 × UInt8 × UInt8 × UInt8) :
    load32 order bytes = load32 .bigEndian bytes ↔
      order = .bigEndian ∨ bytes.1 = bytes.2.2.2 ∧ bytes.2.1 = bytes.2.2.1 := by
  obtain ⟨b₀, b₁, b₂, b₃⟩ := bytes
  cases order with
  | bigEndian => simp
  | littleEndian =>
      have lt₀ := byte_toNat_lt b₀
      have lt₁ := byte_toNat_lt b₁
      have lt₂ := byte_toNat_lt b₂
      have lt₃ := byte_toNat_lt b₃
      simp only [load32, reduceCtorEq, false_or]
      refine ⟨fun same => ?_, fun ⟨outer, inner⟩ => by rw [outer, inner]⟩
      have values := congrArg UInt32.toNat same
      rw [UInt32.toNat_ofNat_of_lt (show _ < 2 ^ 32 by omega),
        UInt32.toNat_ofNat_of_lt (show _ < 2 ^ 32 by omega)] at values
      exact ⟨UInt8.toNat.inj (by omega), UInt8.toNat.inj (by omega)⟩

/-! ## The library's address type -/

namespace IPAddress

/-- `IPAddress()`: no host, address 0, port 0. -/
def unset : IPAddress :=
  ⟨"", 0, 0⟩

/-- `IPAddress(host, port)`.  The library's `IPAddress` is not in the source; `resolve` is
the address it finds for the host text. -/
def ofHost (resolve : String → UInt32) (host : String) (port : UInt16) : IPAddress :=
  ⟨host, resolve host, port⟩

/-- `IPAddress::setPort`. -/
def setPort (address : IPAddress) (port : UInt16) : IPAddress :=
  { address with port := port }

/-- `IPAddress::setIP`. -/
def setIP (address : IPAddress) (ip : UInt32) : IPAddress :=
  { address with ip := ip }

end IPAddress

/-! ## `Connection::getPeer` -/

/-- `struct sockaddr_in`: the port and the IPv4 address as stored, in network byte order. -/
structure SockaddrIn where
  sinPort : UInt8 × UInt8
  sinAddr : UInt8 × UInt8 × UInt8 × UInt8
  deriving DecidableEq, Repr

/-- The socket address `evhttp_connection_get_addr` returns, by family. -/
inductive Sockaddr
  /-- `sa_family == AF_INET`. -/
  | inet (address : SockaddrIn)
  /-- Any other family. -/
  | other
  deriving DecidableEq, Repr

/-- What libevent reports for a connection. -/
structure EvhttpConnection where
  /-- `evhttp_connection_get_peer`: the host text, null when there is none, and the
  host-order port. -/
  peer : Option (String × UInt16)
  /-- `evhttp_connection_get_addr`: the raw socket address, or null. -/
  addr : Option Sockaddr
  deriving DecidableEq, Repr

/-- `Connection::getPeer`, on a machine of byte order `order`. -/
def Connection.getPeer (resolve : String → UInt32) (order : ByteOrder) (con : EvhttpConnection) :
    IPAddress :=
  let peer :=
    match con.peer with
    | some (addr, port) => IPAddress.ofHost resolve addr port
    | none => IPAddress.unset
  match con.addr with
  | some (.inet sa) => (peer.setPort (load16 order sa.sinPort)).setIP (load32 order sa.sinAddr)
  | _ => peer

/-- On an `AF_INET` address the raw fields, as the machine loads them, replace the reported
port and address; only the reported host text stays. -/
theorem Connection.getPeer_of_inet (resolve : String → UInt32) (order : ByteOrder)
    {con : EvhttpConnection} {sa : SockaddrIn} (raw : con.addr = some (.inet sa)) :
    Connection.getPeer resolve order con =
      ⟨(con.peer.map Prod.fst).getD "", load32 order sa.sinAddr, load16 order sa.sinPort⟩ := by
  obtain ⟨peer, _⟩ := con
  cases raw
  rcases peer with _ | ⟨addr, port⟩ <;> rfl

/-- A constructor whose URI parse and peer lookup return stores the peer as `clientIP`. -/
theorem Request.newRequest_stores_clientIP (guessed : Option String) (address : IPAddress)
    (inputHeaders : Headers) (version : Nat × Nat) (deallocate : Bool) :
    ∃ world', Request.newRequest (.ok guessed) (some (.ok address))
        (Request.delivered inputHeaders version deallocate) = .ok () world' ∧
      world'.clientIP = some address :=
  ⟨_, rfl, rfl⟩

/-- `getPeer` does not convert the raw `AF_INET` fields to host order, and they replace the
peer the transport reports.  Whatever the report, the result carries the fields as the
machine loads them, and the constructor stores that as `clientIP`.  For a reported peer
`(addr, p)` whose raw address is the same endpoint in network byte order, the result is
`IPAddress(addr, p)` exactly on a big-endian machine or when the port's two bytes are equal
and the address's four bytes read the same backwards. -/
theorem getPeer_reads_raw_fields_unconverted (resolve : String → UInt32) (order : ByteOrder)
    (con : EvhttpConnection) (sa : SockaddrIn) (raw : con.addr = some (.inet sa)) :
    Connection.getPeer resolve order con =
        ⟨(con.peer.map Prod.fst).getD "", load32 order sa.sinAddr, load16 order sa.sinPort⟩ ∧
      (∀ addr p, con.peer = some (addr, p) → load16 .bigEndian sa.sinPort = p →
        load32 .bigEndian sa.sinAddr = resolve addr →
        (Connection.getPeer resolve order con = IPAddress.ofHost resolve addr p ↔
          order = .bigEndian ∨ sa.sinPort.1 = sa.sinPort.2 ∧
            sa.sinAddr.1 = sa.sinAddr.2.2.2 ∧ sa.sinAddr.2.1 = sa.sinAddr.2.2.1)) ∧
      ∀ guessed inputHeaders version deallocate, ∃ world',
        Request.newRequest (.ok guessed) (some (.ok (Connection.getPeer resolve order con)))
            (Request.delivered inputHeaders version deallocate) = .ok () world' ∧
          world'.clientIP = some (Connection.getPeer resolve order con) := by
  have loaded := Connection.getPeer_of_inet resolve order raw
  refine ⟨loaded, fun addr p reported samePort sameIP => ?_,
    fun guessed inputHeaders version deallocate =>
      Request.newRequest_stores_clientIP guessed _ inputHeaders version deallocate⟩
  rw [loaded, reported, IPAddress.ofHost, ← samePort, ← sameIP]
  simp only [Option.map_some', Option.getD_some, IPAddress.mk.injEq, true_and]
  rw [and_comm, load16_eq_bigEndian_iff, load32_eq_bigEndian_iff]
  cases order <;> simp

/-- Port 80 of the loopback address, reported by the transport and given raw, on a
little-endian machine: `getPeer` gives port 20480 and address 1.0.0.127. -/
theorem getPeer_loopback_port_80_on_little_endian :
    Connection.getPeer (fun _ => 2130706433) .littleEndian
        ⟨some ("127.0.0.1", 80), some (.inet ⟨(0, 80), (127, 0, 0, 1)⟩)⟩ ≠
      IPAddress.ofHost (fun _ => 2130706433) "127.0.0.1" 80 ∧
    Connection.getPeer (fun _ => 2130706433) .littleEndian
        ⟨some ("127.0.0.1", 80), some (.inet ⟨(0, 80), (127, 0, 0, 1)⟩)⟩ =
      ⟨"127.0.0.1", 16777343, 20480⟩ := by
  have peer := getPeer_reads_raw_fields_unconverted (fun _ => 2130706433) .littleEndian
    ⟨some ("127.0.0.1", 80), some (.inet ⟨(0, 80), (127, 0, 0, 1)⟩)⟩ _ rfl
  refine ⟨fun same => ?_, peer.1⟩
  rcases (peer.2.1 "127.0.0.1" 80 rfl rfl rfl).mp same with order | ⟨port, -⟩
  · cases order
  · cases port

end CbangEvent
