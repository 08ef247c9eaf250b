/-
# The destinations of the provider requests

`provider_transport.rs`: a public connection is refused unless every address of its host is
global.  The test is a list of ranges; what it overlooks is named here, and a request to a public
connection is confined exactly where no address is overlooked (`confined_iff`).
-/
import MusicServer.UsageLedger

namespace MusicServer.Transport

/-! ## Addresses -/

abbrev Ipv4Addr := BitVec 32

abbrev Ipv6Addr := BitVec 128

/-- The addresses that begin as a network does. -/
structure Range (width : ℕ) where
  network : BitVec width
  length : ℕ

def Range.contains {width : ℕ} (range : Range width) (address : BitVec width) : Bool :=
  address.toNat / 2 ^ (width - range.length) = range.network.toNat / 2 ^ (width - range.length)

/-- `is_global_v4`, with the tests of `Ipv4Addr` written out. -/
def isGlobalV4 (address : Ipv4Addr) : Bool :=
  let first := address.toNat / 2 ^ 24
  let second := address.toNat / 2 ^ 16 % 256
  let third := address.toNat / 2 ^ 8 % 256
  let fourth := address.toNat % 256
  ! (address.toNat = 0 || first = 127 ||
    (first = 10 || (first = 172 && 16 ≤ second && second ≤ 31) || (first = 192 && second = 168)) ||
    (first = 169 && second = 254) || address.toNat = 0xffffffff ||
    ((first = 192 && second = 0 && third = 2) || (first = 198 && second = 51 && third = 100) ||
      (first = 203 && second = 0 && third = 113)) ||
    (224 ≤ first && first ≤ 239) || first = 0 || (first = 100 && 64 ≤ second && second ≤ 127) ||
    (first = 192 && second = 0 && third = 0) || (first = 198 && (second = 18 || second = 19)) ||
    240 ≤ first || [first, second, third, fourth] = [255, 255, 255, 255])

def isGlobalV6 (address : Ipv6Addr) : Bool :=
  if address.toNat / 2 ^ 32 = 0xffff then isGlobalV4 (address.setWidth 32)
  else
    let first := address.toNat / 2 ^ 112
    let second := address.toNat / 2 ^ 96 % 2 ^ 16
    address ≠ 0 && address ≠ 1 && first / 2 ^ 8 ≠ 0xff && first &&& 0xe000 = 0x2000 &&
      ! (first = 0x2001 && second = 0x0db8)

/-! ## The registries of special-purpose addresses -/

/-- The IPv4 ranges that are not globally reachable. -/
def specialV4 : List (Range 32) :=
  [⟨0x00000000, 8⟩, ⟨0x0a000000, 8⟩, ⟨0x64400000, 10⟩, ⟨0x7f000000, 8⟩, ⟨0xa9fe0000, 16⟩,
    ⟨0xac100000, 12⟩, ⟨0xc0000000, 24⟩, ⟨0xc0000200, 24⟩, ⟨0xc0586302, 32⟩, ⟨0xc0a80000, 16⟩,
    ⟨0xc6120000, 15⟩, ⟨0xc6336400, 24⟩, ⟨0xcb007100, 24⟩, ⟨0xf0000000, 4⟩, ⟨0xffffffff, 32⟩]

/-! An IPv4-mapped address counts as the address inside. -/

def mapped : Range 128 := ⟨0x00000000000000000000ffff00000000, 96⟩

def nat64 : Range 128 := ⟨0x0064ff9b000000000000000000000000, 96⟩

def sixToFour : Range 128 := ⟨0x20020000000000000000000000000000, 16⟩

def teredo : Range 128 := ⟨0x20010000000000000000000000000000, 32⟩

def protocols : Range 128 := ⟨0x20010000000000000000000000000000, 23⟩

def documentation : Range 128 := ⟨0x3fff0000000000000000000000000000, 20⟩

/-- The IPv6 ranges that are not globally reachable. -/
def specialV6 : List (Range 128) :=
  [⟨0, 128⟩, ⟨1, 128⟩, ⟨0x0064ff9b000100000000000000000000, 48⟩,
    ⟨0x01000000000000000000000000000000, 64⟩, ⟨0x01000000000000010000000000000000, 64⟩, protocols,
    ⟨0x20010db8000000000000000000000000, 32⟩, documentation,
    ⟨0x5f000000000000000000000000000000, 16⟩, ⟨0xfc000000000000000000000000000000, 7⟩,
    ⟨0xfe800000000000000000000000000000, 10⟩]

def allocatedV6 : List (Range 128) :=
  [⟨0x20010001000000000000000000000001, 128⟩, ⟨0x20010001000000000000000000000002, 128⟩,
    ⟨0x20010001000000000000000000000003, 128⟩, ⟨0x20010003000000000000000000000000, 32⟩,
    ⟨0x20010004011200000000000000000000, 48⟩, ⟨0x20010020000000000000000000000000, 28⟩,
    ⟨0x20010030000000000000000000000000, 28⟩]

def allocatedV4 : List (Range 32) := [⟨0xc0000009, 32⟩, ⟨0xc000000a, 32⟩]

def reachableV4 (address : Ipv4Addr) : Bool :=
  ! specialV4.any (·.contains address) || allocatedV4.any (·.contains address)

theorem Range.div_eq {width : ℕ} {range : Range width} {address : BitVec width}
    (h : range.contains address = true) {bits : ℕ} (hbits : width - range.length ≤ bits) :
    address.toNat / 2 ^ bits = range.network.toNat / 2 ^ bits := by
  have heq := of_decide_eq_true h
  rw [← Nat.add_sub_of_le hbits, Nat.pow_add, ← Nat.div_div_eq_div_mul, heq,
    Nat.div_div_eq_div_mul]

theorem isGlobalV4_of_contains {address : Ipv4Addr} {range : Range 32} (hrange : range ∈ specialV4)
    (hin : range.contains address = true) (hne : address.toNat ≠ 0xc0586302) :
    isGlobalV4 address = false := by
  have hlt := address.isLt
  have hfirst : 8 ≤ range.length → address.toNat / 2 ^ 24 = range.network.toNat / 2 ^ 24 :=
    fun hlong => Range.div_eq hin (by omega)
  have hdiv := of_decide_eq_true hin
  fin_cases hrange <;> simp at hfirst hdiv <;> simp [isGlobalV4, hfirst] <;> omega

theorem reachableV4_iff {address : Ipv4Addr} (h : isGlobalV4 address = true) :
    reachableV4 address = true ↔ address ≠ 0xc0586302 := by
  constructor
  · rintro hreachable rfl
    revert hreachable
    decide
  · intro hne
    unfold reachableV4
    rw [Bool.or_eq_true, Bool.not_eq_true', List.any_eq_false]
    refine .inl fun range hrange hin => ?_
    rw [isGlobalV4_of_contains hrange hin fun heq => hne (BitVec.eq_of_toNat_eq heq)] at h
    cases h

def ipv4At (address : Ipv6Addr) (bits : ℕ) : Ipv4Addr := BitVec.ofNat 32 (address.toNat / 2 ^ bits)

/-- The IPv4 addresses inside an IPv4-mapped, NAT64, 6to4 or Teredo address. -/
def embeddedV4 (address : Ipv6Addr) : List Ipv4Addr :=
  if mapped.contains address || nat64.contains address then [ipv4At address 0]
  else if sixToFour.contains address then [ipv4At address 80]
  else if teredo.contains address then [ipv4At address 64, ~~~ ipv4At address 0]
  else []

def reachableV6 (address : Ipv6Addr) : Bool :=
  (! specialV6.any (·.contains address) || allocatedV6.any (·.contains address)) &&
    (embeddedV4 address).all reachableV4

/-- What `is_global_v6` lets through all the same. -/
def overlookedV6 (address : Ipv6Addr) : Bool :=
  if mapped.contains address then ipv4At address 0 = 0xc0586302
  else (protocols.contains address && ! allocatedV6.any (·.contains address)) ||
    documentation.contains address ||
      (sixToFour.contains address && ! reachableV4 (ipv4At address 80))

theorem first_of_and {first : ℕ} (hlt : first < 2 ^ 16) (h : first &&& 0xe000 = 0x2000) :
    0x2000 ≤ first ∧ first < 0x4000 := by
  have hshift : (first &&& 0xe000) >>> 13 = 1 := by
    rw [h]
    rfl
  rw [Nat.shiftRight_and_distrib, show 0xe000 >>> 13 = 2 ^ 3 - 1 from rfl,
    Nat.and_two_pow_sub_one_eq_mod, Nat.shiftRight_eq_div_pow] at hshift
  omega

theorem reachableV6_iff {address : Ipv6Addr} (h : isGlobalV6 address = true) :
    reachableV6 address = true ↔ overlookedV6 address = false := by
  have hlt := address.isLt
  unfold isGlobalV6 at h
  split at h
  · next hmapped =>
    have hin : mapped.contains address = true := decide_eq_true hmapped
    have hspecial : specialV6.any (·.contains address) = false := by
      rw [List.any_eq_false]
      intro range hrange hrange'
      have hdiv := of_decide_eq_true hrange'
      fin_cases hrange <;> simp [protocols, documentation] at hdiv <;> omega
    have hsame : address.setWidth 32 = ipv4At address 0 := by
      rw [ipv4At, Nat.pow_zero, Nat.div_one]
      exact BitVec.eq_of_toNat_eq (by simp)
    rw [hsame] at h
    simp [reachableV6, overlookedV6, embeddedV4, hin, hspecial, reachableV4_iff h]
  · next hmapped =>
    simp only [Bool.and_eq_true, decide_eq_true_eq, Bool.not_eq_true', Bool.and_eq_false_iff,
      decide_eq_false_iff_not] at h
    obtain ⟨⟨-, hfirst⟩, hsecond⟩ := h
    have hbounds := first_of_and (by omega) hfirst
    have hin : mapped.contains address = false := decide_eq_false hmapped
    have hspecial : specialV6.any (·.contains address) =
        (protocols.contains address || documentation.contains address) := by
      rw [Bool.eq_iff_iff, List.any_eq_true, Bool.or_eq_true]
      constructor
      · rintro ⟨range, hrange, hrange'⟩
        have hdiv := of_decide_eq_true hrange'
        simp [Range.contains]
        fin_cases hrange <;> simp [protocols, documentation] at hdiv ⊢ <;> omega
      · rintro (hprotocols | hdocumentation)
        · exact ⟨_, by simp [specialV6], hprotocols⟩
        · exact ⟨documentation, by simp [specialV6], hdocumentation⟩
    have hnat : nat64.contains address = false := decide_eq_false fun heq => by
      simp [nat64] at heq
      omega
    have hallocated : allocatedV6.any (·.contains address) = true →
        protocols.contains address = true ∧ teredo.contains address = false := by
      rw [List.any_eq_true]
      rintro ⟨range, hrange, hrange'⟩
      have hdiv := of_decide_eq_true hrange'
      simp only [Range.contains, protocols, teredo]
      fin_cases hrange <;> simp at hdiv ⊢ <;> omega
    have hteredo : teredo.contains address = true → protocols.contains address = true := by
      simp [Range.contains, protocols, teredo]
      omega
    have hprotocols : protocols.contains address = true →
        documentation.contains address = false ∧ sixToFour.contains address = false := by
      simp [Range.contains, protocols, documentation, sixToFour]
      omega
    have hdocumentation : documentation.contains address = true →
        sixToFour.contains address = false := by
      simp [Range.contains, documentation, sixToFour]
      omega
    unfold reachableV6 overlookedV6 embeddedV4
    rw [hin, hspecial, hnat]
    cases hprotocol : protocols.contains address <;>
      cases hdocument : documentation.contains address <;>
        cases hsix : sixToFour.contains address <;> cases htunnel : teredo.contains address <;>
          simp_all

inductive IpAddr where
  | v4 (address : Ipv4Addr)
  | v6 (address : Ipv6Addr)
  deriving DecidableEq

def isGlobal : IpAddr → Bool
  | .v4 address => isGlobalV4 address
  | .v6 address => isGlobalV6 address

def reachable : IpAddr → Bool
  | .v4 address => reachableV4 address
  | .v6 address => reachableV6 address

def overlooked : IpAddr → Bool
  | .v4 address => address = 0xc0586302
  | .v6 address => overlookedV6 address

theorem reachable_iff {address : IpAddr} (h : isGlobal address = true) :
    reachable address = true ↔ overlooked address = false := by
  cases address with
  | v4 address => exact (reachableV4_iff h).trans decide_eq_false_iff_not.symm
  | v6 address => exact reachableV6_iff h

/-! ## Requests -/

structure SocketAddr where
  ip : IpAddr
  port : ℕ
  deriving DecidableEq

inductive Host where
  | domain (name : String)
  | ipv4 (address : Ipv4Addr)
  | ipv6 (address : Ipv6Addr)

structure Url where
  host : Option Host
  port : Option ℕ

structure JsonHttpResponse where
  status : ℕ
  payload : Json

structure ProviderTransportError where
  code : String
  outcome : ProviderAttemptOutcome

/-- What the calls of a request give, in their order; the deadline ends an await without answer. -/
structure Answers where
  payload : Option (Option ℕ)
  url : Option Url
  resolved : Option (Option (List SocketAddr))
  headers : Except String Unit
  client : Bool
  request : Except String Unit
  response : Option (Except String Unit)
  body : Option (Except String JsonHttpResponse)

def maxRequestBytes : ℕ := 256 * 1024

def destinationAddresses (host : Host) (port : ℕ) (resolved : Option (Option (List SocketAddr))) :
    Option (Option (Finset SocketAddr)) :=
  match host with
  | .ipv4 address => some (some {⟨.v4 address, port⟩})
  -- the text of an IPv6 host stands in brackets, and does not parse as an address
  | .domain _ | .ipv6 _ => resolved.map (·.map List.toFinset)

/-- `resolve_to_addrs` pins the lookup of a name; a literal is not looked up. -/
def Host.connects (host : Host) (port : ℕ) (addresses : Finset SocketAddr) : Finset SocketAddr :=
  match host with
  | .domain _ => addresses
  | .ipv4 address => {⟨.v4 address, port⟩}
  | .ipv6 address => {⟨.v6 address, port⟩}

/-- What the client may connect to, where it was given a request, and the result. -/
structure Attempt where
  connects : Option (Finset SocketAddr)
  result : Except ProviderTransportError JsonHttpResponse

def notSent (code : String) : Attempt := ⟨none, .error ⟨code, .notSent⟩⟩

def execute (answers : Answers) : Except ProviderTransportError JsonHttpResponse :=
  match answers.response with
  | none => .error ⟨"timeout", .uncertain⟩
  | some (.error code) => .error ⟨code, .uncertain⟩
  | some (.ok ()) =>
    match answers.body with
    | none => .error ⟨"timeout", .responseReceived⟩
    | some (.error code) => .error ⟨code, .responseReceived⟩
    | some (.ok response) => .ok response

def requestJson (allowPrivateNetwork : Bool) (answers : Answers) : Attempt :=
  if answers.payload = some none then notSent "invalid_request"
  else if maxRequestBytes < (answers.payload.bind id).getD 0 then notSent "request_too_large"
  else
    match answers.url with
    | some ⟨some host, some port⟩ =>
      match destinationAddresses host port answers.resolved with
      | none => notSent "timeout"
      | some none => notSent "destination_blocked"
      | some (some addresses) =>
        if addresses = ∅ ∨ (!allowPrivateNetwork ∧ ∃ address ∈ addresses, ¬ isGlobal address.ip) then
          notSent "destination_blocked"
        else
          match answers.headers, answers.client, answers.request with
          | .error code, _, _ => notSent code
          | .ok (), false, _ => notSent "invalid_request"
          | .ok (), true, .error code => notSent code
          | .ok (), true, .ok () => ⟨some (host.connects port addresses), execute answers⟩
    | _ => notSent "invalid_request"

/-- A request goes out only to the destinations, which are all reachable, and only an attempt
without one says that nothing was sent. -/
structure Confined (destinations : Option (Option (Finset SocketAddr))) (attempt : Attempt) :
    Prop where
  reachable : ∀ connected ∈ attempt.connects, ∃ addresses, destinations = some (some addresses) ∧
    (∀ address ∈ addresses, reachable address.ip = true) ∧ connected ⊆ addresses
  notSent : attempt.connects = none ↔ ∃ code, attempt.result = .error ⟨code, .notSent⟩

theorem confined_notSent (destinations : Option (Option (Finset SocketAddr))) (code : String) :
    Confined destinations (notSent code) :=
  ⟨nofun, iff_of_true rfl ⟨code, rfl⟩⟩

theorem execute_sent (answers : Answers) (code : String) :
    execute answers ≠ .error ⟨code, .notSent⟩ := by
  unfold execute
  repeat' split
  all_goals intro heq; cases heq

theorem requestJson_cases {answers : Answers} {host : Host} {port : ℕ}
    (hurl : answers.url = some ⟨some host, some port⟩) :
    (∃ code, requestJson false answers = notSent code) ∨
      ∃ addresses, destinationAddresses host port answers.resolved = some (some addresses) ∧
        addresses ≠ ∅ ∧ (∀ address ∈ addresses, isGlobal address.ip = true) ∧
        requestJson false answers = ⟨some (host.connects port addresses), execute answers⟩ := by
  unfold requestJson
  rw [hurl]
  dsimp only
  split
  · exact .inl ⟨_, rfl⟩
  split
  · exact .inl ⟨_, rfl⟩
  split
  · exact .inl ⟨_, rfl⟩
  · exact .inl ⟨_, rfl⟩
  next addresses hdestinations =>
  split
  · exact .inl ⟨_, rfl⟩
  next hpassed =>
  simp only [Bool.not_false, true_and, not_or, not_exists, not_and, not_not] at hpassed
  split
  · exact .inl ⟨_, rfl⟩
  · exact .inl ⟨_, rfl⟩
  · exact .inl ⟨_, rfl⟩
  · exact .inr ⟨addresses, hdestinations, hpassed.1, hpassed.2, rfl⟩

/-- Whatever else happens, a public connection is confined exactly where the test refuses an
address, or overlooks none and no literal stands beside them. -/
theorem confined_iff (host : Host) (port : ℕ) (resolved : Option (Option (List SocketAddr))) :
    (∀ answers : Answers, answers.url = some ⟨some host, some port⟩ → answers.resolved = resolved →
      Confined (destinationAddresses host port resolved) (requestJson false answers)) ↔
    ∀ addresses, destinationAddresses host port resolved = some (some addresses) → addresses ≠ ∅ →
      (∀ address ∈ addresses, isGlobal address.ip = true) →
        (∀ address ∈ addresses, overlooked address.ip = false) ∧
          host.connects port addresses ⊆ addresses := by
  constructor
  · intro h addresses hdestinations hne hglobal
    -- the run in which every call before the request goes through
    have hattempt : requestJson false
        ⟨none, some ⟨some host, some port⟩, resolved, .ok (), true, .ok (), none, none⟩ =
          ⟨some (host.connects port addresses), .error ⟨"timeout", .uncertain⟩⟩ := by
      have hpassed : ¬ (addresses = ∅ ∨ (!false) = true ∧
          ∃ address ∈ addresses, ¬ isGlobal address.ip = true) := by
        rintro (hempty | ⟨-, address, hmem, hlocal⟩)
        · exact hne hempty
        · exact hlocal (hglobal address hmem)
      simp only [requestJson, hdestinations]
      rw [if_neg hpassed]
      rfl
    have hconfined := (h _ rfl rfl).reachable (host.connects port addresses) (by rw [hattempt]; rfl)
    obtain ⟨others, hothers, hreachable, hsubset⟩ := hconfined
    rw [hdestinations] at hothers
    cases hothers
    exact ⟨fun address hmem => (reachable_iff (hglobal address hmem)).mp (hreachable address hmem),
      hsubset⟩
  · rintro h answers hurl rfl
    obtain ⟨code, hattempt⟩ | ⟨addresses, hdestinations, hne, hglobal, hattempt⟩ :=
      requestJson_cases hurl
    · rw [hattempt]
      exact confined_notSent _ code
    · obtain ⟨hoverlooked, hsubset⟩ := h addresses hdestinations hne hglobal
      rw [hattempt]
      refine ⟨fun connected hconnected => ?_, iff_of_false nofun fun ⟨code, hcode⟩ =>
        execute_sent answers code hcode⟩
      cases hconnected
      exact ⟨addresses, hdestinations, fun address hmem =>
        (reachable_iff (hglobal address hmem)).mpr (hoverlooked address hmem), hsubset⟩

/-- The 6to4 address of `10.0.0.1` counts as global. -/
theorem sixToFour_not_confined : ¬ ∀ (host : Host) (port : ℕ)
    (resolved : Option (Option (List SocketAddr))) (answers : Answers),
      answers.url = some ⟨some host, some port⟩ → answers.resolved = resolved →
        Confined (destinationAddresses host port resolved) (requestJson false answers) := by
  intro h
  have := (h (.domain "provider.example") 443
    (some (some [⟨.v6 0x20020a00000100000000000000000000, 443⟩]))
    ⟨none, some ⟨some (.domain "provider.example"), some 443⟩,
      some (some [⟨.v6 0x20020a00000100000000000000000000, 443⟩]), .ok (), true, .ok (), none, none⟩
    rfl rfl).reachable {⟨.v6 0x20020a00000100000000000000000000, 443⟩} (by decide +kernel)
  obtain ⟨addresses, haddresses, hreachable, -⟩ := this
  cases haddresses
  have := hreachable ⟨.v6 0x20020a00000100000000000000000000, 443⟩ (by decide)
  revert this
  decide +kernel

end MusicServer.Transport
