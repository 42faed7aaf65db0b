import TrojanGo.Go.Strings

/-!
# The TLS client

`NewClient` and `DialConn` of `tunnel/tls`, with `fingerprint.ParseCipher`. `NewClient` checks the
fingerprint, defaults the SNI to the remote host, parses the cipher list and loads a custom CA.
`DialConn` dials the underlay and runs the handshake of `utls` when a fingerprint is set, or of
`crypto/tls` otherwise. The handshakes themselves, the underlay and the file system are the
environment.

`ParseCipher` keeps the IDs of the known suite names and drops every other name, without its
warning, which never fires (`parseCipher_eq`). With a fingerprint, `DialConn` hands `utls` neither
the cipher list nor the session-ticket flag.
-/

set_option autoImplicit false

namespace TrojanGo.Tls

/-- A `tls.CipherSuite`: the fields `ParseCipher` reads. -/
structure CipherSuite where
  id : UInt16
  name : GoString
  deriving DecidableEq, Repr

/-- The inner loop of `ParseCipher` over the suites for the name `p`: the ID of the first suite
named `p`, if any, and the names it warns about. `found` is the loop's flag. -/
def scanSuites (p : GoString) (found : Bool) : List CipherSuite → Option UInt16 × List GoString
  | [] => (none, [])
  | q :: rest =>
      if q.name = p then (some q.id, [])
      else
        let scanned := scanSuites p found rest
        (scanned.1, (if !found then [p] else []) ++ scanned.2)

/-- `fingerprint.ParseCipher`, with `all` for `tls.CipherSuites()`: the IDs it returns, and the
names it warns about with "invalid cipher suite". -/
def parseCipher (all : List CipherSuite) (s : List GoString) : List UInt16 × List GoString :=
  s.foldl (fun acc p =>
    let found := true
    let scanned := scanSuites p found all
    (acc.1 ++ scanned.1.toList, acc.2 ++ scanned.2)) ([], [])

/-- The ID of the first suite named `p`. -/
def lookupSuite (all : List CipherSuite) (p : GoString) : Option UInt16 :=
  (all.find? (·.name = p)).map (·.id)

theorem scanSuites_found (p : GoString) (all : List CipherSuite) :
    scanSuites p true all = (lookupSuite all p, []) := by
  induction all with
  | nil => rfl
  | cons q rest ih =>
      by_cases same : q.name = p
      · simp [scanSuites, lookupSuite, same]
      · simp only [lookupSuite] at ih
        simp [scanSuites, lookupSuite, same, ih]

/-- `ParseCipher` keeps, in order, the ID of the first suite with each known name, drops every
unknown name, and never warns: its flag `found` is never false. -/
theorem parseCipher_eq (all : List CipherSuite) (s : List GoString) :
    parseCipher all s = (s.filterMap (lookupSuite all), []) := by
  suffices run : ∀ acc : List UInt16 × List GoString, s.foldl (fun acc p =>
      let scanned := scanSuites p true all
      (acc.1 ++ scanned.1.toList, acc.2 ++ scanned.2)) acc =
        (acc.1 ++ s.filterMap (lookupSuite all), acc.2) from run ([], [])
  induction s with
  | nil => intro acc; simp
  | cons p rest ih =>
      intro acc
      rw [List.foldl_cons, ih]
      cases found : lookupSuite all p <;> simp [scanSuites_found, found, List.filterMap_cons]

example : parseCipher [⟨1, "a".toList⟩, ⟨2, "b".toList⟩] (Strings.split "b:x:a".toList ':') =
    ([2, 1], []) := by decide

/-- The fields of the `ssl` section that `NewClient` reads. -/
structure TLSConfig where
  fingerprint : GoString
  sni : GoString
  verify : Bool
  cipher : GoString
  reuseSession : Bool
  certPath : GoString
  deriving DecidableEq, Repr

/-- The fields of `Config` that `NewClient` reads. -/
structure Config where
  remoteHost : GoString
  tls : TLSConfig
  deriving DecidableEq, Repr

/-- `utls.ClientHelloID`: its zero value, or one of the profiles `NewClient` picks. -/
inductive HelloID
  | zero
  | firefoxAuto
  | chromeAuto
  | iosAuto
  deriving DecidableEq, Repr

/-- The bytes of a file. -/
abbrev Bytes := List UInt8

/-- The TLS client. `ca` is the pool built from the custom CA file, if one is configured;
`keyLogger` is a key-log writer. -/
structure Client where
  verify : Bool
  sni : GoString
  ca : Option Bytes
  cipher : List UInt16
  sessionTicket : Bool
  reuseSession : Bool
  fingerprint : GoString
  helloID : HelloID
  keyLogger : Option Nat
  deriving DecidableEq, Repr

/-- The `helloID` of `NewClient`: the zero value without a fingerprint, or the profile its `switch`
picks. -/
def helloIDOf (fingerprint : GoString) : Except GoString HelloID :=
  if fingerprint = [] then .ok .zero
  else if fingerprint = "firefox".toList then .ok .firefoxAuto
  else if fingerprint = "chrome".toList then .ok .chromeAuto
  else if fingerprint = "ios".toList then .ok .iosAuto
  else .error ("invalid fingerprint ".toList ++ fingerprint)

/-- The SNI `NewClient` settles on: the configured one, or the remote host. -/
def sniOf (cfg : Config) : GoString := if cfg.tls.sni = [] then cfg.remoteHost else cfg.tls.sni

/-- The custom CA of `NewClient`: none without a `cert` path, or the pool built from the file
`readFile` reads. -/
def loadCA (readFile : GoString → Option Bytes) (certPath : GoString) : Except GoString (Option Bytes) :=
  if certPath = [] then .ok none
  else
    match readFile certPath with
    | none => .error "failed to load cert file".toList
    | some bytes => .ok (some bytes)

/-- `NewClient`; `all` is `tls.CipherSuites()` and `readFile` answers `ioutil.ReadFile`. -/
def newClient (all : List CipherSuite) (readFile : GoString → Option Bytes) (cfg : Config) :
    Except GoString Client := do
  let helloID ← helloIDOf cfg.tls.fingerprint
  let ca ← loadCA readFile cfg.tls.certPath
  pure
    { verify := cfg.tls.verify
      sni := sniOf cfg
      ca := ca
      cipher := (parseCipher all (Strings.split cfg.tls.cipher ':')).1
      sessionTicket := cfg.tls.reuseSession
      reuseSession := false
      fingerprint := cfg.tls.fingerprint
      helloID := helloID
      keyLogger := none }

/-- The handshake `DialConn` runs on the underlay's connection, with the configuration it
passes. -/
inductive Handshake
  /-- `utls.UClient` with the profile `helloID`. -/
  | utls (helloID : HelloID) (rootCAs : Option Bytes) (serverName : GoString)
      (insecureSkipVerify : Bool) (keyLogWriter : Option Nat)
  /-- `tls.Client`. -/
  | std (insecureSkipVerify : Bool) (serverName : GoString) (rootCAs : Option Bytes)
      (keyLogWriter : Option Nat) (cipherSuites : List UInt16) (sessionTicketsDisabled : Bool)
  deriving DecidableEq, Repr

/-- `DialConn`: `dialed` and `handshaken` answer the underlay's `DialConn` and the `Handshake`. -/
def Client.dialConn (c : Client) (dialed handshaken : Bool) : Except GoString Handshake :=
  if !dialed then .error "tls failed to dial conn".toList
  else
    let handshake :=
      if c.fingerprint ≠ [] then .utls c.helloID c.ca c.sni (!c.verify) c.keyLogger
      else .std (!c.verify) c.sni c.ca c.keyLogger c.cipher (!c.sessionTicket)
    if handshaken then .ok handshake
    else .error "tls failed to handshake with remote server".toList

end TrojanGo.Tls
