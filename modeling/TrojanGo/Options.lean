import TrojanGo.Go.Strings

/-!
# The option handlers

The handlers that `main` pops, one after another, until one of them returns nil: `easy`
(`-server`, `-client`), `url` (`-url`, `-url-option`), the standard-input handler
(`-stdin-format`) and the config-file handler (`-config`). A handler returns an error to decline,
and `main` then tries the next one; it ends the program with `os.Exit(1)` after logging a message;
or it builds the proxy from a configuration, runs it, and returns nil once `Proxy.Run` does, which
is when the proxy's context is done.

The option loop of `url` is a fold that stops at the first option it cannot read; it gives the
defaults overridden by the last option of each key (`applyOptions_eq`), and it reads only options
of the form `key=value` with one `=` and a known key (`handle_run_options`).
-/

set_option autoImplicit false

namespace TrojanGo

namespace Options

/-- How `Handle` of an option handler ends: it returns an error, and `main` tries the next
handler; it logs `message` with `slog.Error` and calls `os.Exit(1)`; or it returns nil, and `main`
stops. -/
inductive Ending
  | error (text : GoString)
  | exit (message : GoString)
  | done
  deriving DecidableEq, Repr

/-- What `Handle` did: the configuration it built the proxy from, if it got that far, and how
it ended. -/
structure Handled (Config : Type) where
  config : Option Config
  ending : Ending
  deriving DecidableEq, Repr

/-- The functions the handlers call that are not under `src/`: `net.SplitHostPort`,
`strconv.Atoi`, `ioutil.ReadFile`, `ioutil.ReadAll` of the standard input, and
`NewProxyFromConfigData` with the data and whether it is JSON (its error, if any). -/
structure Runtime where
  splitHostPort : GoString → Except GoString (GoString × GoString)
  atoi : GoString → Except GoString Int
  readFile : GoString → Except GoString (List UInt8)
  readStdin : Except GoString (List UInt8)
  newProxyFromConfigData : List UInt8 → Bool → Option GoString

/-- The part of a handler after it has its configuration: `NewProxyFromConfigData`, then
`Run`, which returns nil once the proxy's context is done. -/
def start {Config : Type} (built : Option GoString) (config : Config) (buildError : String)
    (afterRun : Ending) : Handled Config :=
  match built with
  | some _ => ⟨some config, .exit buildError.toList⟩
  | none => ⟨some config, afterRun⟩

/-- `main`'s loop over the endings of the handlers, in the order `PopOptionHandler` pops them: a
handler that returns an error makes it pop the next one, one that returns nil or exits ends the
program; `none` is the exit with `invalid options`, when no handler is left. -/
def main : List Ending → Option Ending
  | [] => none
  | .error _ :: rest => main rest
  | ending :: _ => some ending

end Options

open Options

/-! ## `url` -/

namespace Url

/-- The fields of a share link that `Handle` reads. `NewShareInfoFromURL` and the constant
`ShareInfoTypeWebSocket` are not under `src/`. -/
structure ShareInfo where
  trojanHost : GoString
  port : Nat
  trojanPassword : GoString
  sni : GoString
  type : GoString
  host : GoString
  path : GoString
  encryption : GoString
  deriving DecidableEq, Repr

structure Websocket where
  enabled : Bool
  host : GoString
  path : GoString
  deriving DecidableEq, Repr

structure TLS where
  sni : GoString
  deriving DecidableEq, Repr

structure Shadowsocks where
  enabled : Bool
  method : GoString
  password : GoString
  deriving DecidableEq, Repr

structure Mux where
  enabled : Bool
  deriving DecidableEq, Repr

structure API where
  enabled : Bool
  apiHost : GoString
  apiPort : Int
  deriving DecidableEq, Repr

/-- `UrlConfig`, which `Handle` marshals to JSON for `NewProxyFromConfigData`. -/
structure UrlConfig where
  runType : GoString
  localAddr : GoString
  localPort : Int
  remoteAddr : GoString
  remotePort : Nat
  password : List GoString
  websocket : Websocket
  shadowsocks : Shadowsocks
  tls : TLS
  mux : Mux
  api : API
  deriving DecidableEq, Repr

/-- The variables the option loop assigns. -/
structure Settings where
  muxEnabled : Bool
  listenHost : GoString
  listenPort : Int
  apiEnabled : Bool
  apiHost : GoString
  apiPort : Int
  deriving DecidableEq, Repr

/-- Their values before the loop: `false`, `127.0.0.1`, `1080`, `false`, `127.0.0.1`, `10000`. -/
def Settings.initial : Settings := ⟨false, "127.0.0.1".toList, 1080, false, "127.0.0.1".toList, 10000⟩

/-- What an option that the loop reads sets. -/
inductive Setting
  | mux (enabled : Bool)
  | listen (host : GoString) (port : Int)
  | api (host : GoString) (port : Int)
  deriving DecidableEq, Repr

/-- `net.SplitHostPort(val)`, then `strconv.Atoi` of the port; each failure gives its message. -/
def hostPort (rt : Runtime) (val : GoString) (addressError portError : String) :
    Except GoString (GoString × Int) :=
  match rt.splitHostPort val with
  | .error _ => .error addressError.toList
  | .ok (host, port) =>
      match rt.atoi port with
      | .error _ => .error portError.toList
      | .ok port => .ok (host, port)

/-- The checks of one pass of the option loop on `o`: what the option sets, or the message
`Handle` logs before `os.Exit(1)`. The `listen` and `api` cases assign the host, and `api` the
flag, before checking the port; a failed check exits, so the early assignments are never seen. -/
def parseOption (rt : Runtime) (o : GoString) : Except GoString Setting :=
  match Strings.split o '=' with
  | [key, val] =>
      if key = "mux".toList then
        match Strings.parseBool val with
        | .ok enabled => .ok (.mux enabled)
        | .error _ => .error "invalid mux option".toList
      else if key = "listen".toList then
        (hostPort rt val "invalid listen address" "invalid listen port").map fun (host, port) => .listen host port
      else if key = "api".toList then
        (hostPort rt val "invalid api address" "invalid api port").map fun (host, port) => .api host port
      else .error "invalid url option".toList
  | _ => .error "option format error; expected key=value".toList

/-- The assignments of one pass. -/
def Settings.set (settings : Settings) : Setting → Settings
  | .mux enabled => { settings with muxEnabled := enabled }
  | .listen host port => { settings with listenHost := host, listenPort := port }
  | .api host port => { settings with apiEnabled := true, apiHost := host, apiPort := port }

/-- One pass of the option loop. -/
def applyOption (rt : Runtime) (settings : Settings) (o : GoString) : Except GoString Settings :=
  (parseOption rt o).map settings.set

/-- The loop over `strings.Split(*u.option, ";")`, which stops at the first option that makes
`Handle` exit. -/
def applyOptions (rt : Runtime) (option : GoString) : Except GoString Settings :=
  (Strings.split option ';').foldlM (applyOption rt) Settings.initial

/-- The shadowsocks settings of `info.Encryption`: enabled, with a method and a password, when it
starts with `ss;` and the rest splits at `:` into exactly two parts. -/
def shadowsocksOf (encryption : GoString) : Except GoString Shadowsocks :=
  if Strings.hasPrefix encryption "ss;".toList then
    match Strings.split (encryption.drop 3) ':' with
    | [method, password] => .ok ⟨true, method, password⟩
    | _ => .error "invalid shadowsocks config".toList
  else .ok ⟨false, [], []⟩

/-- The configuration `Handle` builds from the share link, the shadowsocks settings and the
options. -/
def urlConfig (info : ShareInfo) (webSocket : Bool) (shadowsocks : Shadowsocks) (settings : Settings) :
    UrlConfig where
  runType := "client".toList
  localAddr := settings.listenHost
  localPort := settings.listenPort
  remoteAddr := info.trojanHost
  remotePort := info.port
  password := [info.trojanPassword]
  websocket := ⟨webSocket, info.host, info.path⟩
  shadowsocks := shadowsocks
  tls := ⟨info.sni⟩
  mux := ⟨settings.muxEnabled⟩
  api := ⟨settings.apiEnabled, settings.apiHost, settings.apiPort⟩

/-- `url.Handle`, given what `NewShareInfoFromURL` makes of the link, the value of
`ShareInfoTypeWebSocket`, and whether `NewProxyFromConfigData` fails on a configuration. It
returns what the proxy's `Run` returns, nil. -/
def handle (rt : Runtime) (newShareInfoFromURL : GoString → Except GoString ShareInfo)
    (shareInfoTypeWebSocket : GoString) (build : UrlConfig → Option GoString) (url option : GoString) :
    Handled UrlConfig :=
  if url = [] then ⟨none, .error []⟩
  else
    match newShareInfoFromURL url with
    | .error _ => ⟨none, .exit "failed to parse share URL".toList⟩
    | .ok info =>
        match shadowsocksOf info.encryption with
        | .error message => ⟨none, .exit message⟩
        | .ok shadowsocks =>
            match applyOptions rt option with
            | .error message => ⟨none, .exit message⟩
            | .ok settings =>
                let config := urlConfig info (decide (info.type = shareInfoTypeWebSocket)) shadowsocks settings
                start (build config) config "failed to build proxy from url config" .done

/-! ### The option loop -/

def Setting.mux? : Setting → Option Bool
  | .mux enabled => some enabled
  | _ => none

def Setting.listen? : Setting → Option (GoString × Int)
  | .listen host port => some (host, port)
  | _ => none

def Setting.api? : Setting → Option (GoString × Int)
  | .api host port => some (host, port)
  | _ => none

/-- The settings after the options `parsed` from `settings`: for each key, the value of its last
option, or the value before; `api` is enabled by any `api` option. -/
def Settings.last (settings : Settings) (parsed : List Setting) : Settings :=
  let listen := (parsed.filterMap Setting.listen?).getLast?.getD (settings.listenHost, settings.listenPort)
  let api := (parsed.filterMap Setting.api?).getLast?.getD (settings.apiHost, settings.apiPort)
  ⟨(parsed.filterMap Setting.mux?).getLast?.getD settings.muxEnabled, listen.1, listen.2,
    settings.apiEnabled || (parsed.filterMap Setting.api?) ≠ [], api.1, api.2⟩

/-- A fold whose step reads an item, then assigns from what it read, is reading all the items,
then folding the assignments; it fails at the first item it cannot read. -/
theorem foldlM_map_eq_mapM {ε α β σ : Type} (read : α → Except ε β) (assign : σ → β → σ) (items : List α)
    (init : σ) :
    items.foldlM (fun state item => (read item).map (assign state)) init =
      (items.mapM read).map fun values => values.foldl assign init := by
  induction items generalizing init with
  | nil => rfl
  | cons item rest ih =>
      rw [List.foldlM_cons, List.mapM_cons]
      cases read item with
      | error err => rfl
      | ok value =>
          show rest.foldlM _ (assign init value) = _
          rw [ih]
          cases rest.mapM read <;> rfl

theorem foldl_set (settings : Settings) (parsed : List Setting) :
    parsed.foldl Settings.set settings = settings.last parsed := by
  induction parsed generalizing settings with
  | nil => simp [Settings.last]
  | cons setting rest ih =>
      rw [List.foldl_cons, ih]
      cases setting <;> simp [Settings.last, Settings.set, Setting.mux?, Setting.listen?, Setting.api?, List.getLast?_cons]

/-- The option loop reads every option, stopping at the first it cannot read with that option's
message, and gives the defaults overridden, key by key, by the last option of the key. -/
theorem applyOptions_eq (rt : Runtime) (option : GoString) :
    applyOptions rt option = ((Strings.split option ';').mapM (parseOption rt)).map Settings.initial.last := by
  rw [applyOptions, ← funext fun parsed => foldl_set Settings.initial parsed]
  exact foldlM_map_eq_mapM (parseOption rt) Settings.set _ _

/-- An option the loop reads is `key=value` with one `=`, with the key `mux`, `listen` or `api`. -/
theorem parseOption_eq_ok {rt : Runtime} {o : GoString} {setting : Setting} (read : parseOption rt o = .ok setting) :
    ∃ key ∈ ["mux", "listen", "api"].map String.toList, ∃ val, '=' ∉ val ∧ o = key ++ '=' :: val := by
  unfold parseOption at read
  split at read
  · rename_i key val parts
    have val_ok : '=' ∉ val := Strings.not_mem_of_mem_split (parts ▸ List.mem_cons_of_mem _ (List.mem_singleton_self val))
    refine ⟨key, ?_, val, val_ok, Strings.eq_of_split_eq_pair parts⟩
    split_ifs at read with mux listen api <;> simp_all [Except.map]
  · cases read

theorem mem_of_foldlM_eq_ok {rt : Runtime} {options : List GoString} {init settings : Settings}
    (accepted : options.foldlM (applyOption rt) init = .ok settings) :
    ∀ o ∈ options, ∃ setting, parseOption rt o = .ok setting := by
  induction options generalizing init with
  | nil => simp
  | cons o rest ih =>
      rw [List.foldlM_cons] at accepted
      cases read : parseOption rt o with
      | error message => simp [applyOption, read, Except.map, bind, Except.bind] at accepted
      | ok setting =>
          simp only [applyOption, read, Except.map, bind, Except.bind] at accepted
          exact List.forall_mem_cons.mpr ⟨⟨setting, read⟩, ih accepted⟩

/-- `Handle` builds a proxy only from options that are each `key=value`, with one `=` and the
key `mux`, `listen` or `api`: an empty `-url-option`, a trailing `;` or an empty option between two
`;` makes it exit. -/
theorem handle_run_options {rt : Runtime} {newShareInfoFromURL : GoString → Except GoString ShareInfo}
    {shareInfoTypeWebSocket : GoString} {build : UrlConfig → Option GoString} {url option : GoString}
    {config : UrlConfig}
    (built : (handle rt newShareInfoFromURL shareInfoTypeWebSocket build url option).config = some config) :
    ∀ o ∈ Strings.split option ';',
      ∃ key ∈ ["mux", "listen", "api"].map String.toList, ∃ val, '=' ∉ val ∧ o = key ++ '=' :: val := by
  intro o member
  unfold handle at built
  split_ifs at built
  split at built
  · cases built
  · split at built
    · cases built
    · split at built
      · cases built
      · rename_i settings accepted
        obtain ⟨setting, read⟩ := mem_of_foldlM_eq_ok accepted o member
        exact parseOption_eq_ok read

/-- The default `-url-option`, `mux=true;listen=127.0.0.1:1080`, under a runtime that splits every
address into `127.0.0.1` and `1080`. -/
theorem handle_run_options_of_default_option :
    (handle ⟨fun _ => .ok ("127.0.0.1".toList, "1080".toList), fun _ => .ok 1080, fun _ => .error [], .error [],
          fun _ _ => none⟩
        (fun _ => .ok ⟨"example.com".toList, 443, "pass".toList, [], [], [], [], []⟩) "ws".toList (fun _ => none)
        "trojan-go://pass@example.com:443".toList "mux=true;listen=127.0.0.1:1080".toList).config =
      some (urlConfig ⟨"example.com".toList, 443, "pass".toList, [], [], [], [], []⟩ false ⟨false, [], []⟩
        ⟨true, "127.0.0.1".toList, 1080, false, "127.0.0.1".toList, 10000⟩) ∧
    ∀ o ∈ Strings.split "mux=true;listen=127.0.0.1:1080".toList ';',
      ∃ key ∈ ["mux", "listen", "api"].map String.toList, ∃ val, '=' ∉ val ∧ o = key ++ '=' :: val := by
  refine ⟨?built, handle_run_options ?built⟩
  decide

end Url

/-! ## `easy` -/

namespace Easy

/-- The flags `-server`, `-client`, `-password`, `-local`, `-remote`, `-cert` and `-key`. -/
structure Flags where
  server : Bool
  client : Bool
  password : GoString
  localAddr : GoString
  remote : GoString
  cert : GoString
  key : GoString
  deriving DecidableEq, Repr

/-- Their defaults. -/
def Flags.default : Flags := ⟨false, false, [], [], [], "server.crt".toList, "server.key".toList⟩

structure ClientConfig where
  runType : GoString
  localAddr : GoString
  localPort : Int
  remoteAddr : GoString
  remotePort : Int
  password : List GoString
  deriving DecidableEq, Repr

structure TLS where
  sni : GoString
  cert : GoString
  key : GoString
  deriving DecidableEq, Repr

structure ServerConfig where
  runType : GoString
  localAddr : GoString
  localPort : Int
  remoteAddr : GoString
  remotePort : Int
  password : List GoString
  tls : TLS
  deriving DecidableEq, Repr

/-- The configuration `Handle` marshals to JSON for `NewProxyFromConfigData`. -/
inductive Config
  | client (config : ClientConfig)
  | server (config : ServerConfig)
  deriving DecidableEq, Repr

/-- The checks both modes make, in their order: `SplitHostPort` of the local address, then of the
remote one, then `Atoi` of the local port, then of the remote one. -/
def addresses (rt : Runtime) (localAddr remote : GoString) :
    Except GoString ((GoString × Int) × (GoString × Int)) :=
  match rt.splitHostPort localAddr with
  | .error _ => .error "invalid local addr format".toList
  | .ok (localHost, localPortStr) =>
      match rt.splitHostPort remote with
      | .error _ => .error "invalid remote addr format".toList
      | .ok (remoteHost, remotePortStr) =>
          match rt.atoi localPortStr with
          | .error _ => .error "invalid local port".toList
          | .ok localPort =>
              match rt.atoi remotePortStr with
              | .error _ => .error "invalid remote port".toList
              | .ok remotePort => .ok ((localHost, localPort), (remoteHost, remotePort))

/-- `easy.Handle`, given whether `NewProxyFromConfigData` fails on a configuration. It declines
without `-server` and `-client`, takes the client mode when `-client` is set, fills in an empty
address with its mode's default (the client's remote address has none), and returns nil once the
proxy's `Run` does. -/
def handle (rt : Runtime) (build : Config → Option GoString) (flags : Flags) : Handled Config :=
  if !flags.server && !flags.client then ⟨none, .error "empty".toList⟩
  else if flags.password = [] then ⟨none, .exit "empty password is not allowed".toList⟩
  else if flags.client then
    let localAddr := if flags.localAddr = [] then "127.0.0.1:1080".toList else flags.localAddr
    match addresses rt localAddr flags.remote with
    | .error message => ⟨none, .exit message⟩
    | .ok ((localHost, localPort), (remoteHost, remotePort)) =>
        let config := Config.client ⟨"client".toList, localHost, localPort, remoteHost, remotePort, [flags.password]⟩
        start (build config) config "failed to build proxy config" .done
  else
    let remote := if flags.remote = [] then "127.0.0.1:80".toList else flags.remote
    let localAddr := if flags.localAddr = [] then "0.0.0.0:443".toList else flags.localAddr
    match addresses rt localAddr remote with
    | .error message => ⟨none, .exit message⟩
    | .ok ((localHost, localPort), (remoteHost, remotePort)) =>
        let config := Config.server
          ⟨"server".toList, localHost, localPort, remoteHost, remotePort, [flags.password], ⟨[], flags.cert, flags.key⟩⟩
        start (build config) config "failed to build proxy config" .done

end Easy

/-! ## The standard-input and config-file handlers of `proxy` -/

namespace Proxy

/-- `StdinOption.isFormatJson`: an error when the format is `disabled`, else whether its lower
case is `json`. `unicodeLower` is `unicode.ToLower`. -/
def StdinOption.isFormatJson (unicodeLower : Char → Char) (format : GoString) : Except GoString Bool :=
  if format = "disabled".toList then .error "reading from stdin is disabled".toList
  else .ok (decide (Strings.toLower unicodeLower format = "json".toList))

/-- `StdinOption.Handle`: the hint it prints is left out. -/
def StdinOption.handle (rt : Runtime) (unicodeLower : Char → Char) (format : GoString) :
    Handled (List UInt8 × Bool) :=
  match StdinOption.isFormatJson unicodeLower format with
  | .error e => ⟨none, .error e⟩
  | .ok isJSON =>
      match rt.readStdin with
      | .error _ => ⟨none, .exit "failed to read from stdin".toList⟩
      | .ok data =>
          start (rt.newProxyFromConfigData data isJSON) (data, isJSON) "failed to build proxy from stdin config" .done

/-- `detectAndReadConfig`: the format by the suffix, and `os.Exit(1)` for another; then the
file's data, or the error of reading it. -/
def detectAndReadConfig (rt : Runtime) (file : GoString) : Except Ending (List UInt8 × Bool) :=
  let isJSON : Option Bool :=
    if Strings.hasSuffix file ".json".toList then some true
    else if Strings.hasSuffix file ".yaml".toList || Strings.hasSuffix file ".yml".toList then some false
    else none
  match isJSON with
  | none => .error (.exit "unsupported config format; use .yaml or .json".toList)
  | some isJSON =>
      match rt.readFile file with
      | .error err => .error (.error err)
      | .ok data => .ok (data, isJSON)

/-- `defaultConfigPath`. -/
def defaultConfigPath : List GoString := ["config.json", "config.yml", "config.yaml"].map String.toList

/-- The search over the default paths: the first file that reads; a file that does not read is
skipped. -/
def searchDefault (rt : Runtime) : List GoString → Except Ending (Option (List UInt8 × Bool))
  | [] => .ok none
  | file :: rest =>
      match detectAndReadConfig rt file with
      | .ok read => .ok (some read)
      | .error (.error _) => searchDefault rt rest
      | .error ending => .error ending

/-- The switch of `Option.Handle` on the path: with no path, the search over the defaults; with
one, that file, where a failed read exits. -/
def Option.readConfig (rt : Runtime) (path : GoString) : Except Ending (Option (List UInt8 × Bool)) :=
  if path = [] then searchDefault rt defaultConfigPath
  else
    match detectAndReadConfig rt path with
    | .ok read => .ok (some read)
    | .error (.error _) => .error (.exit "failed to read config".toList)
    | .error ending => .error ending

/-- `Option.Handle` of `-config`: the file read, then the proxy built and run. After the proxy's
`Run` returns nil, it logs `no valid config` and exits, as it does when no file was read. -/
def Option.handle (rt : Runtime) (path : GoString) : Handled (List UInt8 × Bool) :=
  match Option.readConfig rt path with
  | .error ending => ⟨none, ending⟩
  | .ok none => ⟨none, .exit "no valid config".toList⟩
  | .ok (some (data, isJSON)) =>
      start (rt.newProxyFromConfigData data isJSON) (data, isJSON) "failed to build proxy from config"
        (.exit "no valid config".toList)

end Proxy

end TrojanGo
