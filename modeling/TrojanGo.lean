import TrojanGo.Go.Strings
import TrojanGo.Go.Net
import TrojanGo.Go.Runs
import TrojanGo.Router.Rules
import TrojanGo.Router.Client
import TrojanGo.Router.NewClient
import TrojanGo.Router.Properties
import TrojanGo.Router.Tables
import TrojanGo.Statistic.Memory
import TrojanGo.Statistic.MySQL
import TrojanGo.Tunnel.Http
import TrojanGo.Tunnel.SimpleSocks
import TrojanGo.Tunnel.Tls
import TrojanGo.Redirector
import TrojanGo.Proxy
import TrojanGo.Log.SlogAdapter
import TrojanGo.Log.Writers
import TrojanGo.Log.EnabledCache
import TrojanGo.Log.Logger
import TrojanGo.Log.Format
import TrojanGo.Common
import TrojanGo.Options
import TrojanGo.Metrics
