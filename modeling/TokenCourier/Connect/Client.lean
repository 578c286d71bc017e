import TokenCourier.Connect.Connection
import TokenCourier.Kube.Timestamp
import TokenCourier.Text.Der
import TokenCourier.Text.Quoted
import TokenCourier.Url.Address

namespace TokenCourier

inductive AuthFault where
  | tokenFile (path : String) (f : FileFault)
  | provider (text : String)
  | expiry (f : TimestampFault)
  | noCommand
  | command (f : FileFault)
deriving DecidableEq

namespace AuthFault

def message : AuthFault → String
  | .tokenFile path f =>
    "failed to read token file '" ++ Quoted.quoted path ++ "': " ++ f.message
  | .provider t => "failed exec auth: " ++ t
  | .expiry f => "malformed token expiration date: " ++ f.message
  | .noCommand => "command must be specified to use exec authentication plugin"
  | .command f => "unable to run auth exec: " ++ f.message

def causes : AuthFault → List String
  | .tokenFile _ f | .command f => [f.message]
  | .expiry f => [f.message]
  | _ => []

end AuthFault

/-- A bearer that no header can hold is no error of the usual kind: it ends the program. -/
inductive ClientFault where
  | bearer
  | proxyFeature (proxy : Uri) (feature : String)
  | proxyProtocol (proxy : Uri)
  | auth (f : AuthFault)
  | tls
  | header
deriving DecidableEq

namespace ClientFault

/-- The text about certificates ends where the security library's own words would begin. -/
def message : ClientFault → String
  | .bearer => "token is not a valid header value"
  | .proxyFeature proxy feature =>
    s!"configured proxy {proxy} requires the disabled feature " ++ Quoted.quoted feature
  | .proxyProtocol proxy => s!"configured proxy {proxy} uses an unsupported protocol"
  | .auth f => "auth error: " ++ f.message
  | .tls => "rustls tls error"
  | .header => "HttpError: failed to parse header value"

def causes : ClientFault → List String
  | .auth f => f.message :: f.causes
  | .header => ["failed to parse header value"]
  | _ => []

end ClientFault

namespace KubeUser

/-- A token that is used for less than this is not used any more, in seconds. -/
def tokenMargin : Int := 60

def cachedToken? (m : Machine) (p : AuthProvider) : Except AuthFault (Option String) :=
  match p.config.lookup "access-token", p.config.lookup "expiry" with
  | some token, some expiry =>
    match Timestamp.read expiry with
    | .ok t => .ok (if m.now + tokenMargin < t then some token else none)
    | .error f => .error (.expiry f)
  | _, _ => .ok none

/-- Programs for credentials are never ones that may be run here. -/
def checkCommand (m : Machine) (path : String) : Except AuthFault Unit :=
  let fault := match m.files path with
    | .error f => f
    | .ok _ => .denied
  .error (.provider (s!"Executing {path} failed: " ++ fault.describe))

def checkProvider (m : Machine) (p : AuthProvider) : Except AuthFault Unit :=
  match p.name with
  | "oidc" =>
    if (p.config.lookup "id-token").isSome then .ok ()
    else .error (.provider "No id-token for oidc Authentication provider")
  | "gcp" => do
    if (p.config.lookup "id-token").isSome then return
    if (← cachedToken? m p).isSome then return
    match p.config.lookup "cmd-path" with
    | some path => checkCommand m path
    | none =>
      throw (.provider
        "Enable oauth feature to use Google Application Credentials-based token source")
  | "azure" =>
    .error (.provider
      "The azure auth plugin is not supported; use https://github.com/Azure/kubelogin instead")
  | name => .error (.provider ("Authentication with provider " ++ name ++ " not supported"))

def checkExec (files : Files) (e : ExecPlugin) : Except AuthFault Unit :=
  match e.command with
  | none => .error .noCommand
  | some c =>
    match files c with
    | .error f => .error (.command f)
    | .ok _ => .error (.command .denied)

/-- Of several kinds of credentials the first one counts. -/
def check (m : Machine) (u : KubeUser) : Except AuthFault Unit :=
  if let some p := u.authProvider then checkProvider m p
  else if u.username.isSome && u.password.isSome then .ok ()
  else if u.token.isSome then .ok ()
  else if let some path := u.tokenFile then
    match m.files.text path with
    | .ok _ => .ok ()
    | .error f => .error (.tokenFile path f)
  else if let some e := u.exec then checkExec m.files e
  else .ok ()

/-- The first kind of credentials as a header has it. -/
def authorization? (m : Machine) (u : KubeUser) : Option String :=
  match u.authProvider, u.username, u.password with
  | some p, _, _ =>
    (p.config.lookup "id-token" <|> (cachedToken? m p).toOption.join).map ("Bearer " ++ ·)
  | none, some name, some word =>
    some ("Basic " ++ String.ofList (Base64.encode (Bytes.ofString (name ++ ":" ++ word))))
  | none, _, _ =>
    let fromFile := u.tokenFile.bind fun path => (m.files.text path).toOption
    (u.token <|> fromFile.map Space.trim).map ("Bearer " ++ ·)

def headers (m : Machine) (u : KubeUser) : List (String × String) :=
  ((u.authorization? m).map ("authorization", ·)).toList
    ++ (u.impersonate.map ("impersonate-user", ·)).toList
    ++ (u.impersonateGroups.getD []).map ("impersonate-group", ·)

def identity? (files : Files) (u : KubeUser) : Option (List UInt8) := do
  let key ← (Connection.load files u.clientKeyData u.clientKey).toOption
  let certificate ←
    (Connection.load files u.clientCertificateData u.clientCertificate).toOption
  return Connection.endLine key ++ Connection.endLine certificate

def keyLabels : List String := ["PRIVATE KEY", "RSA PRIVATE KEY", "EC PRIVATE KEY"]

def isIdentity (bs : List UInt8) : Bool :=
  match Pem.blocks bs with
  | .ok blocks =>
    (blocks.find? (keyLabels.contains ·.label)).any (Der.isKey ·.content)
      && (blocks.find? (·.label == "CERTIFICATE")).any (Der.isCertificate ·.content)
  | .error _ => false

def headerByte (b : UInt8) : Bool := (32 ≤ b && b != 127) || b == 9

def isHeader (s : String) : Bool := s.toUTF8.toList.all headerByte

def bearerFits (u : KubeUser) : Bool :=
  match u.authProvider, u.username, u.password with
  | some p, _, _ => (p.config.lookup "id-token").all isHeader
  | none, some _, some _ => true
  | none, _, _ => u.token.all isHeader

def headersFit (u : KubeUser) : Bool :=
  (u.impersonate.toList ++ u.impersonateGroups.getD []).all isHeader

end KubeUser

namespace Connection

def checkProxy (proxy : Uri) : Except ClientFault Unit :=
  if proxy.scheme = some "socks5" then .error (.proxyFeature proxy "kube/socks5")
  else if proxy.scheme = some "http" then .error (.proxyFeature proxy "kube/http-proxy")
  else .error (.proxyProtocol proxy)

def certificatesFit (files : Files) (c : Connection) : Bool :=
  (c.rootCertificates.getD []).all Der.isCertificate
    && (c.user.identity? files).all KubeUser.isIdentity
    && c.tlsServerName.all Url.isServerName

def check (m : Machine) (c : Connection) : Except ClientFault Unit := do
  if let some proxy := c.proxy then
    checkProxy proxy
  match c.user.check m with
  | .ok () => pure ()
  | .error f => throw (.auth f)
  if !c.user.bearerFits then throw .bearer
  if !c.certificatesFit m.files then throw .tls
  if !c.user.headersFit then throw .header

end Connection

end TokenCourier
