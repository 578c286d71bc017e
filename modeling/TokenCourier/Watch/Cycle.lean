import TokenCourier.Api.Exchange
import TokenCourier.Sync.Event
import TokenCourier.Watch.Notice

namespace TokenCourier

inductive WatchError where
  | list (e : ClientError)
  | start (e : ClientError)
  | told (f : ApiFailure)
  | stream (e : ClientError)
  | noVersion
deriving DecidableEq

namespace WatchError

def message : WatchError → String
  | .list e => "failed to perform initial object list: " ++ e.message
  | .start e => "failed to start watching object: " ++ e.message
  | .told f => "error returned by apiserver during watch: " ++ f.summary
  | .stream e => "watch stream failed: " ++ e.message
  | .noVersion => "no metadata.resourceVersion in watch result (does resource support watch?)"

def report (e : WatchError) : LogLine := ⟨.warn, "Watch error: " ++ e.message⟩

/-- The changes since the state asked for are no longer known. -/
def gone (f : ApiFailure) : Bool := f.code == 410

end WatchError

abbrev Item := Except WatchError WatchEvent

/-- Where a watch is. `listing` goes on from the place where the page before stopped. -/
inductive Watch where
  | fresh
  | listing (place : Option String)
  | listed (version : String)
  | following (version : String)
deriving DecidableEq

inductive Query where
  | page (place : Option String)
  | stream (version : String)
deriving DecidableEq

inductive Signal where
  | page (p : Except ClientError Page)
  | opened (r : Except ClientError Unit)
  | line (n : Except ClientError Notice)
  | closed

namespace Watch

/-- Goes on to the next wait: for the answer to a query, or for a line. -/
def ask : Watch → List Item × Watch × Option Query
  | .fresh => ([.ok .init], .listing none, some (.page none))
  | .listing place => ([], .listing place, some (.page place))
  | .listed version => ([], .listed version, some (.stream version))
  | .following version => ([], .following version, none)

def page (p : Page) : List Item × Watch :=
  let found := p.items.map fun sa => .ok (.initApply sa)
  match p.more, p.version with
  | some place, _ => (found, .listing (some place))
  | none, some version => (found ++ [.ok .initDone], .listed version)
  | none, none => ([.error .noVersion], .fresh)

def change (e : WatchEvent) (sa : ServiceAccount) : List Item × Watch :=
  match sa.metadata.resourceVersion.filter (· != "") with
  | some version => ([.ok e], .following version)
  | none => ([.error .noVersion], .fresh)

def line (version : String) : Except ClientError Notice → List Item × Watch
  | .ok (.applied sa) => change (.apply sa) sa
  | .ok (.deleted sa) => change (.delete sa) sa
  | .ok (.bookmark version) => ([], .following version)
  | .ok (.failure f) =>
    ([.error (.told f)], if WatchError.gone f then .fresh else .following version)
  | .error e => ([.error (.stream e)], .following version)

def hear : Watch → Signal → List Item × Watch
  | .listing _, .page (.ok p) => page p
  | .listing _, .page (.error e) => ([.error (.list e)], .fresh)
  | .listed version, .opened (.ok ()) => ([], .following version)
  | .listed version, .opened (.error e) => ([.error (.start e)], .listed version)
  | .following version, .line n => line version n
  | .following version, .closed => ([], .listed version)
  | w, _ => ([], w)

/-- The items that a watch yields as it learns one thing after the other. -/
def items : Watch → List Signal → List Item
  | _, [] => []
  | w, s :: ss =>
    let (asked, w, _) := w.ask
    let (heard, w) := w.hear s
    asked ++ heard ++ items w ss

end Watch

namespace Query

def escape (c : Char) : List Char :=
  if c.isAlphanum || c = '*' || c = '-' || c = '.' || c = '_' then [c]
  else if c = ' ' then ['+']
  else c.toString.toUTF8.toList.flatMap fun b =>
    '%' :: [b.toNat / 16, b.toNat % 16].map fun n => (Nat.digitChar n).toUpper

def escaped (s : String) : String := String.ofList (s.toList.flatMap escape)

def selector (name : String) : String := "&fieldSelector=" ++ escaped ("metadata.name=" ++ name)

def parameters (name : String) : Query → String
  | .page place =>
    "?&limit=500" ++ selector name ++ place.elim "" fun p => "&continue=" ++ escaped p
  | .stream version =>
    "?&watch=true&timeoutSeconds=290" ++ selector name
      ++ "&allowWatchBookmarks=true&resourceVersion=" ++ escaped version

def request (watched : ObjectKey) (q : Query) : Except RequestFault Request :=
  Request.build .get (serviceAccountsOf watched.ns ++ q.parameters watched.name) ""

end Query

end TokenCourier
